/-
Module: Integr8s.Lib.Coroutine
Purpose: Coroutines as trees of awaited commands: between two awaits the code
  is pure, an awaited command answers or raises, and a loop runs its body
  until it says to stop.
Trusted boundary: none
Main exports: Coroutine, Coroutine.call, Coroutine.attempt, Coroutine.unroll,
  Coroutine.repeatWhile, Coroutine.result?, Coroutine.alone,
  Coroutine.Asks, Coroutine.alone_andThen
-/
import Mathlib.Logic.Function.Basic

universe u v

/-- A coroutine that returns a value of type `α` or raises an error.  The
index is the type of the value, since a loop body answers whether to go on
whatever the coroutine itself returns. -/
inductive Coroutine (Command : Type) (Reply : Command → Type)
    (Error : Type) : Type → Type 1 where
  | done {α : Type} (result : Except Error α) :
      Coroutine Command Reply Error α
  | await {α : Type} (command : Command)
      (resume : Except Error (Reply command) →
        Coroutine Command Reply Error α) :
      Coroutine Command Reply Error α
  | loop {α : Type} (body : Coroutine Command Reply Error Bool)
      (resume : Except Error Unit → Coroutine Command Reply Error α) :
      Coroutine Command Reply Error α

namespace Coroutine

variable {Command : Type} {Reply : Command → Type} {Error α β : Type}

/-- Go on with the result of a coroutine, returned or raised. -/
def andThen : {α : Type} → Coroutine Command Reply Error α →
    (Except Error α → Coroutine Command Reply Error β) →
    Coroutine Command Reply Error β
  | _, .done result, next => next result
  | _, .await command resume, next =>
      .await command fun reply => andThen (resume reply) next
  | _, .loop body resume, next =>
      .loop body fun reply => andThen (resume reply) next

/-- Sequencing: an error skips what follows. -/
def bind (first : Coroutine Command Reply Error α)
    (next : α → Coroutine Command Reply Error β) :
    Coroutine Command Reply Error β :=
  first.andThen fun
    | .ok value => next value
    | .error error => .done (.error error)

instance : Monad (Coroutine Command Reply Error) where
  pure value := .done (.ok value)
  bind first next := Coroutine.bind first next

/-- `raise`. -/
def raise (error : Error) : Coroutine Command Reply Error α :=
  .done (.error error)

/-- `try: first except: handler`. -/
def attempt (first : Coroutine Command Reply Error α)
    (handler : Error → Coroutine Command Reply Error α) :
    Coroutine Command Reply Error α :=
  first.andThen fun
    | .ok value => .done (.ok value)
    | .error error => handler error

instance : MonadExceptOf Error (Coroutine Command Reply Error) where
  throw := Coroutine.raise
  tryCatch := Coroutine.attempt

/-- Await one command. -/
def call (command : Command) :
    Coroutine Command Reply Error (Reply command) :=
  .await command .done

/-- `while True`: run the body until it answers false or raises. -/
def repeatWhile (body : Coroutine Command Reply Error Bool) :
    Coroutine Command Reply Error Unit :=
  .loop body .done

/-- One round of a loop, and the loop again when the body says so. -/
def unroll (body : Coroutine Command Reply Error Bool)
    (resume : Except Error Unit → Coroutine Command Reply Error α) :
    Coroutine Command Reply Error α :=
  body.andThen fun
    | .ok true => .loop body resume
    | .ok false => resume (.ok ())
    | .error error => resume (.error error)

/-- What a coroutine that has ended returned or raised. -/
def result? : Coroutine Command Reply Error α → Option (Except Error α)
  | .done result => some result
  | .await .. => none
  | .loop .. => none

theorem result_eq_some {coroutine : Coroutine Command Reply Error α}
    {result : Except Error α} (ended : coroutine.result? = some result) :
    coroutine = .done result := by
  cases coroutine with
  | done value =>
      cases ended
      rfl
  | await command resume => cases ended
  | loop body resume => cases ended

/-- Run a coroutine without loops from a state that nobody else touches. -/
def alone {Shared : Type v}
    (perform : Shared → (command : Command) →
      Except Error (Reply command) × Shared) :
    {α : Type} → Coroutine Command Reply Error α → Shared →
      Option (Except Error α × Shared)
  | _, .done result, shared => some (result, shared)
  | _, .await command resume, shared =>
      let after := perform shared command
      alone perform (resume after.1) after.2
  | _, .loop .., _ => none

section Asks

variable {allowed : Command → Prop}

/-- Every command that a coroutine can ever await is allowed, whatever it is
answered. -/
def Asks (allowed : Command → Prop) :
    {α : Type} → Coroutine Command Reply Error α → Prop
  | _, .done _ => True
  | _, .await command resume =>
      allowed command ∧ ∀ reply, Asks allowed (resume reply)
  | _, .loop body resume =>
      Asks allowed body ∧ ∀ reply, Asks allowed (resume reply)

/-- Where every command is allowed, a coroutine can await only such. -/
theorem asks_of_forall (may : ∀ command, allowed command)
    (coroutine : Coroutine Command Reply Error α) : coroutine.Asks allowed := by
  induction coroutine with
  | done result => trivial
  | await command resume inductionHypothesis =>
      exact ⟨may command, inductionHypothesis⟩
  | loop body resume ofBody inductionHypothesis =>
      exact ⟨ofBody, inductionHypothesis⟩

theorem Asks.mono {other : Command → Prop}
    {coroutine : Coroutine Command Reply Error α}
    (asks : coroutine.Asks allowed)
    (may : ∀ command, allowed command → other command) :
    coroutine.Asks other := by
  induction coroutine with
  | done result => trivial
  | await command resume inductionHypothesis =>
      exact ⟨may command asks.1, fun reply =>
        inductionHypothesis reply (asks.2 reply)⟩
  | loop body resume ofBody inductionHypothesis =>
      exact ⟨ofBody asks.1, fun reply =>
        inductionHypothesis reply (asks.2 reply)⟩

theorem Asks.andThen {first : Coroutine Command Reply Error α}
    {next : Except Error α → Coroutine Command Reply Error β}
    (asks : first.Asks allowed) (later : ∀ result, (next result).Asks allowed) :
    (first.andThen next).Asks allowed := by
  induction first with
  | done result => exact later result
  | await command resume inductionHypothesis =>
      exact ⟨asks.1, fun reply => inductionHypothesis reply (asks.2 reply)
        later⟩
  | loop body resume _ inductionHypothesis =>
      exact ⟨asks.1, fun reply => inductionHypothesis reply (asks.2 reply)
        later⟩

theorem Asks.pure (value : α) :
    (Pure.pure value : Coroutine Command Reply Error α).Asks allowed :=
  trivial

theorem Asks.raise (error : Error) :
    (Coroutine.raise error : Coroutine Command Reply Error α).Asks allowed :=
  trivial

theorem Asks.bind {first : Coroutine Command Reply Error α}
    {next : α → Coroutine Command Reply Error β}
    (asks : first.Asks allowed) (later : ∀ value, (next value).Asks allowed) :
    (first >>= next).Asks allowed := by
  apply Asks.andThen asks
  intro result
  cases result with
  | ok value => exact later value
  | error error => trivial

theorem Asks.attempt {first : Coroutine Command Reply Error α}
    {handler : Error → Coroutine Command Reply Error α}
    (asks : first.Asks allowed)
    (handles : ∀ error, (handler error).Asks allowed) :
    (first.attempt handler).Asks allowed := by
  apply Asks.andThen asks
  intro result
  cases result with
  | ok value => trivial
  | error error => exact handles error

theorem Asks.call {command : Command} (may : allowed command) :
    (Coroutine.call command : Coroutine Command Reply Error _).Asks allowed :=
  ⟨may, fun _ => trivial⟩

theorem Asks.unroll {body : Coroutine Command Reply Error Bool}
    {resume : Except Error Unit → Coroutine Command Reply Error α}
    (asks : (Coroutine.loop body resume).Asks allowed) :
    (Coroutine.unroll body resume).Asks allowed := by
  apply Asks.andThen asks.1
  intro result
  match result with
  | .ok true => exact asks
  | .ok false => exact asks.2 _
  | .error error => exact asks.2 _

end Asks

@[simp] theorem andThen_done (first : Coroutine Command Reply Error α) :
    (first.andThen fun result => .done result) = first := by
  induction first with
  | done result => rfl
  | await command resume inductionHypothesis =>
      simp only [andThen, inductionHypothesis]
  | loop body resume _ inductionHypothesis =>
      simp only [andThen, inductionHypothesis]

/-- What comes next goes on from the state that the first coroutine leaves. -/
theorem alone_andThen {Shared : Type v}
    {perform : Shared → (command : Command) →
      Except Error (Reply command) × Shared}
    (first : Coroutine Command Reply Error α)
    (next : Except Error α → Coroutine Command Reply Error β)
    (shared : Shared) :
    (first.andThen next).alone perform shared =
      (first.alone perform shared).bind fun after =>
        (next after.1).alone perform after.2 := by
  induction first generalizing shared with
  | done result => rfl
  | await command resume inductionHypothesis =>
      simp only [andThen, alone, inductionHypothesis]
  | loop body resume _ _ => rfl

theorem pure_eq (value : α) :
    (pure value : Coroutine Command Reply Error α) = .done (.ok value) :=
  rfl

theorem bind_eq (first : Coroutine Command Reply Error α)
    (next : α → Coroutine Command Reply Error β) :
    first >>= next = first.bind next :=
  rfl

end Coroutine
