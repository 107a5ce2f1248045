/-
Module: Integr8s.Lib.Typestate
Purpose: Callers whose coroutines follow a typestate: what a caller may await
  in a local state, which answers it can get there and where they take it.
  Whether a coroutine follows its typestate is decided without the others, and
  a law about the shared state and everyone's local states is shown for one
  step of the typestates.
Trusted boundary: none
Main exports: Typestate, Typestate.Follows, Typestate.follows_bind,
  Typestate.follows_attempt, Typestate.follows_call,
  Typestate.follows_repeatWhile, Typestate.follows_asks, Typestate.Law,
  Typestate.Obeyed.performed, Typestate.Law.run
-/
import Integr8s.Lib.RelyGuarantee

universe u v w x y

/-- What a caller may await in a local state, which answers it can get there,
the local state after an answer, where a caller may stand at the head of a
loop, and what holds of the local state of a killed caller. -/
structure Typestate (Local : Type w) (Command : Type)
    (Reply : Command → Type) (Error : Type) where
  awaits : Local → Command → Prop
  answers : Local → (command : Command) →
    Except Error (Reply command) → Prop := fun _ _ _ => True
  after : Local → (command : Command) → Except Error (Reply command) → Local
  loops : Local → Prop := fun _ => True
  gone : Local → Prop := fun _ => True

namespace Typestate

variable {Local : Type w} {Command : Type} {Reply : Command → Type}
  {Error α β : Type} (typestate : Typestate Local Command Reply Error)

/-- What a round of a loop reaches: the loop's own assertion when it goes on,
and what follows the loop when it stops or raises. -/
def AfterRound (again : Local → Prop)
    (ends : Except Error Unit → Local → Prop) (answer : Except Error Bool)
    (there : Local) : Prop :=
  match answer with
  | .ok true => again there
  | .ok false => ends (.ok ()) there
  | .error error => ends (.error error) there

/-- From this local state a coroutine awaits only what it may, and its result
satisfies the postcondition.  A loop keeps an assertion of its own. -/
def Follows : {α : Type} → Coroutine Command Reply Error α →
    (Except Error α → Local → Prop) → Local → Prop
  | _, .done result, post, here => post result here
  | _, .await command resume, post, here =>
      typestate.awaits here command ∧
        ∀ reply, typestate.answers here command reply →
          Follows (resume reply) post (typestate.after here command reply)
  | _, .loop body resume, post, here =>
      ∃ again : Local → Prop, again here ∧
        ∀ head, again head → typestate.loops head ∧
          Follows body
            (AfterRound again fun result => Follows (resume result) post) head

/-! ### The rules for coroutines -/

section Rules

variable {typestate} {here : Local}

private theorem follows_andThen (first : Coroutine Command Reply Error α)
    (next : Except Error α → Coroutine Command Reply Error β)
    (post : Except Error β → Local → Prop) :
    typestate.Follows (first.andThen next) post =
      typestate.Follows first
        (fun result => typestate.Follows (next result) post) := by
  induction first with
  | done result => rfl
  | await command resume inductionHypothesis =>
      funext here
      simp only [Coroutine.andThen, Follows, inductionHypothesis]
  | loop body resume _ inductionHypothesis =>
      funext here
      simp only [Coroutine.andThen, Follows, inductionHypothesis]

/-- What follows a typestate to a postcondition follows it to a weaker one. -/
theorem follows_mono {coroutine : Coroutine Command Reply Error α}
    {strong weak : Except Error α → Local → Prop}
    (weaken : ∀ result there, strong result there → weak result there)
    (follows : typestate.Follows coroutine strong here) :
    typestate.Follows coroutine weak here := by
  induction coroutine generalizing here with
  | done result => exact weaken result here follows
  | await command resume inductionHypothesis =>
      exact ⟨follows.1, fun reply may =>
        inductionHypothesis reply weaken (follows.2 reply may)⟩
  | loop body resume bodyHypothesis resumeHypothesis =>
      obtain ⟨again, begins, rounds⟩ := follows
      refine ⟨again, begins, fun head goesOn => ?_⟩
      obtain ⟨stands, round⟩ := rounds head goesOn
      refine ⟨stands, bodyHypothesis ?_ round⟩
      intro answer there reached
      match answer with
      | .ok true => exact reached
      | .ok false => exact resumeHypothesis _ weaken reached
      | .error error => exact resumeHypothesis _ weaken reached

@[simp] theorem follows_pure (value : α)
    (post : Except Error α → Local → Prop) :
    typestate.Follows (pure value) post here = post (.ok value) here :=
  rfl

@[simp] theorem follows_raise (error : Error)
    (post : Except Error α → Local → Prop) :
    typestate.Follows (Coroutine.raise error) post here =
      post (.error error) here :=
  rfl

/-- Sequencing: what follows starts in the local state that the first part
ends in, and an error of the first part is the result. -/
theorem follows_bind (first : Coroutine Command Reply Error α)
    (next : α → Coroutine Command Reply Error β)
    (post : Except Error β → Local → Prop) :
    typestate.Follows (first >>= next) post here =
      typestate.Follows first
        (fun result there => match result with
          | .ok value => typestate.Follows (next value) post there
          | .error error => post (.error error) there) here := by
  rw [Coroutine.bind_eq, Coroutine.bind, follows_andThen]
  congr 1
  funext result
  cases result <;> rfl

/-- `try`: the handler starts in the local state in which the error was
raised. -/
theorem follows_attempt (first : Coroutine Command Reply Error α)
    (handler : Error → Coroutine Command Reply Error α)
    (post : Except Error α → Local → Prop) :
    typestate.Follows (first.attempt handler) post here =
      typestate.Follows first
        (fun result there => match result with
          | .ok value => post (.ok value) there
          | .error error =>
              typestate.Follows (handler error) post there) here := by
  rw [Coroutine.attempt, follows_andThen]
  congr 1
  funext result
  cases result <;> rfl

/-- One command: it may be awaited here, and every answer leads to the
postcondition. -/
theorem follows_call {command : Command}
    {post : Except Error (Reply command) → Local → Prop}
    (may : typestate.awaits here command)
    (leads : ∀ reply, typestate.answers here command reply →
      post reply (typestate.after here command reply)) :
    typestate.Follows (Coroutine.call command) post here :=
  ⟨may, leads⟩

/-- A loop from an assertion of its own, which holds at the head of every
round. -/
theorem follows_repeatWhile {body : Coroutine Command Reply Error Bool}
    {post : Except Error Unit → Local → Prop} (again : Local → Prop)
    (begins : again here)
    (rounds : ∀ head, again head → typestate.loops head ∧
      typestate.Follows body (AfterRound again post) head) :
    typestate.Follows (Coroutine.repeatWhile body) post here :=
  ⟨again, begins, rounds⟩

/-- Sequencing of parts that keep an assertion. -/
theorem follows_bind_keeping {holds : Local → Prop}
    {first : Coroutine Command Reply Error α}
    {next : α → Coroutine Command Reply Error β}
    (begins : typestate.Follows first (fun _ => holds) here)
    (goesOn : ∀ value there, holds there →
      typestate.Follows (next value) (fun _ => holds) there) :
    typestate.Follows (first >>= next) (fun _ => holds) here := by
  rw [follows_bind]
  apply follows_mono _ begins
  intro result there kept
  cases result with
  | ok value => exact goesOn value there kept
  | error error => exact kept

/-- `try` whose parts keep an assertion. -/
theorem follows_attempt_keeping {holds : Local → Prop}
    {first : Coroutine Command Reply Error α}
    {handler : Error → Coroutine Command Reply Error α}
    (begins : typestate.Follows first (fun _ => holds) here)
    (handles : ∀ error there, holds there →
      typestate.Follows (handler error) (fun _ => holds) there) :
    typestate.Follows (first.attempt handler) (fun _ => holds) here := by
  rw [follows_attempt]
  apply follows_mono _ begins
  intro result there kept
  cases result with
  | ok value => exact kept
  | error error => exact handles error there kept

/-- A loop whose rounds keep an assertion. -/
theorem follows_repeatWhile_keeping {holds : Local → Prop}
    {body : Coroutine Command Reply Error Bool}
    (rounds : ∀ head, holds head → typestate.loops head ∧
      typestate.Follows body (fun _ => holds) head) (begins : holds here) :
    typestate.Follows (Coroutine.repeatWhile body) (fun _ => holds) here := by
  apply follows_repeatWhile holds begins
  intro head goesOn
  obtain ⟨stands, round⟩ := rounds head goesOn
  refine ⟨stands, follows_mono ?_ round⟩
  intro answer there kept
  rcases answer with error | again
  · exact kept
  · cases again <;> exact kept

/-- A coroutine that asks only for commands which keep an assertion about its
local state keeps it to the end. -/
theorem follows_asks {allowed : Command → Prop} {holds : Local → Prop}
    (steps : ∀ command there, allowed command → holds there →
      typestate.awaits there command ∧
        ∀ reply, typestate.answers there command reply →
          holds (typestate.after there command reply))
    (stands : ∀ there, holds there → typestate.loops there)
    {coroutine : Coroutine Command Reply Error α}
    (asks : coroutine.Asks allowed) (begins : holds here) :
    typestate.Follows coroutine (fun _ => holds) here := by
  induction coroutine generalizing here with
  | done result => exact begins
  | await command resume inductionHypothesis =>
      obtain ⟨may, leads⟩ := steps command here asks.1 begins
      exact ⟨may, fun reply answered =>
        inductionHypothesis reply (asks.2 reply) (leads reply answered)⟩
  | loop body resume bodyHypothesis resumeHypothesis =>
      refine ⟨holds, begins, fun head goesOn => ⟨stands head goesOn, ?_⟩⟩
      apply follows_mono _ (bodyHypothesis asks.1 goesOn)
      intro answer there reached
      match answer with
      | .ok true => exact reached
      | .ok false => exact resumeHypothesis _ (asks.2 _) reached
      | .error error => exact resumeHypothesis _ (asks.2 _) reached

/-- Unrolling one round of a loop follows the typestate. -/
theorem follows_unroll {body : Coroutine Command Reply Error Bool}
    {resume : Except Error Unit → Coroutine Command Reply Error α}
    {post : Except Error α → Local → Prop}
    (follows : typestate.Follows (.loop body resume) post here) :
    typestate.Follows (Coroutine.unroll body resume) post here := by
  obtain ⟨again, begins, rounds⟩ := follows
  rw [Coroutine.unroll, follows_andThen]
  apply follows_mono _ (rounds here begins).2
  intro answer there reached
  rcases answer with error | goesOn
  · exact reached
  · cases goesOn with
    | true => exact ⟨again, reached, rounds⟩
    | false => exact reached

end Rules

variable {Caller : Type u} {Shared : Type v} {Value : Type}
  {Choice : Type x} {Event : Type y}

/-- Every caller that lives follows the typestate from its local state. -/
structure Obeyed (locals : Caller → Local)
    (post : Caller → Except Error Value → Local → Prop)
    (state : Callers Caller Shared Command Reply Error Value) : Prop where
  follows : ∀ caller coroutine, state.running caller = some coroutine →
    typestate.Follows coroutine (post caller) (locals caller)
  gone : ∀ caller, state.running caller = none →
    typestate.gone (locals caller)

/-! ### Where the callers stand -/

section Standing

variable {typestate} {locals : Caller → Local}
  {post : Caller → Except Error Value → Local → Prop}
  {state : Callers Caller Shared Command Reply Error Value}
  {caller : Caller}

/-- A caller awaits a command that it may await in its local state. -/
theorem Obeyed.awaits (obeyed : typestate.Obeyed locals post state)
    {command : Command} (awaits : state.awaited caller = some command) :
    typestate.awaits (locals caller) command := by
  unfold Callers.awaited at awaits
  split at awaits
  · next awaited resume runs =>
      cases awaits
      exact (obeyed.follows caller _ runs).1
  · cases awaits

/-- A caller that has ended is where its postcondition says. -/
theorem Obeyed.ended (obeyed : typestate.Obeyed locals post state)
    {result : Except Error Value}
    (ended : state.running caller = some (.done result)) :
    post caller result (locals caller) :=
  obeyed.follows caller _ ended

/-- A caller that lives in a local state where none ends or loops awaits a
command. -/
theorem Obeyed.awaiting (obeyed : typestate.Obeyed locals post state)
    (lives : state.running caller ≠ none)
    (unfinished : ∀ result, ¬ post caller result (locals caller))
    (busy : ¬ typestate.loops (locals caller)) :
    ∃ command, state.awaited caller = some command ∧
      typestate.awaits (locals caller) command := by
  obtain ⟨coroutine, runs⟩ := Option.ne_none_iff_exists'.mp lives
  have follows := obeyed.follows caller coroutine runs
  cases coroutine with
  | done result => exact absurd follows (unfinished result)
  | await command resume =>
      exact ⟨command, by simp [Callers.awaited, runs], follows.1⟩
  | loop body resume =>
      obtain ⟨again, begins, rounds⟩ := follows
      exact absurd (rounds _ begins).1 busy

end Standing

variable [DecidableEq Caller]
  (system : System Caller Shared Command Reply Error Choice Event)

/-- A law about the shared state and everyone's local states: a guarded step
of a caller gets an answer that it can get, and keeps the law, and so do the
guarded steps of the environment and the deaths of callers. -/
structure Law
    (guard : Callers Caller Shared Command Reply Error Value →
      Move Caller Choice Event → Prop)
    (post : Caller → Except Error Value → Local → Prop)
    (law : Shared → (Caller → Local) → Prop) : Prop where
  performs : ∀ (state : Callers Caller Shared Command Reply Error Value)
    locals caller command choice reply next,
    typestate.Obeyed locals post state → law state.shared locals →
      guard state (.caller caller choice) →
      state.awaited caller = some command →
      system.perform caller state.shared command choice =
        some (reply, next) →
        typestate.answers (locals caller) command reply ∧
          law next (Function.update locals caller
            (typestate.after (locals caller) command reply))
  environment : ∀ (state : Callers Caller Shared Command Reply Error Value)
    locals event next, typestate.Obeyed locals post state →
      law state.shared locals → guard state (.environment event) →
      system.environment state.shared event = some next → law next locals
  kills : ∀ (state : Callers Caller Shared Command Reply Error Value)
    locals caller next, typestate.Obeyed locals post state →
      law state.shared locals → guard state (.kill caller) →
      state.running caller ≠ none →
      system.kill state.shared caller = some next →
        ∃ there, typestate.gone there ∧
          law next (Function.update locals caller there)

/-! ### Laws over runs -/

section Runs

variable {typestate system}
  {guard : Callers Caller Shared Command Reply Error Value →
    Move Caller Choice Event → Prop}
  {law : Shared → (Caller → Local) → Prop} {locals : Caller → Local}
  {post : Caller → Except Error Value → Local → Prop}
  {state next final : Callers Caller Shared Command Reply Error Value}

/-- A caller that performs a command goes on from the local state after its
answer, when it could get that answer. -/
theorem Obeyed.performed (obeyed : typestate.Obeyed locals post state)
    {mover : Caller} {command : Command} {choice : Choice}
    (awaits : state.awaited mover = some command)
    (stepped : system.machine.step state (.caller mover choice) = some next) :
    ∃ reply,
      system.perform mover state.shared command choice =
        some (reply, next.shared) ∧
      (typestate.answers (locals mover) command reply →
        typestate.Obeyed (Function.update locals mover
          (typestate.after (locals mover) command reply)) post next) := by
  obtain ⟨coroutine, runs, moved⟩ := Option.bind_eq_some_iff.mp stepped
  obtain ⟨⟨shared, rest⟩, advanced, rfl⟩ := Option.map_eq_some_iff.mp moved
  have follows := obeyed.follows mover coroutine runs
  simp only [Callers.awaited, runs] at awaits
  cases coroutine with
  | done result => cases advanced
  | loop body resume => cases awaits
  | await awaited resume =>
      cases awaits
      obtain ⟨⟨reply, shared⟩, performed, same⟩ :=
        Option.map_eq_some_iff.mp advanced
      cases same
      refine ⟨reply, performed, fun answered => ⟨?_, ?_⟩⟩
      · intro caller coroutine now
        by_cases same : caller = mover
        · subst same
          cases (Function.update_self ..).symm.trans now
          rw [Function.update_self]
          exact follows.2 reply answered
        · simp only [Function.update_of_ne same] at now ⊢
          exact obeyed.follows caller coroutine now
      · intro caller dead
        by_cases same : caller = mover
        · subst same
          simp at dead
        · simp only [Function.update_of_ne same] at dead ⊢
          exact obeyed.gone caller dead

/-- A guarded step keeps the law and takes its callers along their
typestates. -/
theorem Law.step (keeps : typestate.Law system guard post law)
    {move : Move Caller Choice Event}
    (obeyed : typestate.Obeyed locals post state)
    (holds : law state.shared locals) (guarded : guard state move)
    (stepped : system.machine.step state move = some next) :
    ∃ after, law next.shared after ∧ typestate.Obeyed after post next ∧
      ∀ caller, System.Move.about? move ≠ some caller →
        after caller = locals caller := by
  cases move with
  | caller mover choice =>
      obtain ⟨coroutine, runs, moved⟩ := Option.bind_eq_some_iff.mp stepped
      cases coroutine with
      | done result =>
          obtain ⟨_, advanced, -⟩ := Option.map_eq_some_iff.mp moved
          cases advanced
      | await command resume =>
          have awaits : state.awaited mover = some command := by
            simp [Callers.awaited, runs]
          obtain ⟨reply, performed, follows⟩ :=
            obeyed.performed awaits stepped
          obtain ⟨answered, kept⟩ := keeps.performs state locals mover command
            choice reply _ obeyed holds guarded awaits performed
          refine ⟨_, kept, follows answered, fun caller other => ?_⟩
          apply Function.update_of_ne
          rintro rfl
          exact other rfl
      | loop body resume =>
          obtain ⟨⟨shared, rest⟩, advanced, rfl⟩ :=
            Option.map_eq_some_iff.mp moved
          have follows := obeyed.follows mover _ runs
          cases advanced
          refine ⟨locals, holds, ⟨?_, ?_⟩, fun _ _ => rfl⟩
          · intro caller coroutine now
            by_cases same : caller = mover
            · subst same
              cases (Function.update_self ..).symm.trans now
              exact follows_unroll follows
            · simp only [Function.update_of_ne same] at now
              exact obeyed.follows caller coroutine now
          · intro caller dead
            by_cases same : caller = mover
            · subst same
              simp at dead
            · simp only [Function.update_of_ne same] at dead
              exact obeyed.gone caller dead
  | environment event =>
      obtain ⟨shared, happened, rfl⟩ := Option.map_eq_some_iff.mp stepped
      exact ⟨locals, keeps.environment state locals event shared obeyed holds
        guarded happened, ⟨obeyed.follows, obeyed.gone⟩, fun _ _ => rfl⟩
  | kill killed =>
      obtain ⟨coroutine, runs, moved⟩ := Option.bind_eq_some_iff.mp stepped
      obtain ⟨shared, happened, rfl⟩ := Option.map_eq_some_iff.mp moved
      obtain ⟨there, gone, kept⟩ := keeps.kills state locals killed shared
        obeyed holds guarded (by simp [runs]) happened
      refine ⟨_, kept, ⟨?_, ?_⟩, fun caller other => ?_⟩
      · intro caller coroutine now
        by_cases same : caller = killed
        · subst same
          simp at now
        · simp only [Function.update_of_ne same] at now ⊢
          exact obeyed.follows caller coroutine now
      · intro caller dead
        by_cases same : caller = killed
        · subst same
          rw [Function.update_self]
          exact gone
        · simp only [Function.update_of_ne same] at dead ⊢
          exact obeyed.gone caller dead
      · apply Function.update_of_ne
        rintro rfl
        exact other rfl

/-- A run whose steps all meet the guard keeps the law, and a caller that no
step of it is about is in the local state it was in. -/
theorem Law.run (keeps : typestate.Law system guard post law)
    {moves : List (Move Caller Choice Event)}
    (obeyed : typestate.Obeyed locals post state)
    (holds : law state.shared locals)
    (along : system.machine.Along guard state moves)
    (reached : system.machine.run state moves = some final) :
    ∃ after, law final.shared after ∧ typestate.Obeyed after post final ∧
      ∀ caller, (∀ move ∈ moves, System.Move.about? move ≠ some caller) →
        after caller = locals caller := by
  induction moves generalizing state locals with
  | nil =>
      cases reached
      exact ⟨locals, holds, obeyed, fun _ _ => rfl⟩
  | cons move moves inductionHypothesis =>
      obtain ⟨next, stepped, rest⟩ := Option.bind_eq_some_iff.mp reached
      obtain ⟨between, held, followed, unmoved⟩ :=
        keeps.step obeyed holds along.1 stepped
      obtain ⟨after, holdsAfter, obeyedAfter, untouched⟩ :=
        inductionHypothesis followed held (along.2 next stepped) rest
      refine ⟨after, holdsAfter, obeyedAfter, fun caller apart => ?_⟩
      rw [untouched caller fun other member =>
        apart other (List.mem_cons_of_mem _ member)]
      exact unmoved caller (apart move (by simp))

end Runs

end Typestate
