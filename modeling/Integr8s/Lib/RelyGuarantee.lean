/-
Module: Integr8s.Lib.RelyGuarantee
Purpose: Callers that interleave their coroutines at the awaits on a shared
  state, and the rely-guarantee rules for them: what a caller's coroutine
  promises of its steps and relies on of the others, the weakest precondition
  of a coroutine under such a contract, and the safety of every run.
Trusted boundary: none
Main exports: System, System.machine, System.run_running, System.run_done,
  System.run_view,
  System.Asking, System.run_asking, System.along_asking,
  Contract, Contract.Sound, Contract.wp, Contract.wp_bind,
  Contract.wp_attempt, Contract.wp_call, Contract.wp_repeatWhile,
  Contract.wp_asks,
  Contract.Sound.run, Contract.Sound.run_progress
-/
import Integr8s.Lib.Coroutine
import Integr8s.Lib.Machine

universe u v w x y

/-! ### Interleaved callers -/

/-- The shared state, and the coroutine of every caller that still lives. -/
structure Callers (Caller : Type u) (Shared : Type v) (Command : Type)
    (Reply : Command → Type) (Error Value : Type) where
  shared : Shared
  running : Caller → Option (Coroutine Command Reply Error Value)

/-- The callers that live and have not ended. -/
def Callers.atWork {Caller : Type u} {Shared : Type v} {Command : Type}
    {Reply : Command → Type} {Error Value : Type}
    (state : Callers Caller Shared Command Reply Error Value)
    (caller : Caller) : Prop :=
  ∃ coroutine, state.running caller = some coroutine ∧
    coroutine.result? = none

/-- Whether a caller is dead or has ended. -/
def Callers.hasEnded {Caller : Type u} {Shared : Type v} {Command : Type}
    {Reply : Command → Type} {Error Value : Type}
    (state : Callers Caller Shared Command Reply Error Value)
    (caller : Caller) : Bool :=
  match state.running caller with
  | some coroutine => coroutine.result?.isSome
  | none => true

theorem Callers.not_atWork_of_hasEnded {Caller : Type u} {Shared : Type v}
    {Command : Type} {Reply : Command → Type} {Error Value : Type}
    {state : Callers Caller Shared Command Reply Error Value}
    {caller : Caller} (ended : state.hasEnded caller = true) :
    ¬ state.atWork caller := by
  rintro ⟨coroutine, runs, unfinished⟩
  simp [hasEnded, runs, unfinished] at ended

/-- The command that a caller awaits. -/
def Callers.awaited {Caller : Type u} {Shared : Type v} {Command : Type}
    {Reply : Command → Type} {Error Value : Type}
    (state : Callers Caller Shared Command Reply Error Value)
    (caller : Caller) : Option Command :=
  match state.running caller with
  | some (.await command _) => some command
  | _ => none

theorem Callers.running_of_awaited {Caller : Type u} {Shared : Type v}
    {Command : Type} {Reply : Command → Type} {Error Value : Type}
    {state : Callers Caller Shared Command Reply Error Value}
    {caller : Caller} {command : Command}
    (awaited : state.awaited caller = some command) :
    ∃ resume, state.running caller = some (.await command resume) := by
  unfold Callers.awaited at awaited
  split at awaited
  · next runs =>
      cases awaited
      exact ⟨_, runs⟩
  · cases awaited

/-- One step of an interleaving: a caller performs the command it awaits, the
environment changes the shared state, or a caller is killed. -/
inductive Move (Caller : Type u) (Choice : Type x) (Event : Type y) where
  | caller (caller : Caller) (choice : Choice)
  | environment (event : Event)
  | kill (caller : Caller)

/-- What the awaited commands, the environment and the death of a caller do to
the shared state.  A choice says how the command went; one that cannot happen
gives `none`. -/
structure System (Caller : Type u) (Shared : Type v) (Command : Type)
    (Reply : Command → Type) (Error : Type) (Choice : Type x)
    (Event : Type y) where
  perform : Caller → Shared → (command : Command) → Choice →
    Option (Except Error (Reply command) × Shared)
  environment : Shared → Event → Option Shared
  kill : Shared → Caller → Option Shared

variable {Caller : Type u} {Shared : Type v} {Command : Type}
  {Reply : Command → Type} {Error Value : Type} {Choice : Type x}
  {Event : Type y}

namespace System

variable [DecidableEq Caller]
  (system : System Caller Shared Command Reply Error Choice Event)

/-- A caller's own step. -/
def advance (caller : Caller) (shared : Shared) (choice : Choice) :
    Coroutine Command Reply Error Value →
      Option (Shared × Coroutine Command Reply Error Value)
  | .done _ => none
  | .await command resume =>
      (system.perform caller shared command choice).map fun after =>
        (after.2, resume after.1)
  | .loop body resume => some (shared, Coroutine.unroll body resume)

/-- The interleaving machine. -/
def machine :
    Machine (Callers Caller Shared Command Reply Error Value)
      (Move Caller Choice Event) where
  step
    | state, .caller caller choice =>
        (state.running caller).bind fun coroutine =>
          (system.advance caller state.shared choice coroutine).map
            fun after =>
              { shared := after.1
                running :=
                  Function.update state.running caller (some after.2) }
    | state, .environment event =>
        (system.environment state.shared event).map fun shared =>
          { state with shared := shared }
    | state, .kill caller =>
        (state.running caller).bind fun _ =>
          (system.kill state.shared caller).map fun shared =>
            { shared := shared
              running := Function.update state.running caller none }

/-- The caller that a step is about. -/
def Move.about? : Move Caller Choice Event → Option Caller
  | .caller caller _ => some caller
  | .environment _ => none
  | .kill caller => some caller

/-- A caller that no step of a run is about is where it was. -/
theorem run_running
    {state final : Callers Caller Shared Command Reply Error Value}
    {moves : List (Move Caller Choice Event)}
    (reached : system.machine.run state moves = some final) {caller : Caller}
    (untouched : ∀ move ∈ moves, Move.about? move ≠ some caller) :
    final.running caller = state.running caller := by
  induction moves generalizing state with
  | nil =>
      cases reached
      rfl
  | cons move moves inductionHypothesis =>
      obtain ⟨next, stepped, rest⟩ := Option.bind_eq_some_iff.mp reached
      have here := untouched move (by simp)
      have same : next.running caller = state.running caller := by
        cases move with
        | caller other choice =>
            obtain ⟨coroutine, -, moved⟩ := Option.bind_eq_some_iff.mp stepped
            obtain ⟨after, -, rfl⟩ := Option.map_eq_some_iff.mp moved
            apply Function.update_of_ne
            rintro rfl
            exact here rfl
        | environment event =>
            obtain ⟨shared, -, rfl⟩ := Option.map_eq_some_iff.mp stepped
            rfl
        | kill other =>
            obtain ⟨coroutine, -, killed⟩ :=
              Option.bind_eq_some_iff.mp stepped
            obtain ⟨shared, -, rfl⟩ := Option.map_eq_some_iff.mp killed
            apply Function.update_of_ne
            rintro rfl
            exact here rfl
      rw [inductionHypothesis rest fun other member =>
        untouched other (List.mem_cons_of_mem _ member), same]

/-- A caller that has ended stays so, unless it is killed. -/
theorem run_done
    {state final : Callers Caller Shared Command Reply Error Value}
    {moves : List (Move Caller Choice Event)}
    (reached : system.machine.run state moves = some final) {caller : Caller}
    {result : Except Error Value}
    (ended : state.running caller = some (.done result)) :
    final.running caller = some (.done result) ∨
      final.running caller = none := by
  apply system.machine.run_invariant' (fun current =>
    current.running caller = some (.done result) ∨
      current.running caller = none) _ (.inl ended) reached
  intro current move next stands stepped
  cases move with
  | caller mover choice =>
      obtain ⟨coroutine, runs, moved⟩ := Option.bind_eq_some_iff.mp stepped
      obtain ⟨after, advanced, rfl⟩ := Option.map_eq_some_iff.mp moved
      by_cases same : caller = mover
      · subst same
        rcases stands with done | dead
        · cases runs.symm.trans done
          cases advanced
        · cases runs.symm.trans dead
      · simpa [Function.update_of_ne same] using stands
  | environment event =>
      obtain ⟨shared, -, rfl⟩ := Option.map_eq_some_iff.mp stepped
      exact stands
  | kill killed =>
      obtain ⟨coroutine, runs, moved⟩ := Option.bind_eq_some_iff.mp stepped
      obtain ⟨shared, -, rfl⟩ := Option.map_eq_some_iff.mp moved
      by_cases same : caller = killed
      · simp [same]
      · simpa [Function.update_of_ne same] using stands

/-- A part of the shared state that only one caller changes is as it was after
a run of the others. -/
theorem run_view {View : Type w} (view : Shared → View)
    {state final : Callers Caller Shared Command Reply Error Value}
    {moves : List (Move Caller Choice Event)}
    (reached : system.machine.run state moves = some final) {caller : Caller}
    (untouched : ∀ move ∈ moves, Move.about? move ≠ some caller)
    (performs : ∀ other shared command choice reply next, other ≠ caller →
      system.perform other shared command choice = some (reply, next) →
        view next = view shared)
    (environments : ∀ shared event next,
      system.environment shared event = some next → view next = view shared)
    (kills : ∀ shared other next, other ≠ caller →
      system.kill shared other = some next → view next = view shared) :
    view final.shared = view state.shared := by
  induction moves generalizing state with
  | nil =>
      cases reached
      rfl
  | cons move moves inductionHypothesis =>
      obtain ⟨next, stepped, rest⟩ := Option.bind_eq_some_iff.mp reached
      have here := untouched move (by simp)
      have same : view next.shared = view state.shared := by
        cases move with
        | caller other choice =>
            have different : other ≠ caller := by
              rintro rfl
              exact here rfl
            obtain ⟨coroutine, -, moved⟩ := Option.bind_eq_some_iff.mp stepped
            obtain ⟨after, advanced, rfl⟩ := Option.map_eq_some_iff.mp moved
            cases coroutine with
            | done result => cases advanced
            | await command resume =>
                obtain ⟨⟨reply, shared⟩, performed, rfl⟩ :=
                  Option.map_eq_some_iff.mp advanced
                exact performs other _ command choice reply shared different
                  performed
            | loop body resume =>
                cases advanced
                rfl
        | environment event =>
            obtain ⟨shared, happened, rfl⟩ := Option.map_eq_some_iff.mp stepped
            exact environments _ event shared happened
        | kill other =>
            have different : other ≠ caller := by
              rintro rfl
              exact here rfl
            obtain ⟨coroutine, -, killed⟩ :=
              Option.bind_eq_some_iff.mp stepped
            obtain ⟨shared, happened, rfl⟩ := Option.map_eq_some_iff.mp killed
            exact kills _ other shared different happened
      rw [inductionHypothesis rest fun other member =>
        untouched other (List.mem_cons_of_mem _ member), same]

/-- The callers ask only what is allowed to them. -/
def Asking (allowed : Caller → Command → Prop)
    (state : Callers Caller Shared Command Reply Error Value) : Prop :=
  ∀ caller coroutine, state.running caller = some coroutine →
    coroutine.Asks (allowed caller)

/-- A step asks for nothing new. -/
theorem step_asking {allowed : Caller → Command → Prop}
    {state next : Callers Caller Shared Command Reply Error Value}
    {move : Move Caller Choice Event} (asks : Asking allowed state)
    (stepped : system.machine.step state move = some next) :
    Asking allowed next := by
  cases move with
  | caller mover choice =>
      obtain ⟨coroutine, runs, moved⟩ := Option.bind_eq_some_iff.mp stepped
      obtain ⟨⟨shared, rest⟩, advanced, rfl⟩ :=
        Option.map_eq_some_iff.mp moved
      have kept : rest.Asks (allowed mover) := by
        have before := asks mover coroutine runs
        cases coroutine with
        | done result => cases advanced
        | await command resume =>
            obtain ⟨after, -, same⟩ := Option.map_eq_some_iff.mp advanced
            cases same
            exact before.2 _
        | loop body resume =>
            cases advanced
            exact Coroutine.Asks.unroll before
      intro caller coroutine now
      by_cases same : caller = mover
      · subst same
        cases (Function.update_self ..).symm.trans now
        exact kept
      · simp only [Function.update_of_ne same] at now
        exact asks caller coroutine now
  | environment event =>
      obtain ⟨shared, -, rfl⟩ := Option.map_eq_some_iff.mp stepped
      exact asks
  | kill killed =>
      obtain ⟨coroutine, -, moved⟩ := Option.bind_eq_some_iff.mp stepped
      obtain ⟨shared, -, rfl⟩ := Option.map_eq_some_iff.mp moved
      intro caller coroutine now
      by_cases same : caller = killed
      · subst same
        simp at now
      · simp only [Function.update_of_ne same] at now
        exact asks caller coroutine now

omit [DecidableEq Caller] in
/-- A caller awaits a command that it is allowed. -/
theorem Asking.awaited {allowed : Caller → Command → Prop}
    {state : Callers Caller Shared Command Reply Error Value}
    (asks : Asking allowed state) {caller : Caller} {command : Command}
    (awaits : state.awaited caller = some command) :
    allowed caller command := by
  unfold Callers.awaited at awaits
  split at awaits
  · next awaited resume runs =>
      cases awaits
      exact (asks caller _ runs).1
  · cases awaits

/-- The invariant rule for callers that ask only what is allowed. -/
theorem run_asking {allowed : Caller → Command → Prop}
    (invariant : Shared → Prop)
    {state final : Callers Caller Shared Command Reply Error Value}
    {moves : List (Move Caller Choice Event)} (asks : Asking allowed state)
    (initial : invariant state.shared)
    (preserved : ∀ (before after :
        Callers Caller Shared Command Reply Error Value) move,
      Asking allowed before → invariant before.shared →
        system.machine.step before move = some after →
          invariant after.shared)
    (reached : system.machine.run state moves = some final) :
    Asking allowed final ∧ invariant final.shared :=
  system.machine.run_invariant'
    (fun current => Asking allowed current ∧ invariant current.shared)
    (fun before move after holds stepped =>
      ⟨system.step_asking holds.1 stepped,
        preserved before after move holds.1 holds.2 stepped⟩)
    ⟨asks, initial⟩ reached

/-- A guard that holds whenever the callers ask only what is allowed is met
along every run of such callers. -/
theorem along_asking {allowed : Caller → Command → Prop}
    {guard : Callers Caller Shared Command Reply Error Value →
      Move Caller Choice Event → Prop}
    (holds : ∀ state move, Asking allowed state → guard state move)
    {state : Callers Caller Shared Command Reply Error Value}
    (asks : Asking allowed state) (moves : List (Move Caller Choice Event)) :
    system.machine.Along guard state moves := by
  induction moves generalizing state with
  | nil => trivial
  | cons move moves inductionHypothesis =>
      exact ⟨holds state move asks, fun next stepped =>
        inductionHypothesis (system.step_asking asks stepped)⟩

end System

/-! ### Contracts -/

/-- A contract between callers: the invariant that every step keeps, what a
step of a caller may do to the shared state, what a caller relies on while
others move, what any step does, what a caller claims whenever it awaits a
command, and what holds of a caller that was killed.  The contract is about the
runs whose steps are allowed; what the environment may do can depend on who is
still at work. -/
structure Contract (Caller : Type u) (Shared : Type v) (Command : Type)
    (Choice : Type x) (Event : Type y) where
  invariant : Shared → Prop
  guarantee : Caller → Shared → Shared → Prop
  rely : Caller → Shared → Shared → Prop
  progress : Shared → Shared → Prop := fun _ _ => True
  claims : Caller → Command → Shared → Prop := fun _ _ _ => True
  gone : Caller → Shared → Prop := fun _ _ => True
  allows : Caller → Shared → Command → Choice → Prop := fun _ _ _ _ => True
  permits : (Caller → Prop) → Shared → Event → Prop := fun _ _ _ => True
  mayKill : Shared → Caller → Prop := fun _ _ => True

namespace Contract

variable (contract : Contract Caller Shared Command Choice Event)
  (system : System Caller Shared Command Reply Error Choice Event)

/-- The states a caller may find when it moves again after `shared`. -/
def Later (caller : Caller) (shared later : Shared) : Prop :=
  contract.rely caller shared later ∧ contract.invariant later

/-- What a round of a loop reaches: the loop's own invariant when it goes on,
and what follows the loop when it stops or raises. -/
def AfterRound (again : Shared → Prop)
    (ends : Except Error Unit → Shared → Prop) (answer : Except Error Bool)
    (after : Shared) : Prop :=
  match answer with
  | .ok true => again after
  | .ok false => ends (.ok ()) after
  | .error error => ends (.error error) after

/-- The weakest precondition of a coroutine: it keeps the contract from this
state on, whatever the others do within theirs, and its result satisfies the
postcondition.  A loop keeps an invariant of its own. -/
def wp (caller : Caller) : {α : Type} → Coroutine Command Reply Error α →
    (Except Error α → Shared → Prop) → Shared → Prop
  | _, .done result, post, shared => post result shared
  | _, .await command resume, post, shared =>
      contract.claims caller command shared ∧
        ∀ choice reply next, contract.allows caller shared command choice →
          system.perform caller shared command choice = some (reply, next) →
            contract.invariant next ∧ contract.guarantee caller shared next ∧
              ∀ later, contract.Later caller next later →
                wp caller (resume reply) post later
  | _, .loop body resume, post, shared =>
      ∃ again : Shared → Prop, again shared ∧
        ∀ head, again head → contract.invariant head →
          wp caller body
            (AfterRound again fun result => wp caller (resume result) post)
            head

/-! ### The rules for coroutines -/

section Rules

variable {contract system} {caller : Caller} {α β : Type}
  {shared : Shared}

theorem wp_andThen (first : Coroutine Command Reply Error α)
    (next : Except Error α → Coroutine Command Reply Error β)
    (post : Except Error β → Shared → Prop) :
    contract.wp system caller (first.andThen next) post =
      contract.wp system caller first
        (fun result => contract.wp system caller (next result) post) := by
  induction first with
  | done result => rfl
  | await command resume inductionHypothesis =>
      funext shared
      simp only [Coroutine.andThen, wp, inductionHypothesis]
  | loop body resume _ inductionHypothesis =>
      funext shared
      simp only [Coroutine.andThen, wp, inductionHypothesis]

/-- A weaker postcondition has a weaker precondition. -/
theorem wp_mono {coroutine : Coroutine Command Reply Error α}
    {strong weak : Except Error α → Shared → Prop}
    (weaken : ∀ result after, contract.invariant after →
      strong result after → weak result after)
    (invariant : contract.invariant shared)
    (holds : contract.wp system caller coroutine strong shared) :
    contract.wp system caller coroutine weak shared := by
  induction coroutine generalizing shared with
  | done result => exact weaken result shared invariant holds
  | await command resume inductionHypothesis =>
      obtain ⟨claim, steps⟩ := holds
      refine ⟨claim, fun choice reply next allowed performed => ?_⟩
      obtain ⟨kept, promised, resumes⟩ := steps choice reply next allowed
        performed
      exact ⟨kept, promised, fun later reached =>
        inductionHypothesis reply weaken reached.2 (resumes later reached)⟩
  | loop body resume bodyHypothesis resumeHypothesis =>
      obtain ⟨again, here, rounds⟩ := holds
      refine ⟨again, here, fun head loops kept => ?_⟩
      refine bodyHypothesis ?_ kept (rounds head loops kept)
      intro answer after keptAfter reached
      match answer with
      | .ok true => exact reached
      | .ok false => exact resumeHypothesis _ weaken keptAfter reached
      | .error error => exact resumeHypothesis _ weaken keptAfter reached

@[simp] theorem wp_pure (value : α)
    (post : Except Error α → Shared → Prop) :
    contract.wp system caller (pure value) post shared =
      post (.ok value) shared :=
  rfl

@[simp] theorem wp_raise (error : Error)
    (post : Except Error α → Shared → Prop) :
    contract.wp system caller (Coroutine.raise error) post shared =
      post (.error error) shared :=
  rfl

/-- Sequencing: what follows runs from the state the first part ends in, and
an error of the first part is the result. -/
theorem wp_bind (first : Coroutine Command Reply Error α)
    (next : α → Coroutine Command Reply Error β)
    (post : Except Error β → Shared → Prop) :
    contract.wp system caller (first >>= next) post shared =
      contract.wp system caller first
        (fun result after => match result with
          | .ok value => contract.wp system caller (next value) post after
          | .error error => post (.error error) after) shared := by
  rw [Coroutine.bind_eq, Coroutine.bind, wp_andThen]
  congr 1
  funext result
  cases result <;> rfl

/-- `try`: the handler runs from the state in which the error was raised. -/
theorem wp_attempt (first : Coroutine Command Reply Error α)
    (handler : Error → Coroutine Command Reply Error α)
    (post : Except Error α → Shared → Prop) :
    contract.wp system caller (first.attempt handler) post shared =
      contract.wp system caller first
        (fun result after => match result with
          | .ok value => post (.ok value) after
          | .error error =>
              contract.wp system caller (handler error) post after)
        shared := by
  rw [Coroutine.attempt, wp_andThen]
  congr 1
  funext result
  cases result <;> rfl

/-- One command: the caller claims what it must, every way the command may go
keeps the contract, and the rest runs from any state the others leave. -/
theorem wp_call {command : Command}
    {post : Except Error (Reply command) → Shared → Prop}
    (claim : contract.claims caller command shared)
    (steps : ∀ choice reply next, contract.allows caller shared command choice →
      system.perform caller shared command choice = some (reply, next) →
        contract.invariant next ∧ contract.guarantee caller shared next ∧
          ∀ later, contract.Later caller next later → post reply later) :
    contract.wp system caller (Coroutine.call command) post shared :=
  ⟨claim, steps⟩

/-- A loop from an invariant of its own, which holds at the head of every
round. -/
theorem wp_repeatWhile {body : Coroutine Command Reply Error Bool}
    {post : Except Error Unit → Shared → Prop} (again : Shared → Prop)
    (here : again shared)
    (rounds : ∀ head, again head → contract.invariant head →
      contract.wp system caller body (AfterRound again post) head) :
    contract.wp system caller (Coroutine.repeatWhile body) post shared :=
  ⟨again, here, rounds⟩

/-- A coroutine that asks only for commands which keep the contract and an
assertion of its caller keeps both, whatever it is answered. -/
theorem wp_asks {allowed : Command → Prop} {holds : Shared → Prop}
    (steps : ∀ command before, allowed command → contract.invariant before →
      holds before → contract.claims caller command before ∧
        ∀ choice reply after, contract.allows caller before command choice →
          system.perform caller before command choice = some (reply, after) →
            contract.invariant after ∧ contract.guarantee caller before after ∧
              ∀ later, contract.Later caller after later → holds later)
    {coroutine : Coroutine Command Reply Error α}
    (asks : coroutine.Asks allowed) (invariant : contract.invariant shared)
    (here : holds shared) :
    contract.wp system caller coroutine (fun _ => holds) shared := by
  induction coroutine generalizing shared with
  | done result => exact here
  | await command resume inductionHypothesis =>
      obtain ⟨claim, goes⟩ := steps command shared asks.1 invariant here
      refine ⟨claim, fun choice reply after allows performed => ?_⟩
      obtain ⟨kept, promised, leads⟩ := goes choice reply after allows
        performed
      exact ⟨kept, promised, fun later reached =>
        inductionHypothesis reply (asks.2 reply) reached.2
          (leads later reached)⟩
  | loop body resume bodyHypothesis resumeHypothesis =>
      refine ⟨holds, here, fun head loops kept => ?_⟩
      apply wp_mono _ kept (bodyHypothesis asks.1 kept loops)
      intro answer after keptAfter reached
      match answer with
      | .ok true => exact reached
      | .ok false => exact resumeHypothesis _ (asks.2 _) keptAfter reached
      | .error error => exact resumeHypothesis _ (asks.2 _) keptAfter reached

/-- Unrolling one round of a loop keeps its precondition. -/
theorem wp_unroll {body : Coroutine Command Reply Error Bool}
    {resume : Except Error Unit → Coroutine Command Reply Error α}
    {post : Except Error α → Shared → Prop}
    (invariant : contract.invariant shared)
    (holds : contract.wp system caller (.loop body resume) post shared) :
    contract.wp system caller (Coroutine.unroll body resume) post shared := by
  obtain ⟨again, here, rounds⟩ := holds
  rw [Coroutine.unroll, wp_andThen]
  apply wp_mono _ invariant (rounds shared here invariant)
  intro answer after kept reached
  match answer with
  | .ok true => exact ⟨again, reached, rounds⟩
  | .ok false => exact reached
  | .error error => exact reached

end Rules

/-! ### From calls to runs

A sound contract is kept by every interleaving of calls that each keep it
alone: what one caller guarantees is what the others rely on. -/

/-- The obligations that connect a contract with the system: what others do
within the contract is what a caller relies on, and so is what the
environment and the death of a caller do. -/
structure Sound : Prop where
  rely_refl : ∀ caller shared, contract.rely caller shared shared
  rely_trans : ∀ caller first second third,
    contract.rely caller first second → contract.rely caller second third →
      contract.rely caller first third
  progress_refl : ∀ shared, contract.progress shared shared
  interference : ∀ caller other before after, other ≠ caller →
    contract.invariant before → contract.invariant after →
      contract.guarantee caller before after →
        contract.rely other before after
  progresses : ∀ caller before after, contract.invariant before →
    contract.guarantee caller before after → contract.progress before after
  environment : ∀ atWork shared event next, contract.invariant shared →
    contract.permits atWork shared event →
      system.environment shared event = some next →
        contract.invariant next ∧ contract.progress shared next ∧
          (∀ caller, atWork caller → contract.rely caller shared next) ∧
          ∀ caller, contract.gone caller shared → contract.gone caller next
  kill : ∀ shared caller next, contract.invariant shared →
    contract.mayKill shared caller → system.kill shared caller = some next →
      contract.invariant next ∧ contract.progress shared next ∧
        contract.gone caller next ∧
        ∀ other, other ≠ caller → contract.rely other shared next
  gone : ∀ caller before after, contract.rely caller before after →
    contract.gone caller before → contract.gone caller after

/-- What a run must meet at every step for the contract to speak about it. -/
def guard (state : Callers Caller Shared Command Reply Error Value) :
    Move Caller Choice Event → Prop
  | .caller caller choice =>
      ∀ command, state.awaited caller = some command →
        contract.allows caller state.shared command choice
  | .environment event =>
      contract.permits state.atWork state.shared event
  | .kill caller => contract.mayKill state.shared caller

/-- The invariant holds, every caller at work keeps the contract from here on
and will end as its postcondition says, every caller that has ended did, and a
killed caller is gone. -/
structure Safe (post : Caller → Except Error Value → Shared → Prop)
    (state : Callers Caller Shared Command Reply Error Value) : Prop where
  invariant : contract.invariant state.shared
  caller : ∀ caller coroutine, state.running caller = some coroutine →
    coroutine.result? = none →
      ∀ later, contract.Later caller state.shared later →
        contract.wp system caller coroutine (post caller) later
  ended : ∀ caller result, state.running caller = some (.done result) →
    post caller result state.shared
  gone : ∀ caller, state.running caller = none →
    contract.gone caller state.shared

/-- A postcondition that no later step of another caller or of the environment
takes back. -/
structure Stable (post : Caller → Except Error Value → Shared → Prop) :
    Prop where
  others : ∀ caller result before after, contract.invariant before →
    contract.invariant after → contract.rely caller before after →
      post caller result before → post caller result after
  environment : ∀ atWork shared event next, contract.invariant shared →
    contract.permits atWork shared event →
      system.environment shared event = some next →
        ∀ caller result, post caller result shared → post caller result next

section Safety

variable {contract system}
  {post : Caller → Except Error Value → Shared → Prop}
  {state next final : Callers Caller Shared Command Reply Error Value}

theorem stable_true : contract.Stable system
    (fun (_ : Caller) (_ : Except Error Value) _ => True) :=
  ⟨fun _ _ _ _ _ _ _ _ => trivial, fun _ _ _ _ _ _ _ _ _ _ => trivial⟩

theorem Sound.later_refl (sound : contract.Sound system) (caller : Caller)
    {shared : Shared} (invariant : contract.invariant shared) :
    contract.Later caller shared shared :=
  ⟨sound.rely_refl caller shared, invariant⟩

/-- Callers are safe to begin with when all live and each keeps the contract
from any state it may find. -/
theorem Safe.start (sound : contract.Sound system)
    (invariant : contract.invariant state.shared)
    (live : ∀ caller, state.running caller ≠ none)
    (promises : ∀ caller coroutine, state.running caller = some coroutine →
      ∀ later, contract.Later caller state.shared later →
        contract.wp system caller coroutine (post caller) later) :
    contract.Safe system post state := by
  refine ⟨invariant, fun caller coroutine runs _ => promises caller coroutine
    runs, fun caller result ends => ?_,
    fun caller dead => absurd dead (live caller)⟩
  exact promises caller _ ends state.shared (sound.later_refl caller invariant)

/-- A caller that does not move keeps its promise over a step it relies on. -/
private theorem Safe.bystander (safe : contract.Safe system post state)
    (sound : contract.Sound system) {other : Caller} {shared : Shared}
    (relied : contract.rely other state.shared shared)
    {coroutine : Coroutine Command Reply Error Value}
    (runs : state.running other = some coroutine)
    (unfinished : coroutine.result? = none) :
    ∀ later, contract.Later other shared later →
      contract.wp system other coroutine (post other) later := by
  intro later reached
  apply safe.caller other coroutine runs unfinished
  exact ⟨sound.rely_trans other _ _ _ relied reached.1, reached.2⟩

/-- A caller that moves keeps the invariant, its guarantee and its promise. -/
private theorem Safe.mover (safe : contract.Safe system post state)
    (sound : contract.Sound system) {caller : Caller} {choice : Choice}
    {coroutine rest : Coroutine Command Reply Error Value} {shared : Shared}
    (runs : state.running caller = some coroutine)
    (guarded : contract.guard state (.caller caller choice))
    (advanced : system.advance caller state.shared choice coroutine =
      some (shared, rest)) :
    contract.invariant shared ∧
      (contract.guarantee caller state.shared shared ∨
        shared = state.shared) ∧
      ∀ later, contract.Later caller shared later →
        contract.wp system caller rest (post caller) later := by
  cases coroutine with
  | done result => cases advanced
  | await command resume =>
      have here := safe.caller caller _ runs rfl state.shared
        (sound.later_refl caller safe.invariant)
      obtain ⟨⟨reply, after⟩, performed, same⟩ :=
        Option.map_eq_some_iff.mp advanced
      cases same
      obtain ⟨kept, promised, resumes⟩ := here.2 choice reply after
        (guarded command (by simp [Callers.awaited, runs])) performed
      exact ⟨kept, .inl promised, resumes⟩
  | loop body resume =>
      cases advanced
      refine ⟨safe.invariant, .inr rfl, fun later reached => ?_⟩
      exact wp_unroll reached.2
        (safe.caller caller _ runs rfl later reached)

/-- What a caller that awaits a command claims. -/
theorem Safe.claims (safe : contract.Safe system post state)
    (sound : contract.Sound system) {caller : Caller} {command : Command}
    (awaits : state.awaited caller = some command) :
    contract.claims caller command state.shared := by
  unfold Callers.awaited at awaits
  split at awaits
  · next awaited resume runs =>
      cases awaits
      exact (safe.caller caller _ runs rfl state.shared
        (sound.later_refl caller safe.invariant)).1
  · cases awaits

variable [DecidableEq Caller]

/-- A step that meets the guard keeps every caller safe, and progresses. -/
theorem Sound.step (sound : contract.Sound system)
    (stable : contract.Stable system post) (move : Move Caller Choice Event)
    (safe : contract.Safe system post state)
    (guarded : contract.guard state move)
    (stepped : system.machine.step state move = some next) :
    contract.Safe system post next ∧
      contract.progress state.shared next.shared := by
  cases move with
  | caller caller choice =>
      obtain ⟨coroutine, runs, moved⟩ := Option.bind_eq_some_iff.mp stepped
      obtain ⟨⟨shared, rest⟩, advanced, rfl⟩ :=
        Option.map_eq_some_iff.mp moved
      obtain ⟨kept, promised, resumes⟩ :=
        safe.mover sound runs guarded advanced
      have progressed : contract.progress state.shared shared := by
        rcases promised with promised | unchanged
        · exact sound.progresses caller _ _ safe.invariant promised
        · exact unchanged ▸ sound.progress_refl _
      have relied : ∀ other, other ≠ caller →
          contract.rely other state.shared shared := by
        intro other different
        rcases promised with promised | unchanged
        · exact sound.interference caller other _ _ different safe.invariant
            kept promised
        · exact unchanged ▸ sound.rely_refl other _
      refine ⟨⟨kept, fun other coroutine otherRuns unfinished => ?_,
        fun other result otherEnds => ?_, fun other dead => ?_⟩, progressed⟩
      · by_cases same : other = caller
        · subst same
          cases (Function.update_self ..).symm.trans otherRuns
          exact resumes
        · simp only [Function.update_of_ne same] at otherRuns
          exact safe.bystander sound (relied other same) otherRuns unfinished
      · by_cases same : other = caller
        · subst same
          cases (Function.update_self ..).symm.trans otherEnds
          exact resumes shared (sound.later_refl other kept)
        · simp only [Function.update_of_ne same] at otherEnds
          exact stable.others other result _ _ safe.invariant kept
            (relied other same) (safe.ended other result otherEnds)
      · by_cases same : other = caller
        · subst same
          simp at dead
        · simp only [Function.update_of_ne same] at dead
          exact sound.gone other _ _ (relied other same)
            (safe.gone other dead)
  | environment event =>
      obtain ⟨shared, happened, rfl⟩ := Option.map_eq_some_iff.mp stepped
      obtain ⟨kept, progressed, relied, gone⟩ :=
        sound.environment _ _ event shared safe.invariant guarded happened
      refine ⟨⟨kept, fun other coroutine otherRuns unfinished => ?_,
        fun other result otherEnds => ?_,
        fun other dead => gone other (safe.gone other dead)⟩, progressed⟩
      · exact safe.bystander sound
          (relied other ⟨coroutine, otherRuns, unfinished⟩) otherRuns
          unfinished
      · exact stable.environment _ _ event shared safe.invariant guarded
          happened other result (safe.ended other result otherEnds)
  | kill caller =>
      obtain ⟨coroutine, runs, killed⟩ := Option.bind_eq_some_iff.mp stepped
      obtain ⟨shared, happened, rfl⟩ := Option.map_eq_some_iff.mp killed
      obtain ⟨kept, progressed, gone, relied⟩ :=
        sound.kill _ caller shared safe.invariant guarded happened
      refine ⟨⟨kept, fun other coroutine otherRuns unfinished => ?_,
        fun other result otherEnds => ?_, fun other dead => ?_⟩, progressed⟩
      · by_cases same : other = caller
        · subst same
          simp at otherRuns
        · simp only [Function.update_of_ne same] at otherRuns
          exact safe.bystander sound (relied other same) otherRuns unfinished
      · by_cases same : other = caller
        · subst same
          simp at otherEnds
        · simp only [Function.update_of_ne same] at otherEnds
          exact stable.others other result _ _ safe.invariant kept
            (relied other same) (safe.ended other result otherEnds)
      · by_cases same : other = caller
        · subst same
          exact gone
        · simp only [Function.update_of_ne same] at dead
          exact sound.gone other _ _ (relied other same)
            (safe.gone other dead)

/-- A run whose steps all meet the guard keeps every caller safe. -/
theorem Sound.run (sound : contract.Sound system)
    (stable : contract.Stable system post) {moves : List (Move Caller Choice Event)}
    (safe : contract.Safe system post state)
    (along : system.machine.Along contract.guard state moves)
    (reached : system.machine.run state moves = some final) :
    contract.Safe system post final :=
  system.machine.run_invariant contract.guard (contract.Safe system post)
    (fun _ move _ safe guarded stepped =>
      (sound.step stable move safe guarded stepped).1) safe along reached

/-- A run whose steps all meet the guard progresses from its first state to
its last. -/
theorem Sound.run_progress (sound : contract.Sound system)
    (stable : contract.Stable system post)
    (trans : ∀ first second third, contract.progress first second →
      contract.progress second third → contract.progress first third)
    {moves : List (Move Caller Choice Event)}
    (safe : contract.Safe system post state)
    (along : system.machine.Along contract.guard state moves)
    (reached : system.machine.run state moves = some final) :
    contract.progress state.shared final.shared := by
  have tracked := system.machine.run_invariant contract.guard
    (fun current => contract.Safe system post current ∧
      contract.progress state.shared current.shared)
    (fun current move following holds guarded stepped => by
      have advanced := sound.step stable move holds.1 guarded stepped
      exact ⟨advanced.1, trans _ _ _ holds.2 advanced.2⟩)
    ⟨safe, sound.progress_refl _⟩ along reached
  exact tracked.2

end Safety

end Contract
