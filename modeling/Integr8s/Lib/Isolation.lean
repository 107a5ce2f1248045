/-
Module: Integr8s.Lib.Isolation
Purpose: Callers that other callers cannot be noticed by: when what some of
  them ask touches only their part of the shared state, and what the others ask
  touches only the rest, a run of all is for those some a run of their own.
Trusted boundary: none
Main exports: Move.concerning, System.KeepsTo, System.Isolates,
  System.run_isolated, Contract.Sound.along_claims
-/
import Integr8s.Lib.RelyGuarantee

universe u v w x y

section

variable {Caller : Type u} {Shared : Type v} {Command : Type}
  {Reply : Command → Type} {Error Value : Type} {Choice : Type x}
  {Event : Type y}

/-- The moves of some callers, and the events that they see. -/
def Move.concerning (mine : Caller → Bool) (seen : Event → Bool) :
    Move Caller Choice Event → Bool
  | .caller mover _ => mine mover
  | .environment event => seen event
  | .kill killed => mine killed

namespace System

/-- The commands that the callers await are allowed to them where they are
performed. -/
def KeepsTo (allowed : Caller → Shared → Command → Prop)
    (state : Callers Caller Shared Command Reply Error Value)
    (move : Move Caller Choice Event) : Prop :=
  ∀ caller choice command, move = .caller caller choice →
    state.awaited caller = some command →
      allowed caller state.shared command

/-- The shared state is for some callers like another one, which has only
their part.  Their commands go in both alike; those of the others, and the
events that they do not see, leave the states alike. -/
structure Isolates
    (system : System Caller Shared Command Reply Error Choice Event)
    (mine : Caller → Bool) (seen : Event → Bool)
    (allowed : Caller → Shared → Command → Prop)
    (like : Shared → Shared → Prop) : Prop where
  own : ∀ {whole part caller command choice reply next},
    like whole part → mine caller = true → allowed caller whole command →
      system.perform caller whole command choice = some (reply, next) →
        ∃ after, system.perform caller part command choice =
          some (reply, after) ∧ like next after
  other : ∀ {whole part caller command choice reply next},
    like whole part → mine caller = false → allowed caller whole command →
      system.perform caller whole command choice = some (reply, next) →
        like next part
  event : ∀ {whole part event next}, like whole part → seen event = true →
    system.environment whole event = some next →
      ∃ after, system.environment part event = some after ∧ like next after
  unseen : ∀ {whole part event next}, like whole part →
    seen event = false → system.environment whole event = some next →
      like next part
  kill : ∀ {whole part caller next}, like whole part → mine caller = true →
    system.kill whole caller = some next →
      ∃ after, system.kill part caller = some after ∧ like next after
  killOther : ∀ {whole part caller next}, like whole part →
    mine caller = false → system.kill whole caller = some next →
      like next part

/-- Some callers are in two states at the same point, in shared states that
are alike for them. -/
structure Alike (mine : Caller → Bool) (like : Shared → Shared → Prop)
    (whole part : Callers Caller Shared Command Reply Error Value) :
    Prop where
  shared : like whole.shared part.shared
  running : ∀ caller, mine caller = true →
    part.running caller = whole.running caller

variable [DecidableEq Caller]
  {system : System Caller Shared Command Reply Error Choice Event}
  {mine : Caller → Bool} {seen : Event → Bool}
  {allowed : Caller → Shared → Command → Prop}
  {like : Shared → Shared → Prop}
  {whole part next : Callers Caller Shared Command Reply Error Value}

/-- A move that concerns the callers goes in both states alike. -/
theorem Isolates.concerning (isolates : system.Isolates mine seen allowed like)
    (alike : Alike mine like whole part)
    {move : Move Caller Choice Event} (keeps : KeepsTo allowed whole move)
    (concerns : move.concerning mine seen = true)
    (stepped : system.machine.step whole move = some next) :
    ∃ after, system.machine.step part move = some after ∧
      Alike mine like next after := by
  have updated : ∀ caller (coroutine : Option _) other, mine other = true →
      Function.update part.running caller coroutine other =
        Function.update whole.running caller coroutine other := by
    intro caller coroutine other own
    by_cases same : other = caller
    · simp [same]
    · simp [Function.update_of_ne same, alike.running other own]
  cases move with
  | caller caller choice =>
      obtain ⟨coroutine, runs, moved⟩ := Option.bind_eq_some_iff.mp stepped
      obtain ⟨⟨shared, rest⟩, advanced, rfl⟩ :=
        Option.map_eq_some_iff.mp moved
      have also := (alike.running caller concerns).trans runs
      cases coroutine with
      | done result => cases advanced
      | await command resume =>
          obtain ⟨⟨reply, after⟩, performed, same⟩ :=
            Option.map_eq_some_iff.mp advanced
          cases same
          obtain ⟨partly, performedPart, stays⟩ := isolates.own alike.shared
            concerns (keeps caller choice command rfl
              (by simp [Callers.awaited, runs])) performed
          refine ⟨⟨partly, Function.update part.running caller
            (some (resume reply))⟩, ?_, stays, updated _ _⟩
          simp [machine, also, advance, performedPart]
      | loop body resume =>
          cases advanced
          refine ⟨⟨part.shared, Function.update part.running caller
            (some (Coroutine.unroll body resume))⟩, ?_, alike.shared,
            updated _ _⟩
          simp [machine, also, advance]
  | environment event =>
      obtain ⟨shared, happened, rfl⟩ := Option.map_eq_some_iff.mp stepped
      obtain ⟨partly, happenedPart, stays⟩ :=
        isolates.event alike.shared concerns happened
      refine ⟨⟨partly, part.running⟩, ?_, stays, alike.running⟩
      simp [machine, happenedPart]
  | kill caller =>
      obtain ⟨coroutine, runs, killed⟩ := Option.bind_eq_some_iff.mp stepped
      obtain ⟨shared, happened, rfl⟩ := Option.map_eq_some_iff.mp killed
      obtain ⟨partly, happenedPart, stays⟩ :=
        isolates.kill alike.shared concerns happened
      have also := (alike.running caller concerns).trans runs
      refine ⟨⟨partly, Function.update part.running caller none⟩, ?_, stays,
        updated _ _⟩
      simp [machine, also, happenedPart]

/-- A move that does not concern the callers leaves both states alike. -/
theorem Isolates.unconcerning
    (isolates : system.Isolates mine seen allowed like)
    (alike : Alike mine like whole part)
    {move : Move Caller Choice Event} (keeps : KeepsTo allowed whole move)
    (apart : move.concerning mine seen = false)
    (stepped : system.machine.step whole move = some next) :
    Alike mine like next part := by
  have kept : ∀ caller (coroutine : Option _), mine caller = false →
      ∀ other, mine other = true → part.running other =
        Function.update whole.running caller coroutine other := by
    intro caller coroutine foreign other own
    have different : other ≠ caller := by
      intro same
      rw [same, foreign] at own
      cases own
    rw [Function.update_of_ne different, alike.running other own]
  cases move with
  | caller caller choice =>
      obtain ⟨coroutine, runs, moved⟩ := Option.bind_eq_some_iff.mp stepped
      obtain ⟨⟨shared, rest⟩, advanced, rfl⟩ :=
        Option.map_eq_some_iff.mp moved
      refine ⟨?_, kept caller _ apart⟩
      cases coroutine with
      | done result => cases advanced
      | await command resume =>
          obtain ⟨⟨reply, after⟩, performed, same⟩ :=
            Option.map_eq_some_iff.mp advanced
          cases same
          exact isolates.other alike.shared apart
            (keeps caller choice command rfl
              (by simp [Callers.awaited, runs])) performed
      | loop body resume =>
          cases advanced
          exact alike.shared
  | environment event =>
      obtain ⟨shared, happened, rfl⟩ := Option.map_eq_some_iff.mp stepped
      exact ⟨isolates.unseen alike.shared apart happened, alike.running⟩
  | kill caller =>
      obtain ⟨coroutine, runs, killed⟩ := Option.bind_eq_some_iff.mp stepped
      obtain ⟨shared, happened, rfl⟩ := Option.map_eq_some_iff.mp killed
      exact ⟨isolates.killOther alike.shared apart happened,
        kept caller _ apart⟩

/-- The moves of a run that concern the callers are a run of their own, which
brings them to the same point. -/
theorem run_isolated {final : Callers Caller Shared Command Reply Error Value}
    (isolates : system.Isolates mine seen allowed like)
    (alike : Alike mine like whole part)
    {moves : List (Move Caller Choice Event)}
    (along : system.machine.Along (KeepsTo allowed) whole moves)
    (reached : system.machine.run whole moves = some final) :
    ∃ after,
      system.machine.run part (moves.filter (Move.concerning mine seen)) =
        some after ∧ Alike mine like final after := by
  induction moves generalizing whole part with
  | nil =>
      cases reached
      exact ⟨part, rfl, alike⟩
  | cons move moves inductionHypothesis =>
      obtain ⟨next, stepped, rest⟩ := Option.bind_eq_some_iff.mp reached
      obtain ⟨keeps, later⟩ := along
      cases concerns : move.concerning mine seen with
      | true =>
          obtain ⟨partly, steppedPart, alikeNext⟩ :=
            isolates.concerning alike keeps concerns stepped
          obtain ⟨after, reachedPart, alikeAfter⟩ :=
            inductionHypothesis alikeNext (later next stepped) rest
          refine ⟨after, ?_, alikeAfter⟩
          simp [concerns, steppedPart, reachedPart]
      | false =>
          obtain ⟨after, reachedPart, alikeAfter⟩ := inductionHypothesis
            (isolates.unconcerning alike keeps concerns stepped)
            (later next stepped) rest
          refine ⟨after, ?_, alikeAfter⟩
          simpa [concerns] using reachedPart

end System

/-- Callers that keep a contract are allowed what they claim of every command
that they await. -/
theorem Contract.Sound.along_claims [DecidableEq Caller]
    {contract : Contract Caller Shared Command Choice Event}
    {system : System Caller Shared Command Reply Error Choice Event}
    {post : Caller → Except Error Value → Shared → Prop}
    {state : Callers Caller Shared Command Reply Error Value}
    (sound : contract.Sound system) (stable : contract.Stable system post)
    (safe : contract.Safe system post state)
    {moves : List (Move Caller Choice Event)}
    (along : system.machine.Along contract.guard state moves) :
    system.machine.Along
      (System.KeepsTo fun caller shared command =>
        contract.claims caller command shared) state moves := by
  induction moves generalizing state with
  | nil => trivial
  | cons move moves inductionHypothesis =>
      refine ⟨fun caller choice command _ awaits =>
        safe.claims sound awaits, fun next stepped => ?_⟩
      exact inductionHypothesis
        (sound.step stable move safe along.1 stepped).1
        (along.2 next stepped)

end
