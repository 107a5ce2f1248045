/-
Module: Integr8s.Lib.Machine
Purpose: Machines whose steps are partial functions of a label, their runs,
  the induction rules for runs all of whose steps meet a guard, and the
  simulation of what is observed of a run by another machine.
Trusted boundary: none
Main exports: Machine, Machine.run, Machine.Along, Machine.run_invariant,
  Machine.Inevitable, Machine.trace, Machine.run_simulates
-/
import Mathlib.Data.List.Basic
import Mathlib.Data.Option.Basic

universe u v w x

/-- A machine is a partial step function of a label.  The label carries every
choice of the environment (which thread moves, what a failing command did,
how much time passes), so a run is determined by its labels and can be
evaluated. -/
structure Machine (State : Type u) (Label : Type v) where
  step : State → Label → Option State

namespace Machine

variable {State : Type u} {Label : Type v} (machine : Machine State Label)

/-- The state after a list of labels, or `none` when one of them is not
enabled. -/
def run : State → List Label → Option State
  | state, [] => some state
  | state, label :: labels =>
      (machine.step state label).bind fun next => run next labels

/-- Every step of the run from `state` along the labels meets the guard in
the state it starts from. -/
def Along (guard : State → Label → Prop) : State → List Label → Prop
  | _, [] => True
  | state, label :: labels =>
      guard state label ∧
        ∀ next, machine.step state label = some next →
          Along guard next labels

@[simp] theorem run_nil (state : State) : machine.run state [] = some state :=
  rfl

@[simp] theorem run_cons (state : State) (label : Label)
    (labels : List Label) :
    machine.run state (label :: labels) =
      (machine.step state label).bind fun next => machine.run next labels :=
  rfl

@[simp] theorem along_nil (guard : State → Label → Prop) (state : State) :
    machine.Along guard state [] :=
  trivial

/-- A run splits at any point of its labels. -/
theorem run_append (state : State) (first second : List Label) :
    machine.run state (first ++ second) =
      (machine.run state first).bind fun middle =>
        machine.run middle second := by
  induction first generalizing state with
  | nil => rfl
  | cons label labels inductionHypothesis =>
      cases stepped : machine.step state label with
      | none => simp [stepped]
      | some next => simp [stepped, inductionHypothesis next]

/-- A guard that every step of a longer run meets is met along its first
part and, from the state reached there, along the rest. -/
theorem along_append {guard : State → Label → Prop} {state middle : State}
    {first second : List Label}
    (reached : machine.run state first = some middle)
    (along : machine.Along guard state (first ++ second)) :
    machine.Along guard state first ∧ machine.Along guard middle second := by
  induction first generalizing state with
  | nil =>
      cases reached
      exact ⟨trivial, along⟩
  | cons label labels inductionHypothesis =>
      obtain ⟨next, stepped, rest⟩ := Option.bind_eq_some_iff.mp reached
      obtain ⟨here, later⟩ := along
      have split := inductionHypothesis rest (later next stepped)
      refine ⟨⟨here, ?_⟩, split.2⟩
      intro other otherStepped
      cases stepped.symm.trans otherStepped
      exact split.1

/-- A guard that follows from a stronger one is met along every run that
meets the stronger one. -/
theorem Along.mono {machine : Machine State Label}
    {strong weak : State → Label → Prop}
    (weaken : ∀ state label, strong state label → weak state label)
    {state : State} {labels : List Label}
    (along : machine.Along strong state labels) :
    machine.Along weak state labels := by
  induction labels generalizing state with
  | nil => trivial
  | cons label labels inductionHypothesis =>
      exact ⟨weaken _ _ along.1, fun next stepped =>
        inductionHypothesis (along.2 next stepped)⟩

/-- Two guards that are met along a run are met together. -/
theorem Along.and {machine : Machine State Label}
    {first second : State → Label → Prop} {state : State}
    {labels : List Label} (alongFirst : machine.Along first state labels)
    (alongSecond : machine.Along second state labels) :
    machine.Along (fun state label => first state label ∧ second state label)
      state labels := by
  induction labels generalizing state with
  | nil => trivial
  | cons label labels inductionHypothesis =>
      exact ⟨⟨alongFirst.1, alongSecond.1⟩, fun next stepped =>
        inductionHypothesis (alongFirst.2 next stepped)
          (alongSecond.2 next stepped)⟩

/-- A guard is met along a list of labels, or the run along some first part of
them reaches a state in which the next label breaks it. -/
theorem along_or_breaks (guard : State → Label → Prop) (state : State)
    (labels : List Label) :
    machine.Along guard state labels ∨
      ∃ first label rest middle, labels = first ++ label :: rest ∧
        machine.run state first = some middle ∧ ¬ guard middle label := by
  induction labels generalizing state with
  | nil => exact .inl trivial
  | cons label labels inductionHypothesis =>
      by_cases here : guard state label
      · cases stepped : machine.step state label with
        | none =>
            refine .inl ⟨here, fun next also => ?_⟩
            cases stepped.symm.trans also
        | some next =>
            rcases inductionHypothesis next with
              later | ⟨first, broken, rest, middle, rfl, reached, breaks⟩
            · refine .inl ⟨here, fun other also => ?_⟩
              cases stepped.symm.trans also
              exact later
            · exact .inr ⟨label :: first, broken, rest, middle, rfl,
                by simp [stepped, reached], breaks⟩
      · exact .inr ⟨[], label, labels, state, rfl, rfl, here⟩

/-- A guard is met along a list of labels when it holds wherever the run along
some first part of them comes. -/
theorem along_of_reached {guard : State → Label → Prop} {state : State}
    {labels : List Label}
    (holds : ∀ first label rest middle, labels = first ++ label :: rest →
      machine.run state first = some middle → guard middle label) :
    machine.Along guard state labels := by
  rcases machine.along_or_breaks guard state labels with
    along | ⟨first, label, rest, middle, parts, reached, breaks⟩
  · exact along
  · exact absurd (holds first label rest middle parts reached) breaks

/-- A guard that holds of every step is met along every run. -/
theorem along_of_forall {guard : State → Label → Prop}
    (holds : ∀ state label, guard state label) (state : State)
    (labels : List Label) : machine.Along guard state labels := by
  induction labels generalizing state with
  | nil => trivial
  | cons label labels inductionHypothesis =>
      exact ⟨holds _ _, fun next _ => inductionHypothesis next⟩

/-- Check a guard at every step of a run by evaluation. -/
def checkAlong (check : State → Label → Bool) : State → List Label → Bool
  | _, [] => true
  | state, label :: labels =>
      check state label &&
        match machine.step state label with
        | none => true
        | some next => checkAlong check next labels

/-- A check that implies the guard shows it along a run. -/
theorem along_of_check {guard : State → Label → Prop}
    {check : State → Label → Bool}
    (implies : ∀ state label, check state label = true → guard state label)
    {state : State} {labels : List Label}
    (checked : machine.checkAlong check state labels = true) :
    machine.Along guard state labels := by
  induction labels generalizing state with
  | nil => trivial
  | cons label labels inductionHypothesis =>
      simp only [checkAlong, Bool.and_eq_true] at checked
      refine ⟨implies state label checked.1, fun next stepped => ?_⟩
      apply inductionHypothesis
      simpa [stepped] using checked.2

/-- A guard that the labels alone meet is met along every run of them. -/
theorem along_of_labels {guard : State → Label → Prop} {labels : List Label}
    (meets : ∀ label ∈ labels, ∀ state, guard state label) (state : State) :
    machine.Along guard state labels := by
  induction labels generalizing state with
  | nil => trivial
  | cons label labels inductionHypothesis =>
      refine ⟨meets label (by simp) state, fun next _ => ?_⟩
      exact inductionHypothesis
        (fun other member => meets other (by simp [member])) next

/-- The invariant rule: what holds at first and is kept by every guarded
step holds in the state a guarded run ends in. -/
theorem run_invariant (guard : State → Label → Prop)
    (invariant : State → Prop)
    (preserved : ∀ state label next, invariant state → guard state label →
      machine.step state label = some next → invariant next)
    {state final : State} {labels : List Label}
    (initial : invariant state)
    (along : machine.Along guard state labels)
    (reached : machine.run state labels = some final) :
    invariant final := by
  induction labels generalizing state with
  | nil =>
      cases reached
      exact initial
  | cons label labels inductionHypothesis =>
      obtain ⟨next, stepped, rest⟩ := Option.bind_eq_some_iff.mp reached
      exact inductionHypothesis
        (preserved state label next initial along.1 stepped)
        (along.2 next stepped) rest

/-- The invariant rule for runs without a guard. -/
theorem run_invariant' (invariant : State → Prop)
    (preserved : ∀ state label next, invariant state →
      machine.step state label = some next → invariant next)
    {state final : State} {labels : List Label}
    (initial : invariant state)
    (reached : machine.run state labels = some final) :
    invariant final :=
  machine.run_invariant (fun _ _ => True) invariant
    (fun state label next holds _ => preserved state label next holds)
    initial (machine.along_of_forall (fun _ _ => trivial) _ _) reached

/-! ### What every run comes to -/

/-- Every guarded run from a state comes to the goal: it is there, or some
guarded step can be made and every one leads to a state of which this holds. -/
inductive Inevitable (guard : State → Label → Prop) (goal : State → Prop) :
    State → Prop
  | reached (state : State) (here : goal state) : Inevitable guard goal state
  | goesOn (state : State)
      (can : ∃ label next, guard state label ∧
        machine.step state label = some next)
      (leads : ∀ label next, guard state label →
        machine.step state label = some next → Inevitable guard goal next) :
      Inevitable guard goal state

/-- What comes to a goal comes to a weaker one. -/
theorem Inevitable.mono {machine : Machine State Label}
    {guard : State → Label → Prop} {strong weak : State → Prop}
    {state : State} (inevitable : machine.Inevitable guard strong state)
    (weaken : ∀ state, strong state → weak state) :
    machine.Inevitable guard weak state := by
  induction inevitable with
  | reached state here => exact .reached state (weaken state here)
  | goesOn state can leads inductionHypothesis =>
      exact .goesOn state can inductionHypothesis

/-- A guarded run without end passes through the goal. -/
theorem Inevitable.passes {machine : Machine State Label}
    {guard : State → Label → Prop} {goal : State → Prop} {state : State}
    (inevitable : machine.Inevitable guard goal state)
    (states : Nat → State) (labels : Nat → Label)
    (begins : states 0 = state)
    (steps : ∀ n, guard (states n) (labels n) ∧
      machine.step (states n) (labels n) = some (states (n + 1))) :
    ∃ n, goal (states n) := by
  induction inevitable generalizing states labels with
  | reached state here => exact ⟨0, begins ▸ here⟩
  | goesOn state can leads inductionHypothesis =>
      subst begins
      obtain ⟨guarded, stepped⟩ := steps 0
      obtain ⟨n, there⟩ := inductionHypothesis (labels 0) (states 1) guarded
        stepped (fun n => states (n + 1)) (fun n => labels (n + 1)) rfl
        (fun n => steps (n + 1))
      exact ⟨n + 1, there⟩

/-- A guarded run that ends where no guarded step can be made has passed
through the goal. -/
theorem Inevitable.run {machine : Machine State Label}
    {guard : State → Label → Prop} {goal : State → Prop}
    {state final : State} {labels : List Label}
    (inevitable : machine.Inevitable guard goal state)
    (stops : ∀ state, goal state → ∀ label, machine.step state label = none)
    (along : machine.Along guard state labels)
    (reached : machine.run state labels = some final)
    (ended : ∀ label, machine.step final label = none) : goal final := by
  induction labels generalizing state with
  | nil =>
      cases reached
      cases inevitable with
      | reached _ here => exact here
      | goesOn _ can leads =>
          obtain ⟨label, next, -, stepped⟩ := can
          cases (ended label).symm.trans stepped
  | cons label labels inductionHypothesis =>
      obtain ⟨next, stepped, rest⟩ := Option.bind_eq_some_iff.mp reached
      cases inevitable with
      | reached _ here => cases (stops state here label).symm.trans stepped
      | goesOn _ can leads =>
          exact inductionHypothesis (leads label next along.1 stepped)
            (along.2 next stepped) rest

/-! ### What is observed of a run -/

section Simulation

variable {Abstract : Type w} {Observation : Type x}

/-- What is observed of a run. -/
def trace (observe : State → Label → Option Observation) :
    State → List Label → List Observation
  | _, [] => []
  | state, label :: labels =>
      (observe state label).toList ++
        match machine.step state label with
        | none => []
        | some next => trace observe next labels

/-- The simulation rule: when every guarded step that is not observed keeps
two states related, and every other one is a step of the abstract machine,
what is observed of a guarded run is a run of the abstract machine. -/
theorem run_simulates (abstract : Machine Abstract Observation)
    (observe : State → Label → Option Observation)
    (guard : State → Label → Prop) (related : State → Abstract → Prop)
    (silent : ∀ state label next image, guard state label →
      related state image → machine.step state label = some next →
        observe state label = none → related next image)
    (visible : ∀ state label next image observed, guard state label →
      related state image → machine.step state label = some next →
        observe state label = some observed →
          ∃ after, abstract.step image observed = some after ∧
            related next after)
    {state final : State} {labels : List Label} {image : Abstract}
    (initial : related state image)
    (along : machine.Along guard state labels)
    (reached : machine.run state labels = some final) :
    ∃ after, abstract.run image (machine.trace observe state labels) =
        some after ∧ related final after := by
  induction labels generalizing state image with
  | nil =>
      cases reached
      exact ⟨image, rfl, initial⟩
  | cons label labels inductionHypothesis =>
      obtain ⟨next, stepped, rest⟩ := Option.bind_eq_some_iff.mp reached
      obtain ⟨here, later⟩ := along
      simp only [trace, stepped]
      cases observed : observe state label with
      | none =>
          exact inductionHypothesis
            (silent _ _ _ _ here initial stepped observed)
            (later next stepped) rest
      | some observation =>
          obtain ⟨middle, taken, kept⟩ :=
            visible _ _ _ _ _ here initial stepped observed
          obtain ⟨after, ran, ends⟩ :=
            inductionHypothesis kept (later next stepped) rest
          refine ⟨after, ?_, ends⟩
          simp [taken, ran]

end Simulation

end Machine
