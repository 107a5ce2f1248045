/-
Module: Integr8s.Lib.Replay
Purpose: States rebuilt from stamped events: the replay in the order of the
  stamps, its start from the state at some stamp, and the value of a register,
  which the latest event that writes it decides.
Trusted boundary: none
Main exports: Replay, Replay.rebuild, Replay.rebuild_split,
  Replay.rebuild_latest, Register, Register.Decides,
  Register.read_foldl, Register.read_rebuild_decided,
  Register.read_rebuild_untouched
-/
import Mathlib.Data.List.Sort
import Mathlib.Data.List.Pairwise

universe u v w

/-! ### Events in the order of their stamps -/

/-- How events are ordered and what each of them does to a state. -/
structure Replay (State : Type u) (Event : Type v) where
  stamp : Event → Nat
  apply : State → Event → State

namespace Replay

variable {State : Type u} {Event : Type v} (rules : Replay State Event)

/-- Whether an event goes before another one. -/
def Before (first second : Event) : Prop :=
  rules.stamp first ≤ rules.stamp second

instance : DecidableRel rules.Before := fun first second =>
  inferInstanceAs (Decidable (rules.stamp first ≤ rules.stamp second))

instance : Std.Total rules.Before :=
  ⟨fun first second => Nat.le_total (rules.stamp first) (rules.stamp second)⟩

instance : IsTrans Event rules.Before :=
  ⟨fun _ _ _ => Nat.le_trans⟩

/-- The events in the order of their stamps. -/
def inOrder (events : List Event) : List Event :=
  events.insertionSort rules.Before

/-- The state after the replay of events. -/
def rebuild (initial : State) (events : List Event) : State :=
  (rules.inOrder events).foldl rules.apply initial

/-- The events that a state at some stamp has in it. -/
def upTo (bound : Nat) (events : List Event) : List Event :=
  events.filter fun event => decide (rules.stamp event ≤ bound)

/-- The events after some stamp. -/
def since (bound : Nat) (events : List Event) : List Event :=
  events.filter fun event => decide (bound < rules.stamp event)

variable {rules} {bound : Nat} {initial : State}

theorem mem_upTo {event : Event} {events : List Event} :
    event ∈ rules.upTo bound events ↔
      event ∈ events ∧ rules.stamp event ≤ bound := by
  simp [upTo]

theorem mem_since {event : Event} {events : List Event} :
    event ∈ rules.since bound events ↔
      event ∈ events ∧ bound < rules.stamp event := by
  simp [since]

private theorem mem_inOrder {event : Event} {events : List Event} :
    event ∈ rules.inOrder events ↔ event ∈ events :=
  List.mem_insertionSort _

private theorem inOrder_sorted (events : List Event) :
    (rules.inOrder events).Pairwise rules.Before :=
  List.pairwise_insertionSort _ events

/-- An early event goes among the early ones. -/
private theorem orderedInsert_early {event : Event}
    {early late : List Event}
    (isEarly : rules.stamp event ≤ bound)
    (later : ∀ other ∈ late, bound < rules.stamp other) :
    (early ++ late).orderedInsert rules.Before event =
      early.orderedInsert rules.Before event ++ late := by
  induction early with
  | nil =>
      cases late with
      | nil => rfl
      | cons other late =>
          have isLater := later other (by simp)
          have here : rules.Before event other := by
            simp only [Before]
            omega
          simp [here]
  | cons other early inductionHypothesis =>
      by_cases here : rules.Before event other
      · simp [here]
      · simp [here, inductionHypothesis]

/-- A late event goes behind the early ones. -/
private theorem orderedInsert_late {event : Event}
    {early late : List Event}
    (isLate : bound < rules.stamp event)
    (earlier : ∀ other ∈ early, rules.stamp other ≤ bound) :
    (early ++ late).orderedInsert rules.Before event =
      early ++ late.orderedInsert rules.Before event := by
  induction early with
  | nil => rfl
  | cons other early inductionHypothesis =>
      have isEarlier := earlier other (by simp)
      have notHere : ¬ rules.Before event other := by
        simp only [Before]
        omega
      have rest := inductionHypothesis fun another member =>
        earlier another (by simp [member])
      simp [notHere, rest]

/-- The order splits at any stamp. -/
theorem inOrder_split (bound : Nat) (events : List Event) :
    rules.inOrder events =
      rules.inOrder (rules.upTo bound events) ++
        rules.inOrder (rules.since bound events) := by
  induction events with
  | nil => rfl
  | cons event events inductionHypothesis =>
      have step : rules.inOrder (event :: events) =
          (rules.inOrder events).orderedInsert rules.Before event := rfl
      rw [step, inductionHypothesis]
      by_cases isEarly : rules.stamp event ≤ bound
      · have notLate : ¬ bound < rules.stamp event := by omega
        have early : rules.upTo bound (event :: events) =
            event :: rules.upTo bound events := by
          simp [upTo, isEarly]
        have late : rules.since bound (event :: events) =
            rules.since bound events := by
          simp [since, notLate]
        rw [early, late]
        exact orderedInsert_early isEarly fun other member =>
          (mem_since.mp (mem_inOrder.mp member)).2
      · have isLate : bound < rules.stamp event := by omega
        have early : rules.upTo bound (event :: events) =
            rules.upTo bound events := by
          simp [upTo, isEarly]
        have late : rules.since bound (event :: events) =
            event :: rules.since bound events := by
          simp [since, isLate]
        rw [early, late]
        exact orderedInsert_late isLate fun other member =>
          (mem_upTo.mp (mem_inOrder.mp member)).2

/-- The replay may start from the state at any stamp, with the events after
it. -/
theorem rebuild_split (bound : Nat) (initial : State) (events : List Event) :
    rules.rebuild initial events =
      rules.rebuild (rules.rebuild initial (rules.upTo bound events))
        (rules.since bound events) := by
  rw [rebuild, inOrder_split bound, List.foldl_append]
  rfl

/-- Events that bring nothing after some stamp leave the state at it. -/
theorem rebuild_upTo {events : List Event}
    (early : ∀ event ∈ events, rules.stamp event ≤ bound) :
    rules.upTo bound events = events := by
  apply List.filter_eq_self.mpr
  intro event member
  simpa using early event member

/-- An event after all others is applied last. -/
theorem rebuild_latest {event : Event} {events : List Event}
    (latest : ∀ other ∈ events, rules.stamp other < rules.stamp event) :
    rules.rebuild initial (events ++ [event]) =
      rules.apply (rules.rebuild initial events) event := by
  have positive (other : Event) (member : other ∈ events) :
      rules.stamp other ≤ rules.stamp event - 1 := by
    have := latest other member
    omega
  cases events with
  | nil => rfl
  | cons first events =>
      have some : rules.stamp event - 1 < rules.stamp event := by
        have := latest first (by simp)
        omega
      rw [rebuild_split (rules.stamp event - 1)]
      have early : rules.upTo (rules.stamp event - 1)
          (first :: events ++ [event]) = first :: events := by
        rw [upTo, List.filter_append]
        have here := rebuild_upTo positive
        rw [upTo] at here
        rw [here]
        simp [some]
      have late : rules.since (rules.stamp event - 1)
          (first :: events ++ [event]) = [event] := by
        rw [since, List.filter_append]
        have none : (first :: events).filter (fun other =>
            decide (rules.stamp event - 1 < rules.stamp other)) = [] := by
          apply List.filter_eq_nil_iff.mpr
          intro other member
          have := positive other member
          simp only [decide_eq_true_eq]
          omega
        rw [none]
        simp [some]
      rw [early, late]
      rfl

/-- Events with distinct stamps. -/
def Distinct (rules : Replay State Event) (events : List Event) : Prop :=
  events.Pairwise fun first second => rules.stamp first ≠ rules.stamp second

theorem Distinct.nodup {events : List Event}
    (distinct : rules.Distinct events) : events.Nodup :=
  distinct.imp fun different same => different (by rw [same])

/-- A stamp belongs to one event. -/
theorem Distinct.unique {events : List Event} {first second : Event}
    (distinct : rules.Distinct events) (inFirst : first ∈ events)
    (inSecond : second ∈ events)
    (same : rules.stamp first = rules.stamp second) : first = second := by
  by_contra different
  have symmetric : Std.Symm fun first second : Event =>
      rules.stamp first ≠ rules.stamp second :=
    ⟨fun _ _ apart => apart.symm⟩
  exact distinct.forall inFirst inSecond different same

/-- The replay of events with distinct stamps depends only on which they
are. -/
theorem rebuild_congr {first second : List Event}
    (distinctFirst : rules.Distinct first)
    (distinctSecond : rules.Distinct second)
    (same : ∀ event, event ∈ first ↔ event ∈ second) :
    rules.rebuild initial first = rules.rebuild initial second := by
  have permuted : first.Perm second :=
    (List.perm_ext_iff_of_nodup distinctFirst.nodup
      distinctSecond.nodup).mpr same
  have sameOrder : rules.inOrder first = rules.inOrder second := by
    refine List.Perm.eq_of_pairwise ?_ (inOrder_sorted first)
      (inOrder_sorted second) ?_
    · intro earlier later inFirst inSecond before after
      have bothHere : later ∈ first :=
        (same later).mpr (mem_inOrder.mp inSecond)
      exact distinctFirst.unique (mem_inOrder.mp inFirst) bothHere
        (Nat.le_antisymm before after)
    · exact (List.perm_insertionSort _ first).trans
        (permuted.trans (List.perm_insertionSort _ second).symm)
  rw [rebuild, rebuild, sameOrder]

end Replay

/-! ### Registers that events set

A register is read from a state, and some events decide what it reads as.
After a replay it reads as the last of those left it. -/

/-- A part of the state that some events write as a whole. -/
structure Register {State : Type u} {Event : Type v}
    (rules : Replay State Event) (Value : Type w) where
  read : State → Value
  write : Event → Option Value
  read_apply : ∀ state event,
    read (rules.apply state event) = (write event).getD (read state)

namespace Register

variable {State : Type u} {Event : Type v} {Value : Type w}
  {rules : Replay State Event} (register : Register rules Value)

/-- The event writes the register, and none that does has a later stamp. -/
structure Decides (events : List Event) (event : Event) (value : Value) :
    Prop where
  member : event ∈ events
  writes : register.write event = some value
  latest : ∀ other ∈ events, register.write other ≠ none →
    rules.stamp other ≤ rules.stamp event

variable {register} {initial : State} {events : List Event}

private theorem read_foldl_untouched
    (untouched : ∀ event ∈ events, register.write event = none) :
    register.read (events.foldl rules.apply initial) =
      register.read initial := by
  induction events generalizing initial with
  | nil => rfl
  | cons event events inductionHypothesis =>
      rw [List.foldl_cons, inductionHypothesis fun other member =>
        untouched other (by simp [member]), register.read_apply,
        untouched event (by simp)]
      rfl

/-- What the last of some events that writes the register writes there. -/
def last (register : Register rules Value) : List Event → Option Value
  | [] => none
  | event :: events => (register.last events).or (register.write event)

/-- After some events the register holds what the last of them that writes it
has written. -/
theorem read_foldl (events : List Event) (initial : State) :
    register.read (events.foldl rules.apply initial) =
      (register.last events).getD (register.read initial) := by
  induction events generalizing initial with
  | nil => rfl
  | cons event events inductionHypothesis =>
      rw [List.foldl_cons, inductionHypothesis, register.read_apply, last]
      cases register.last events with
      | none => rfl
      | some value => rfl

/-- A register that no event writes keeps its value. -/
theorem read_rebuild_untouched
    (untouched : ∀ event ∈ events, register.write event = none) :
    register.read (rules.rebuild initial events) =
      register.read initial :=
  read_foldl_untouched fun event member =>
    untouched event (Replay.mem_inOrder.mp member)

/-- The latest event that writes a register decides its value. -/
theorem read_rebuild_decided {event : Event} {value : Value}
    (distinct : rules.Distinct events)
    (decides : register.Decides events event value) :
    register.read (rules.rebuild initial events) = value := by
  obtain ⟨before, after, split⟩ :=
    List.append_of_mem (Replay.mem_inOrder.mpr decides.member)
  have sorted : (rules.inOrder events).Pairwise rules.Before :=
    Replay.inOrder_sorted events
  have apart : (rules.inOrder events).Pairwise fun first second =>
      rules.stamp first ≠ rules.stamp second :=
    (List.perm_insertionSort _ events).symm.pairwise distinct
      fun different => different.symm
  rw [split] at sorted apart
  -- No event behind the deciding one writes the register
  have untouched : ∀ other ∈ after, register.write other = none := by
    intro other member
    by_contra writes
    have inEvents : other ∈ events := by
      have there : other ∈ rules.inOrder events := by
        rw [split]
        simp [member]
      exact Replay.mem_inOrder.mp there
    have early := decides.latest other inEvents writes
    have late : rules.stamp event ≤ rules.stamp other :=
      (List.pairwise_cons.mp (List.pairwise_append.mp sorted).2.1).1 other
        member
    have different : rules.stamp event ≠ rules.stamp other :=
      (List.pairwise_cons.mp (List.pairwise_append.mp apart).2.1).1 other
        member
    omega
  rw [Replay.rebuild, split, List.foldl_append, List.foldl_cons,
    read_foldl_untouched untouched, register.read_apply, decides.writes]
  rfl

/-- Of the events that write a register, one is the latest. -/
theorem exists_decides {writer : Event} (member : writer ∈ events)
    (writes : register.write writer ≠ none) :
    ∃ event value, register.Decides events event value := by
  induction events generalizing writer with
  | nil => cases member
  | cons first events inductionHypothesis =>
      by_cases later : ∃ other ∈ events, register.write other ≠ none ∧
          (register.write first ≠ none →
            rules.stamp first ≤ rules.stamp other)
      · obtain ⟨other, inEvents, otherWrites, isLater⟩ := later
        obtain ⟨event, value, decides⟩ :=
          inductionHypothesis inEvents otherWrites
        refine ⟨event, value, by simp [decides.member], decides.writes, ?_⟩
        intro another inAll anotherWrites
        rcases List.mem_cons.mp inAll with rfl | inRest
        · exact Nat.le_trans (isLater anotherWrites)
            (decides.latest other inEvents otherWrites)
        · exact decides.latest another inRest anotherWrites
      · have firstWrites : register.write first ≠ none := by
          intro silent
          rcases List.mem_cons.mp member with rfl | inRest
          · exact writes silent
          · exact later ⟨writer, inRest, writes, fun loud =>
              absurd silent loud⟩
        obtain ⟨value, written⟩ := Option.ne_none_iff_exists'.mp firstWrites
        refine ⟨first, value, by simp, written, ?_⟩
        intro another inAll anotherWrites
        rcases List.mem_cons.mp inAll with rfl | inRest
        · exact Nat.le_refl _
        · by_contra before
          exact later ⟨another, inRest, anotherWrites, fun _ => by omega⟩

/-- The value of a register depends only on the events that write it. -/
theorem read_rebuild_congr (register : Register rules Value)
    {first second : List Event}
    (distinctFirst : rules.Distinct first)
    (distinctSecond : rules.Distinct second)
    (same : ∀ event, register.write event ≠ none →
      (event ∈ first ↔ event ∈ second)) :
    register.read (rules.rebuild initial first) =
      register.read (rules.rebuild initial second) := by
  by_cases written : ∃ event ∈ first, register.write event ≠ none
  · obtain ⟨writer, member, writes⟩ := written
    obtain ⟨event, value, decides⟩ := exists_decides member writes
    have eventWrites : register.write event ≠ none := by
      simp [decides.writes]
    have decidesSecond : register.Decides second event value :=
      ⟨(same event eventWrites).mp decides.member, decides.writes,
        fun other inSecond otherWrites => decides.latest other
          ((same other otherWrites).mpr inSecond) otherWrites⟩
    rw [read_rebuild_decided distinctFirst decides,
      read_rebuild_decided distinctSecond decidesSecond]
  · have silentFirst : ∀ event ∈ first, register.write event = none := by
      intro event member
      by_contra writes
      exact written ⟨event, member, writes⟩
    have silentSecond : ∀ event ∈ second, register.write event = none := by
      intro event member
      by_contra writes
      exact written ⟨event, (same event writes).mpr member, writes⟩
    rw [read_rebuild_untouched silentFirst,
      read_rebuild_untouched silentSecond]

end Register
