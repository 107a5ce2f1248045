/-
Module: Integr8s.Lib.SlidingLog
Purpose: Logs of moments that bound what is admitted in any interval: how many
  moments lie after a bound or in an interval, when a log covers what was
  admitted in the windows from now on, and the bound that a limiter keeps which
  admits a moment only while its log has room.
Trusted boundary: none
Main exports: SlidingLog.countAfter, SlidingLog.countFrom,
  SlidingLog.countUpTo, SlidingLog.countUpTo_eq_countAfter,
  SlidingLog.Covers, SlidingLog.Covers.old,
  SlidingLog.Bounded, SlidingLog.Bounded.perm, SlidingLog.Bounded.accept
-/
import Mathlib.Algebra.Order.Group.Defs
import Mathlib.Data.List.Basic

universe u

namespace SlidingLog

section Counting

variable {Time : Type u} [LinearOrder Time]

/-- How many moments are later than a bound. -/
def countAfter (bound : Time) (moments : List Time) : Nat :=
  moments.countP fun moment => decide (bound < moment)

@[simp] theorem countAfter_nil (bound : Time) : countAfter bound [] = 0 := rfl

private theorem countAfter_cons (bound moment : Time) (moments : List Time) :
    countAfter bound (moment :: moments) =
      countAfter bound moments + if bound < moment then 1 else 0 := by
  simp [countAfter, List.countP_cons]

/-- Moments that are dropped up to a bound don't count after it. -/
theorem countAfter_filter {keeps : Time → Bool} {bound : Time}
    {moments : List Time}
    (kept : ∀ moment ∈ moments, bound < moment → keeps moment = true) :
    countAfter bound (moments.filter keeps) = countAfter bound moments := by
  rw [countAfter, countAfter, List.countP_filter]
  apply List.countP_congr
  intro moment member
  simp only [Bool.and_eq_true, decide_eq_true_eq, and_iff_left_iff_imp]
  exact kept moment member

end Counting

variable {Time : Type u} [AddCommGroup Time] [LinearOrder Time]

/-- How many moments lie in an interval with its first moment and without its
last one. -/
def countFrom (first length : Time) (moments : List Time) : Nat :=
  moments.countP fun moment =>
    decide (first ≤ moment ∧ moment < first + length)

/-- How many moments lie in an interval without its first moment and with its
last one. -/
def countUpTo (first length : Time) (moments : List Time) : Nat :=
  moments.countP fun moment =>
    decide (first < moment ∧ moment ≤ first + length)

/-- The interval's end counts nothing out when all is earlier. -/
theorem countUpTo_eq_countAfter {first length : Time} {moments : List Time}
    (ended : ∀ moment ∈ moments, moment ≤ first + length) :
    countUpTo first length moments = countAfter first moments := by
  apply List.countP_congr
  intro moment member
  simpa using fun _ => ended moment member

/-- From now on, what was admitted in a window is matched by what the log has
of it. -/
def Covers (window now : Time) (admitted log : List Time) : Prop :=
  ∀ bound, now - window ≤ bound →
    countAfter bound admitted ≤ countAfter bound log

/-- No half-open interval of the window's length has more moments than the
limit. -/
def Bounded (window : Time) (limit : Nat) (admitted : List Time) : Prop :=
  ∀ first, countFrom first window admitted ≤ limit ∧
    countUpTo first window admitted ≤ limit

variable {window now : Time} {limit : Nat} {admitted log : List Time}

namespace Covers

theorem start (window now : Time) (log : List Time) :
    Covers window now [] log := fun _ _ => Nat.zero_le _

/-- A log that keeps what a window may still need covers as before. -/
theorem keep {kept : List Time} (covers : Covers window now admitted log)
    (same : ∀ bound, now - window ≤ bound →
      countAfter bound log ≤ countAfter bound kept) :
    Covers window now admitted kept := fun bound late =>
  Nat.le_trans (covers bound late) (same bound late)

/-- What is logged without being admitted does no harm. -/
theorem reject (covers : Covers window now admitted log) (moment : Time) :
    Covers window now admitted (moment :: log) := by
  apply covers.keep
  intro bound _
  rw [countAfter_cons]
  exact Nat.le_add_right _ _

/-- What is admitted is logged. -/
theorem accept (covers : Covers window now admitted log) (moment : Time) :
    Covers window now (moment :: admitted) (moment :: log) := by
  intro bound late
  rw [countAfter_cons, countAfter_cons]
  exact Nat.add_le_add_right (covers bound late) _

/-- What is a window ago needs no log. -/
theorem old (ago : ∀ moment ∈ admitted, moment ≤ now - window)
    (log : List Time) : Covers window now admitted log := by
  intro bound late
  have none_after : countAfter bound admitted = 0 := by
    apply List.countP_eq_zero.mpr
    intro moment member
    simpa using le_trans (ago moment member) late
  rw [none_after]
  exact Nat.zero_le _

section Later

variable [IsOrderedAddMonoid Time]

theorem later {next : Time} (covers : Covers window now admitted log)
    (ordered : now ≤ next) : Covers window next admitted log :=
  fun bound late => covers bound (le_trans (sub_le_sub_right ordered _) late)

end Later

end Covers

namespace Bounded

theorem start (window : Time) (limit : Nat) : Bounded window limit [] :=
  fun _ => ⟨Nat.zero_le _, Nat.zero_le _⟩

/-- An interval without a length has no moments. -/
theorem of_nonpos [IsOrderedAddMonoid Time] (short : window ≤ 0)
    (limit : Nat) (admitted : List Time) : Bounded window limit admitted := by
  intro first
  have ended : first + window ≤ first := by
    simpa using add_le_add_right short first
  have none_from : countFrom first window admitted = 0 := by
    apply List.countP_eq_zero.mpr
    intro moment _
    simpa using fun reached => ended.trans reached
  have none_upTo : countUpTo first window admitted = 0 := by
    apply List.countP_eq_zero.mpr
    intro moment _
    simpa using fun later => ended.trans_lt later
  rw [none_from, none_upTo]
  exact ⟨Nat.zero_le _, Nat.zero_le _⟩

/-- The bound doesn't depend on the order of the moments. -/
theorem perm {other : List Time} (bounded : Bounded window limit admitted)
    (same : admitted.Perm other) : Bounded window limit other := by
  intro first
  rw [countFrom, countUpTo, ← same.countP_eq, ← same.countP_eq]
  exact bounded first

variable [IsOrderedAddMonoid Time]

/-- A log with room for one more moment may take it: an interval that has it
reaches back less than a window. -/
theorem accept (bounded : Bounded window limit admitted)
    (covers : Covers window now admitted log)
    (room : countAfter (now - window) log + 1 ≤ limit) :
    Bounded window limit (now :: admitted) := by
  have recent := covers (now - window) (le_refl _)
  have reaches {first moment : Time} (starts : now - window < first ∨
      now - window ≤ first ∧ first < moment) (after : first ≤ moment) :
      now - window < moment := by
    rcases starts with before | ⟨before, strict⟩
    · exact lt_of_lt_of_le before after
    · exact lt_of_le_of_lt before strict
  intro first
  constructor
  · rw [countFrom, List.countP_cons]
    by_cases inside : first ≤ now ∧ now < first + window
    · have starts : now - window < first := sub_lt_iff_lt_add.mpr inside.2
      have few : countFrom first window admitted ≤
          countAfter (now - window) admitted := by
        apply List.countP_mono_left
        intro moment _ within
        simp only [decide_eq_true_eq] at within ⊢
        exact reaches (.inl starts) within.1
      simp only [inside, and_self, decide_true, if_true]
      exact Nat.le_trans (Nat.succ_le_succ (Nat.le_trans few recent)) room
    · simp only [inside, decide_false, Bool.false_eq_true, if_false]
      exact (bounded first).1
  · rw [countUpTo, List.countP_cons]
    by_cases inside : first < now ∧ now ≤ first + window
    · have starts : now - window ≤ first := sub_le_iff_le_add.mpr inside.2
      have few : countUpTo first window admitted ≤
          countAfter (now - window) admitted := by
        apply List.countP_mono_left
        intro moment _ within
        simp only [decide_eq_true_eq] at within ⊢
        exact reaches (.inr ⟨starts, within.1⟩) within.1.le
      simp only [inside, and_self, decide_true, if_true]
      exact Nat.le_trans (Nat.succ_le_succ (Nat.le_trans few recent)) room
    · simp only [inside, decide_false, Bool.false_eq_true, if_false]
      exact (bounded first).2

end Bounded

end SlidingLog
