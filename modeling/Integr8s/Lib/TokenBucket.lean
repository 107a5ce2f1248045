/-
Module: Integr8s.Lib.TokenBucket
Purpose: Buckets of tokens: a bucket that never gets more tokens than flow in
  or than it holds, and gives one for each moment that it admits, bounds what
  is admitted between any two moments.
Trusted boundary: none
Main exports: TokenBucket.countBetween, TokenBucket.Sound,
  TokenBucket.Sound.refill, TokenBucket.Sound.lose,
  TokenBucket.Sound.spend
-/
import Mathlib.Algebra.Order.Field.Basic
import Mathlib.Data.List.Basic
import Mathlib.Tactic.Linarith

universe u

namespace TokenBucket

section Counting

variable {Number : Type u} [LinearOrder Number]

/-- How many moments are not before a first one. -/
def countSince (first : Number) (moments : List Number) : Nat :=
  moments.countP fun moment => decide (first ≤ moment)

/-- How many moments lie between two moments, both included. -/
def countBetween (first last : Number) (moments : List Number) : Nat :=
  moments.countP fun moment => decide (first ≤ moment ∧ moment ≤ last)

theorem countSince_cons (first moment : Number) (moments : List Number) :
    countSince first (moment :: moments) =
      countSince first moments + if first ≤ moment then 1 else 0 := by
  simp [countSince, List.countP_cons]

private theorem countBetween_cons (first last moment : Number)
    (moments : List Number) :
    countBetween first last (moment :: moments) =
      countBetween first last moments +
        if first ≤ moment ∧ moment ≤ last then 1 else 0 := by
  simp [countBetween, List.countP_cons]

private theorem countBetween_le_countSince (first last : Number)
    (moments : List Number) :
    countBetween first last moments ≤ countSince first moments := by
  apply List.countP_mono_left
  intro moment _ inside
  simp only [decide_eq_true_eq] at inside ⊢
  exact inside.1

/-- Nothing was admitted since a moment that is still to come. -/
theorem countSince_future {first : Number} {moments : List Number}
    (past : ∀ moment ∈ moments, moment < first) :
    countSince first moments = 0 := by
  apply List.countP_eq_zero.mpr
  intro moment member
  simpa using past moment member

end Counting

variable {Number : Type u} [Field Number] [LinearOrder Number]

/-- What was admitted since any moment and is left in the bucket now had room
in it then or flowed in since, and so for what was admitted between any two
moments. -/
structure Sound (size rate now tokens : Number) (admitted : List Number) :
    Prop where
  paid : ∀ first, first ≤ now →
    (countSince first admitted : Number) + tokens ≤
      size + (now - first) * rate
  past : ∀ moment ∈ admitted, moment ≤ now
  tokens_nonneg : 0 ≤ tokens
  bounded : ∀ first last, first ≤ last →
    (countBetween first last admitted : Number) ≤
      size + (last - first) * rate

variable {size rate now tokens : Number} {admitted : List Number}

namespace Sound

variable [IsStrictOrderedRing Number]

/-- A full bucket that has admitted nothing. -/
theorem start (size_nonneg : 0 ≤ size) (rate_nonneg : 0 ≤ rate)
    (now : Number) : Sound size rate now size [] where
  paid first before := by
    have flows := mul_nonneg (sub_nonneg.mpr before) rate_nonneg
    simpa [countSince] using flows
  past moment member := by cases member
  tokens_nonneg := size_nonneg
  bounded first last ordered := by
    have flows := mul_nonneg (sub_nonneg.mpr ordered) rate_nonneg
    simp only [countBetween, List.countP_nil, Nat.cast_zero]
    exact add_nonneg size_nonneg flows

/-- At a later moment the bucket has at most what flowed in besides, and what
it has room for. -/
theorem refill {later refilled : Number}
    (sound : Sound size rate now tokens admitted) (ordered : now ≤ later)
    (rate_nonneg : 0 ≤ rate) (refilled_nonneg : 0 ≤ refilled)
    (flows : refilled ≤ tokens + (later - now) * rate)
    (room : refilled ≤ size) : Sound size rate later refilled admitted where
  paid first before := by
    rcases le_or_gt first now with early | late
    · have paid := sound.paid first early
      linarith
    · rw [countSince_future fun moment member =>
        lt_of_le_of_lt (sound.past moment member) late]
      have more := mul_nonneg (sub_nonneg.mpr before) rate_nonneg
      simp only [Nat.cast_zero]
      linarith
  past moment member := le_trans (sound.past moment member) ordered
  tokens_nonneg := refilled_nonneg
  bounded := sound.bounded

/-- Tokens may be lost. -/
theorem lose {fewer : Number} (sound : Sound size rate now tokens admitted)
    (fewer_nonneg : 0 ≤ fewer) (less : fewer ≤ tokens) :
    Sound size rate now fewer admitted where
  paid first before := by
    have paid := sound.paid first before
    linarith
  past := sound.past
  tokens_nonneg := fewer_nonneg
  bounded := sound.bounded

/-- A token pays for what is admitted now. -/
theorem spend (sound : Sound size rate now tokens admitted)
    (rate_nonneg : 0 ≤ rate) (enough : 1 ≤ tokens) :
    Sound size rate now (tokens - 1) (now :: admitted) where
  paid first before := by
    have paid := sound.paid first before
    rw [countSince_cons, if_pos before, Nat.cast_add, Nat.cast_one]
    linarith
  past moment member := by
    rcases List.mem_cons.mp member with rfl | earlier
    · exact le_refl _
    · exact sound.past moment earlier
  tokens_nonneg := sub_nonneg.mpr enough
  bounded first last ordered := by
    rw [countBetween_cons]
    by_cases inside : first ≤ now ∧ now ≤ last
    · have few : (countBetween first last admitted : Number) ≤
          countSince first admitted :=
        Nat.cast_le.mpr (countBetween_le_countSince first last admitted)
      have paid := sound.paid first inside.1
      have flows : (now - first) * rate ≤ (last - first) * rate :=
        mul_le_mul_of_nonneg_right (sub_le_sub_right inside.2 first)
          rate_nonneg
      rw [if_pos inside, Nat.cast_add, Nat.cast_one]
      linarith
    · rw [if_neg inside]
      exact sound.bounded first last ordered

end Sound

end TokenBucket
