/-
Module: Integr8s.Lib.Rounding
Purpose: Rounding to the nearest number that can be written with some digits of
  a base, ties to the even one: the doubles, and the decimals that C's %.14g
  writes.  A float is the rational that it stands for, or beyond the range of
  the doubles.
Trusted boundary: human-reviewed spec
Main exports: Rounding.nearest, Rounding.toDouble, Rounding.written, Rounded,
  Arithmetic, Arithmetic.exact, Arithmetic.doubles
-/
import Integr8s.Lib.PythonNumber
import Mathlib.Algebra.Order.Field.Power
import Mathlib.Data.Int.Log
import Mathlib.Tactic.FieldSimp
import Mathlib.Tactic.Linarith
import Mathlib.Tactic.NormNum
import Mathlib.Tactic.Positivity
import Mathlib.Tactic.Ring

namespace Rounding

/-- The nearest whole number, of two the even one. -/
def nearest (number : ℚ) : ℤ :=
  let whole := ⌊number⌋
  let twice := 2 * (number - whole)
  if 1 < twice ∨ twice = 1 ∧ whole % 2 = 1 then whole + 1 else whole

/-- The nearest multiple of a unit. -/
def toUnit (unit number : ℚ) : ℚ := nearest (number / unit) * unit

/-- The place of the last of some digits of a number: the exponent of the unit
in which a number with so many digits is a whole number. -/
def lastPlace (base digits : Nat) (number : ℚ) : ℤ :=
  Int.log base |number| - digits + 1

/-- The nearest double, as long as the number is in their range: 53 binary
digits, but none below the 1074th place after the point. -/
def toDouble (number : ℚ) : ℚ :=
  toUnit (2 ^ max (lastPlace 2 53 number) (-1074)) number

/-- A double that is written with `%.14g` and read again. -/
def written (number : ℚ) : ℚ :=
  toDouble (toUnit (10 ^ lastPlace 10 14 number) number)

/-- Ten times the double next to 0.7, which is a little less, is rounded to
seven. -/
example : toDouble (10 * toDouble (7 / 10)) = 7 := by decide +kernel

/-! ### The nearest whole number -/

section Nearest

@[simp] theorem nearest_intCast (number : ℤ) : nearest number = number := by
  simp [nearest]

private theorem nearest_bounds (number : ℚ) :
    ⌊number⌋ ≤ nearest number ∧ nearest number ≤ ⌊number⌋ + 1 := by
  unfold nearest
  dsimp only
  split <;> omega

/-- A whole number is rounded past by no number on its other side. -/
theorem le_nearest {bound : ℤ} {number : ℚ} (least : (bound : ℚ) ≤ number) :
    bound ≤ nearest number :=
  (Int.le_floor.mpr least).trans (nearest_bounds number).1

private theorem nearest_le {bound : ℤ} {number : ℚ} (most : number ≤ bound) :
    nearest number ≤ bound := by
  rcases most.lt_or_eq with less | rfl
  · exact (nearest_bounds number).2.trans (Int.floor_lt.mpr less)
  · rw [nearest_intCast]

end Nearest

/-! ### Doubles -/

section Doubles

variable {number : ℚ} {place mantissa : ℤ}

private theorem two_pow_pos (place : ℤ) : (0 : ℚ) < 2 ^ place :=
  zpow_pos (by norm_num) place

/-- A number with a whole number of units is a multiple of smaller units. -/
theorem toUnit_multiple {unit : ℤ} (fits : unit ≤ place) (mantissa : ℤ) :
    toUnit (2 ^ unit) (mantissa * 2 ^ place) = mantissa * 2 ^ place := by
  obtain ⟨shift, rfl⟩ : ∃ shift : ℕ, place = unit + shift :=
    ⟨(place - unit).toNat, by omega⟩
  have whole : (mantissa * 2 ^ (unit + shift : ℤ) / 2 ^ unit : ℚ) =
      ((mantissa * 2 ^ shift : ℤ) : ℚ) := by
    rw [zpow_add₀ (by norm_num), zpow_natCast]
    have nonzero := (two_pow_pos unit).ne'
    push_cast
    field_simp
  rw [toUnit, whole, nearest_intCast, ← whole]
  exact div_mul_cancel₀ _ (two_pow_pos unit).ne'

/-- A number of at most 53 binary digits is a double. -/
theorem toDouble_multiple (least : -1074 ≤ place)
    (short : |mantissa| < 2 ^ 53) :
    toDouble (mantissa * 2 ^ place) = mantissa * 2 ^ place := by
  by_cases zero : mantissa = 0
  · simp [toDouble, toUnit, nearest, zero]
  apply toUnit_multiple
  refine max_le ?_ least
  have positive : (0 : ℚ) < |(mantissa : ℚ) * 2 ^ place| :=
    abs_pos.mpr (mul_ne_zero (Int.cast_ne_zero.mpr zero)
      (two_pow_pos place).ne')
  have small : |(mantissa : ℚ) * 2 ^ place| <
      ((2 : ℕ) : ℚ) ^ (place + 53) := by
    rw [abs_mul, abs_of_pos (two_pow_pos place), ← Int.cast_abs, Nat.cast_ofNat,
      zpow_add₀ (by norm_num), mul_comm]
    apply mul_lt_mul_of_pos_left _ (two_pow_pos place)
    exact_mod_cast short
  have log := (Int.lt_zpow_iff_log_lt (by norm_num) positive).mp small
  unfold lastPlace
  omega

/-- A whole number below 2 ^ 53 is a double. -/
theorem toDouble_intCast {whole : ℤ} (short : |whole| < 2 ^ 53) :
    toDouble whole = whole := by
  have same : toDouble (whole * 2 ^ (0 : ℤ)) = whole * 2 ^ (0 : ℤ) :=
    toDouble_multiple (by norm_num) short
  simpa using same

/-- A double below 2 ^ 53 is a whole number of units no larger than one. -/
theorem multiple_of_double (double : toDouble number = number)
    (nonneg : 0 ≤ number) (small : number < 2 ^ 53) :
    ∃ (mantissa place : ℤ), -1074 ≤ place ∧ place ≤ 0 ∧
      0 ≤ mantissa ∧ mantissa < 2 ^ 53 ∧ number = mantissa * 2 ^ place := by
  rcases nonneg.eq_or_lt with rfl | positive
  · exact ⟨0, 0, by norm_num⟩
  have absolute : |number| = number := abs_of_pos positive
  have logSmall : Int.log 2 |number| < 53 := by
    rw [absolute]
    apply (Int.lt_zpow_iff_log_lt (by norm_num) positive).mp
    exact_mod_cast small
  have bounded : number < ((2 : ℕ) : ℚ) ^ (Int.log 2 |number| + 1) := by
    rw [absolute]
    exact Int.lt_zpow_succ_log_self (by norm_num) number
  let place := max (lastPlace 2 53 number) (-1074)
  have units : (nearest (number / 2 ^ place) : ℚ) = number / 2 ^ place :=
    eq_div_of_mul_eq (two_pow_pos place).ne' double
  refine ⟨nearest (number / 2 ^ place), place, le_max_right _ _, ?_, ?_, ?_,
    double.symm⟩
  · simp only [place, lastPlace]
    omega
  · rw [← Int.cast_nonneg_iff (R := ℚ), units]
    exact div_nonneg nonneg (two_pow_pos place).le
  · have short : (nearest (number / 2 ^ place) : ℚ) < 2 ^ 53 := by
      rw [units, div_lt_iff₀ (two_pow_pos place)]
      refine lt_of_lt_of_le bounded ?_
      have shape : (2 : ℚ) ^ 53 = 2 ^ (53 : ℤ) := by norm_num
      rw [shape, ← zpow_add₀ (by norm_num), Nat.cast_ofNat]
      apply zpow_le_zpow_right₀ (by norm_num)
      simp only [place, lastPlace]
      omega
    exact_mod_cast short

/-- A number as large as the least double is not rounded away. -/
theorem toDouble_neg (negative : number ≤ -(2 ^ (-1074 : ℤ))) :
    toDouble number < 0 := by
  have least := two_pow_pos (-1074)
  have absolute : |number| = -number := abs_of_neg (by linarith)
  have unitSmall : (2 : ℚ) ^ max (lastPlace 2 53 number) (-1074) ≤
      -number := by
    rcases max_choice (lastPlace 2 53 number) (-1074) with same | same
    · rw [same, ← absolute]
      refine le_trans ?_ (Int.zpow_log_le_self (b := 2) (by norm_num)
        (by rw [absolute]; linarith))
      rw [Nat.cast_ofNat]
      apply zpow_le_zpow_right₀ (by norm_num)
      unfold lastPlace
      omega
    · rw [same]
      linarith
  have whole : nearest
      (number / 2 ^ max (lastPlace 2 53 number) (-1074)) ≤ -1 := by
    apply nearest_le
    rw [div_le_iff₀ (two_pow_pos _)]
    push_cast
    linarith
  have below : ((nearest
      (number / 2 ^ max (lastPlace 2 53 number) (-1074)) : ℤ) : ℚ) ≤ -1 := by
    exact_mod_cast whole
  unfold toDouble toUnit
  have units := two_pow_pos (max (lastPlace 2 53 number) (-1074))
  nlinarith

theorem toDouble_nonneg (nonneg : 0 ≤ number) : 0 ≤ toDouble number := by
  have units := two_pow_pos (max (lastPlace 2 53 number) (-1074))
  have whole : 0 ≤
      nearest (number / 2 ^ max (lastPlace 2 53 number) (-1074)) :=
    le_nearest (by exact_mod_cast div_nonneg nonneg units.le)
  exact mul_nonneg (Int.cast_nonneg whole) units.le

/-- A number of at least a power of two is rounded to one. -/
theorem le_toDouble (least : -1074 ≤ place) (large : 2 ^ place ≤ number) :
    2 ^ place ≤ toDouble number := by
  have positive : 0 < number := (two_pow_pos place).trans_le large
  have absolute : |number| = number := abs_of_pos positive
  have logLarge : place ≤ Int.log 2 |number| := by
    rw [absolute]
    apply (Int.zpow_le_iff_le_log (by norm_num) positive).mp
    rwa [Nat.cast_ofNat]
  obtain ⟨shift, log⟩ : ∃ shift : ℕ,
      Int.log 2 |number| = max (lastPlace 2 53 number) (-1074) + shift := by
    unfold lastPlace
    exact ⟨(Int.log 2 |number| -
      max (Int.log 2 |number| - 53 + 1) (-1074)).toNat, by omega⟩
  have reached := Int.zpow_log_le_self (b := 2) (by norm_num) positive
  rw [Nat.cast_ofNat, ← absolute, log, absolute] at reached
  have grown := zpow_le_zpow_right₀ (a := (2 : ℚ)) (by norm_num) logLarge
  rw [log] at grown
  rw [toDouble, toUnit]
  generalize max (lastPlace 2 53 number) (-1074) = unit at reached grown ⊢
  -- the power of two below the number, in its units
  have power : (2 : ℚ) ^ (unit + shift : ℤ) =
      ((2 ^ shift : ℤ) : ℚ) * 2 ^ unit := by
    rw [zpow_add₀ (by norm_num), mul_comm]
    norm_num
  have units : (2 ^ shift : ℤ) ≤ nearest (number / 2 ^ unit) := by
    apply le_nearest
    rwa [le_div_iff₀ (two_pow_pos _), ← power]
  calc (2 : ℚ) ^ place
    _ ≤ 2 ^ (unit + shift : ℤ) := grown
    _ = ((2 ^ shift : ℤ) : ℚ) * 2 ^ unit := power
    _ ≤ nearest (number / 2 ^ unit) * 2 ^ unit :=
        mul_le_mul_of_nonneg_right (Int.cast_le.mpr units) (two_pow_pos _).le

end Doubles

end Rounding

/-! ### Results that may be out of range -/

/-- A float: a finite one, or an infinite one above or below all of them. -/
inductive Rounded where
  | finite (value : ℚ)
  | above
  | below
deriving DecidableEq, Repr

namespace Rounded

/-- Go on with a finite number; an infinite one stays so. -/
def andThen (number : Rounded) (next : ℚ → Rounded) : Rounded :=
  match number with
  | finite value => next value
  | above => above
  | below => below

/-- `min` of a number and a finite one. -/
def atMost (most : ℚ) : Rounded → Rounded
  | finite value => finite (min most value)
  | above => finite most
  | below => below

/-- The number among the finite ones, to which an infinite one compares as a
number beyond the range of the doubles does. -/
def clip : Rounded → ℚ
  | finite value => value
  | above => PyNumber.doubleBound
  | below => -PyNumber.doubleBound

end Rounded

/-! ### Arithmetics

A computation with floats is written over an arithmetic: how a result is
rounded, and what is left of a number that is written out and read back.  The
exact numbers are one, the doubles another. -/

/-- The floats that a program computes with: the one that a number is rounded
to, what becomes of one that is written with 14 digits and read again, and the
times that a clock can show.  Between a time that is shown and one so many whole
seconds before it no other time can be mistaken for being earlier. -/
structure Arithmetic where
  round : ℚ → Rounded
  written : ℚ → ℚ
  shows : ℚ → Bool
  exact_start : ∀ (now : ℚ) (seconds : ℤ) (float time : ℚ),
    shows now = true → 0 ≤ seconds → round seconds = .finite float →
      0 ≤ time →
        (time ≤ (round (now - float)).clip ↔ time ≤ now - seconds)

namespace Arithmetic

/-- Exact numbers. -/
def exact : Arithmetic where
  round := .finite
  written := id
  shows _ := true
  exact_start := by
    intro now seconds float time _ _ same _
    cases same
    rfl

/-- The double that a number is rounded to. -/
def roundDouble (number : ℚ) : Rounded :=
  if PyNumber.isDouble number then .finite (Rounding.toDouble number)
  else if 0 ≤ number then .above
  else .below

/-- Whether a clock can show a time: a double that is not negative and has
places after the point. -/
def showsDouble (time : ℚ) : Bool :=
  decide (0 ≤ time) && decide (time < 2 ^ 53) &&
    decide (Rounding.toDouble time = time)

section Start

open Rounding

variable {now time : ℚ} {seconds : ℤ}

private theorem isDouble_of_small {number : ℚ} (small : |number| < 2 ^ 53) :
    PyNumber.isDouble number = true := by
  have larger : (2 ^ 53 : Nat) < 2 ^ 1024 - 2 ^ 970 := by decide +kernel
  apply decide_eq_true
  calc |number|
    _ < 2 ^ 53 := small
    _ = ((2 ^ 53 : Nat) : ℚ) := by norm_num
    _ < PyNumber.doubleBound := Nat.cast_lt.mpr larger

/-- A whole number of seconds of the past is taken from a time exactly. -/
theorem round_start (shown : showsDouble now = true) (nonneg : 0 ≤ seconds)
    (early : (seconds : ℚ) ≤ now) :
    roundDouble (now - seconds) = .finite (now - seconds) := by
  simp only [showsDouble, Bool.and_eq_true, decide_eq_true_eq] at shown
  obtain ⟨⟨now_nonneg, small⟩, double⟩ := shown
  obtain ⟨mantissa, place, least, most, -, short, rfl⟩ :=
    multiple_of_double double now_nonneg small
  have inside : |(mantissa * 2 ^ place - seconds : ℚ)| < 2 ^ 53 := by
    have seconds_nonneg : (0 : ℚ) ≤ seconds := Int.cast_nonneg nonneg
    rw [abs_of_nonneg (sub_nonneg.mpr early)]
    linarith
  rw [roundDouble, if_pos (isDouble_of_small inside)]
  congr 1
  obtain ⟨shift, rfl⟩ : ∃ shift : ℕ, place = -shift :=
    ⟨(-place).toNat, by omega⟩
  have units : (mantissa * 2 ^ (-shift : ℤ) - seconds : ℚ) =
      ((mantissa - seconds * 2 ^ shift : ℤ) : ℚ) * 2 ^ (-shift : ℤ) := by
    push_cast
    rw [sub_mul, mul_assoc, ← zpow_natCast, ← zpow_add₀ (by norm_num)]
    simp
  rw [units]
  apply toDouble_multiple least
  have taken : 0 ≤ seconds * 2 ^ shift := by positivity
  have rest : 0 ≤ mantissa - seconds * 2 ^ shift := by
    have positive := two_pow_pos (-shift : ℤ)
    have left : (0 : ℚ) ≤
        ((mantissa - seconds * 2 ^ shift : ℤ) : ℚ) * 2 ^ (-shift : ℤ) := by
      rw [← units]
      linarith
    exact_mod_cast nonneg_of_mul_nonneg_left left positive
  rw [abs_of_nonneg rest]
  omega

/-- A whole number of seconds in the range of the clock is a double. -/
theorem round_seconds (nonneg : 0 ≤ seconds) (small : (seconds : ℚ) < 2 ^ 53) :
    roundDouble seconds = .finite seconds := by
  have short : |seconds| < 2 ^ 53 := by
    rw [abs_of_nonneg nonneg]
    exact_mod_cast small
  have inside : |(seconds : ℚ)| < 2 ^ 53 := by exact_mod_cast short
  rw [roundDouble, if_pos (isDouble_of_small inside), toDouble_intCast short]

/-- A time is before a later whole second by no less than the least double. -/
theorem below_later {whole : ℤ} (shown : showsDouble now = true)
    (later : now < whole) : now - whole ≤ -(2 ^ (-1074 : ℤ)) := by
  simp only [showsDouble, Bool.and_eq_true, decide_eq_true_eq] at shown
  obtain ⟨⟨now_nonneg, small⟩, double⟩ := shown
  obtain ⟨mantissa, place, least, most, -, -, rfl⟩ :=
    multiple_of_double double now_nonneg small
  obtain ⟨shift, rfl⟩ : ∃ shift : ℕ, place = -shift :=
    ⟨(-place).toNat, by omega⟩
  have positive := two_pow_pos (-shift : ℤ)
  have units : (whole - mantissa * 2 ^ (-shift : ℤ) : ℚ) =
      ((whole * 2 ^ shift - mantissa : ℤ) : ℚ) * 2 ^ (-shift : ℤ) := by
    push_cast
    rw [sub_mul, mul_assoc, ← zpow_natCast, ← zpow_add₀ (by norm_num)]
    simp
  have apart : 1 ≤ whole * 2 ^ shift - mantissa := by
    have left : (0 : ℚ) <
        ((whole * 2 ^ shift - mantissa : ℤ) : ℚ) * 2 ^ (-shift : ℤ) := by
      rw [← units]
      linarith
    have counted : (0 : ℚ) < ((whole * 2 ^ shift - mantissa : ℤ) : ℚ) :=
      (mul_pos_iff_of_pos_right positive).mp left
    exact_mod_cast counted
  have unit : (2 : ℚ) ^ (-shift : ℤ) ≤ whole - mantissa * 2 ^ (-shift : ℤ) := by
    rw [units]
    exact le_mul_of_one_le_left positive.le (by exact_mod_cast apart)
  have larger : (2 : ℚ) ^ (-1074 : ℤ) ≤ 2 ^ (-shift : ℤ) :=
    zpow_le_zpow_right₀ (by norm_num) least
  linarith

/-- More seconds than have passed lead before the beginning. -/
theorem clip_start_neg {float : ℚ} (shown : showsDouble now = true)
    (nonneg : 0 ≤ seconds) (late : now < seconds)
    (rounds : roundDouble seconds = .finite float) :
    (roundDouble (now - float)).clip < 0 := by
  have below : now - float ≤ -(2 ^ (-1074 : ℤ)) := by
    rcases lt_or_ge (seconds : ℚ) (2 ^ 53) with small | large
    · rw [round_seconds nonneg small] at rounds
      cases rounds
      exact below_later shown late
    · have early : now < ((2 ^ 53 : ℤ) : ℚ) := by
        simp only [showsDouble, Bool.and_eq_true, decide_eq_true_eq] at shown
        exact_mod_cast shown.1.2
      have least := below_later shown early
      unfold roundDouble at rounds
      split at rounds
      · cases rounds
        have rounded : (2 : ℚ) ^ (53 : ℤ) ≤ toDouble seconds :=
          le_toDouble (by norm_num) (by exact_mod_cast large)
        have same : (2 : ℚ) ^ (53 : ℤ) = 2 ^ 53 := by norm_num
        rw [Int.cast_pow, Int.cast_ofNat] at least
        linarith
      · split at rounds <;> cases rounds
  have negative : now - float < 0 := by
    have least := two_pow_pos (-1074)
    linarith
  unfold roundDouble
  split
  · exact toDouble_neg below
  · rw [if_neg (not_le.mpr negative), Rounded.clip, PyNumber.doubleBound]
    have positive : 0 < 2 ^ 1024 - 2 ^ 970 := by decide +kernel
    exact neg_lt_zero.mpr (Nat.cast_pos.mpr positive)

end Start

/-- The doubles, and a clock that shows the time in them. -/
def doubles : Arithmetic where
  round := roundDouble
  written := Rounding.written
  shows := showsDouble
  exact_start := by
    intro now seconds float time shown nonneg rounds time_nonneg
    rcases le_or_gt (seconds : ℚ) now with early | late
    · have small : (seconds : ℚ) < 2 ^ 53 := by
        simp only [showsDouble, Bool.and_eq_true, decide_eq_true_eq] at shown
        linarith
      rw [round_seconds nonneg small] at rounds
      cases rounds
      rw [round_start shown nonneg early]
      rfl
    · have before := clip_start_neg shown nonneg late rounds
      constructor
      · intro reached
        linarith
      · intro reached
        linarith

end Arithmetic
