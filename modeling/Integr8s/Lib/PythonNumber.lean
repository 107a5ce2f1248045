/-
Module: Integr8s.Lib.PythonNumber
Purpose: The sizes of Python's numbers: the floats that are too large for a
  double, the ints that no double is large enough for, and int() of a float.
  Within the range of the doubles a float is the rational that it stands for;
  Lib.Rounding has its arithmetic.
Trusted boundary: human-reviewed spec
Main exports: PyNumber, PyNumber.doubleBound, PyNumber.isDouble,
  PyNumber.AtLeast, PyNumber.Positive, PyNumber.isClose, PyNumber.trunc,
  PyNumber.le_trunc_of_pos, PyNumber.trunc_le_of_pos
-/
import Mathlib.Data.Rat.Floor
import Mathlib.Tactic.Linarith

/-- A float that is not NaN and not negative infinity. -/
inductive PyNumber where
  | finite (value : ℚ)
  | infinity
deriving DecidableEq, Repr

namespace PyNumber

def isFinite : PyNumber → Bool
  | finite _ => true
  | infinity => false

/-- A number is at least a bound. -/
def AtLeast (bound : ℚ) : PyNumber → Prop
  | finite value => bound ≤ value
  | infinity => True

def Positive : PyNumber → Prop
  | finite value => 0 < value
  | infinity => True

/-- The least number that rounds to infinity, half a step above the largest
double. -/
def doubleBound : ℚ := ((2 ^ 1024 - 2 ^ 970 : Nat) : ℚ)

/-- Whether a number is in the range of the doubles: `float()` of an int that
isn't raises `OverflowError`, and a float that isn't is infinite. -/
def isDouble (number : ℚ) : Bool := decide (|number| < doubleBound)

/-- `math.isclose`: two numbers are as close as a part of the larger size, or
as an absolute tolerance, allows.  Infinity is close to no number. -/
def isClose (number : PyNumber) (other : ℚ) (relTol : ℚ := 1 / 10 ^ 9)
    (absTol : ℚ := 0) : Bool :=
  match number with
  | finite value =>
      decide (|value - other| ≤ max (relTol * max |value| |other|) absTol)
  | infinity => false

/-- An absolute tolerance below the relative one of a number adds nothing. -/
theorem isClose_absTol (number : PyNumber) {other relTol absTol : ℚ}
    (relative : 0 ≤ relTol) (below : absTol ≤ relTol * |other|)
    (absolute : 0 ≤ absTol) :
    number.isClose other relTol absTol = number.isClose other relTol := by
  cases number with
  | infinity => rfl
  | finite value =>
      have larger : relTol * |other| ≤ relTol * max |value| |other| :=
        mul_le_mul_of_nonneg_left (le_max_right _ _) relative
      have covered := below.trans larger
      rw [isClose, isClose, max_eq_left covered,
        max_eq_left (absolute.trans covered)]

/-- `int(number)` of a float: toward zero. -/
def trunc (number : ℚ) : ℤ :=
  if 0 ≤ number then ⌊number⌋ else ⌈number⌉

section Truncation

variable {number : ℚ}

theorem trunc_of_nonneg (nonneg : 0 ≤ number) : trunc number = ⌊number⌋ :=
  if_pos nonneg

theorem trunc_nonneg (nonneg : 0 ≤ number) : 0 ≤ trunc number := by
  rw [trunc_of_nonneg nonneg]
  exact Int.floor_nonneg.mpr nonneg

/-- What is truncated is more than the number minus one. -/
theorem lt_trunc_add_one (number : ℚ) : number < trunc number + 1 := by
  unfold trunc
  split
  · exact Int.lt_floor_add_one number
  · exact lt_of_le_of_lt (Int.le_ceil number) (lt_add_one _)

theorem le_trunc_iff (nonneg : 0 ≤ number) {bound : ℤ} :
    bound ≤ trunc number ↔ (bound : ℚ) ≤ number := by
  rw [trunc_of_nonneg nonneg, Int.le_floor]

/-- What is less than one away from zero is truncated to zero, so a positive
bound is reached by a number just when its truncation reaches it. -/
theorem le_trunc_of_pos {bound : ℤ} (positive : 0 < bound) :
    bound ≤ trunc number ↔ (bound : ℚ) ≤ number := by
  by_cases nonneg : 0 ≤ number
  · exact le_trunc_iff nonneg
  · have negative : number ≤ 0 := (not_le.mp nonneg).le
    have below : ⌈number⌉ ≤ 0 := Int.ceil_le.mpr (by simpa using negative)
    have above : (0 : ℚ) < bound := Int.cast_pos.mpr positive
    rw [trunc, if_neg nonneg]
    constructor
    · intro reached
      omega
    · intro reached
      exact absurd (above.le.trans reached) nonneg

theorem trunc_le_of_pos {bound : ℤ} (positive : 0 < bound) :
    trunc number ≤ -bound ↔ number ≤ -(bound : ℚ) := by
  have above : (0 : ℚ) < bound := Int.cast_pos.mpr positive
  by_cases nonneg : 0 ≤ number
  · have floor := trunc_nonneg nonneg
    constructor
    · intro reached
      omega
    · intro reached
      linarith
  · rw [trunc, if_neg nonneg, Int.ceil_le, Int.cast_neg]

end Truncation

end PyNumber
