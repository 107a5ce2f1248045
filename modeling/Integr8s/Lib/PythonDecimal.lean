/-
Module: Integr8s.Lib.PythonDecimal
Purpose: The numbers of Python's decimal module that are not negative, and how
  a context rounds a product.
Trusted boundary: human-reviewed spec
Main exports: PyDecimal, PyDecimal.Context, PyDecimal.ofText, PyDecimal.fix,
  PyDecimal.mul, PyDecimal.value, PyDecimal.fix_eq_none_iff, PyDecimal.le_value_fix
-/
import Integr8s.Lib.PythonText
import Mathlib.Algebra.Order.Field.Power
import Mathlib.Data.Nat.Log
import Mathlib.Data.Rat.Cast.Order
import Mathlib.Tactic.Linarith
import Mathlib.Tactic.Ring

/-- A finite decimal that is not negative. -/
structure PyDecimal where
  coefficient : Nat
  exponent : Int
deriving DecidableEq, Repr

namespace PyDecimal

/-- The number that a decimal stands for. -/
def value (number : PyDecimal) : ℚ :=
  number.coefficient * 10 ^ number.exponent

/-- `decimal.Context`, as far as it decides a product. -/
structure Context where
  prec : Nat
  emin : Int
  emax : Int
  positive : 0 < prec
  ordered : emin ≤ emax

namespace Context

variable (context : Context)

/-- The least exponent of a subnormal number. -/
def etiny : Int := context.emin - context.prec + 1

/-- The largest exponent of a number with all its digits. -/
def etop : Int := context.emax - context.prec + 1

/-- The least number that does not round to a finite one. -/
def overflowBound : ℚ := (10 ^ context.prec - 1 / 2) * 10 ^ context.etop

end Context

/-- `decimal.DefaultContext`, which traps overflow. -/
def defaultContext : Context where
  prec := 28
  emin := -999999
  emax := 999999
  positive := by decide
  ordered := by decide

/-- `Decimal(text)` of digits with at most one point among them; no context
rounds it. -/
def ofText (text : List Char) : PyDecimal :=
  let (whole, _, fraction) := PyText.partition '.' text
  ⟨PyText.ofDigits ((whole ++ fraction).filterMap PyText.decimalDigit?),
    -fraction.length⟩

/-- The number of digits of a coefficient. -/
def digits (coefficient : Nat) : Nat :=
  Nat.log 10 coefficient + 1

/-- How many units a number is, to the nearest, a tie to the even. -/
def roundHalfEven (number unit : Nat) : Nat :=
  let whole := number / unit
  let twice := 2 * (number % unit)
  if unit < twice ∨ unit = twice ∧ whole % 2 = 1 then whole + 1 else whole

/-- A number rounded to an exponent; a carry into one more digit moves the
exponent. -/
def rescale (context : Context) (number : PyDecimal) (exponent : Int) :
    PyDecimal :=
  let coefficient := roundHalfEven number.coefficient
    (10 ^ (exponent - number.exponent).toNat)
  if context.prec < digits coefficient then
    ⟨coefficient / 10, exponent + 1⟩
  else ⟨coefficient, exponent⟩

/-- A number in a context; none when it overflows. -/
def fix (context : Context) (number : PyDecimal) : Option PyDecimal :=
  if number.coefficient = 0 then
    some ⟨0, min (max number.exponent context.etiny) context.emax⟩
  else
    let least := digits number.coefficient + number.exponent - context.prec
    if context.etop < least then none
    else
      let least := max least context.etiny
      if number.exponent < least then
        let rounded := rescale context number least
        if context.etop < rounded.exponent then none else some rounded
      else some number

/-- The product of two numbers in a context; none when it overflows. -/
def mul (context : Context) (first second : PyDecimal) : Option PyDecimal :=
  fix context ⟨first.coefficient * second.coefficient,
    first.exponent + second.exponent⟩

/-- `first >= second`, exactly. -/
def isAtLeast (first second : PyDecimal) : Bool :=
  let low := min first.exponent second.exponent
  decide (second.coefficient * 10 ^ (second.exponent - low).toNat ≤
    first.coefficient * 10 ^ (first.exponent - low).toNat)

private theorem pow_ten_pos (exponent : Int) : (0 : ℚ) < 10 ^ exponent :=
  zpow_pos (by norm_num) exponent

theorem value_pos {number : PyDecimal} :
    0 < number.value ↔ 0 < number.coefficient := by
  rw [value, mul_pos_iff_of_pos_right (pow_ten_pos _), Nat.cast_pos]

/-- The exact product of two numbers. -/
theorem value_mul (first second : PyDecimal) :
    value ⟨first.coefficient * second.coefficient,
      first.exponent + second.exponent⟩ = first.value * second.value := by
  simp only [value]
  rw [zpow_add₀ (by norm_num), Nat.cast_mul]
  ring

/-- The coefficient at a lower exponent. -/
theorem value_lower (number : PyDecimal) {low : Int}
    (below : low ≤ number.exponent) :
    number.value =
      (number.coefficient * 10 ^ (number.exponent - low).toNat : Nat) *
        10 ^ low := by
  have split : number.exponent = (number.exponent - low).toNat + low := by
    omega
  rw [value, Nat.cast_mul, Nat.cast_pow, mul_assoc]
  congr 1
  conv_lhs => rw [split]
  rw [zpow_add₀ (by norm_num), zpow_natCast]
  rfl

theorem isAtLeast_iff (first second : PyDecimal) :
    first.isAtLeast second = true ↔ second.value ≤ first.value := by
  rw [isAtLeast, decide_eq_true_iff,
    first.value_lower (min_le_left first.exponent second.exponent),
    second.value_lower (min_le_right first.exponent second.exponent),
    mul_le_mul_iff_left₀ (pow_ten_pos _), Nat.cast_le]

/-! ### Rounding to the precision -/

section Rounding

variable {number unit : Nat}

private theorem pow_digits_le (some : number ≠ 0) :
    10 ^ (digits number - 1) ≤ number :=
  Nat.pow_log_le_self 10 some

private theorem lt_pow_digits (number : Nat) : number < 10 ^ digits number :=
  Nat.lt_pow_succ_log_self (by decide) number

private theorem digits_le_iff {count : Nat} (some : 0 < count) :
    digits number ≤ count ↔ number < 10 ^ count := by
  rw [digits, Nat.add_one_le_iff]
  cases number with
  | zero => simp [some]
  | succ less => exact Nat.log_lt_iff_lt_pow (by decide) less.succ_ne_zero

/-- The rounded number of units is the whole one or the next. -/
theorem roundHalfEven_bounds (number unit : Nat) :
    number / unit ≤ roundHalfEven number unit ∧
      roundHalfEven number unit ≤ number / unit + 1 := by
  unfold roundHalfEven
  dsimp only
  split <;> omega

/-- When the units are rounded up to an even number. -/
theorem roundHalfEven_reaches {even : Nat} (isEven : even % 2 = 0)
    (some : 0 < even) (positive : 0 < unit) :
    even ≤ roundHalfEven number unit ↔ (2 * even - 1) * unit ≤ 2 * number := by
  have parts := Nat.div_add_mod number unit
  have part := Nat.mod_lt number positive
  obtain ⟨atLeast, atMost⟩ := roundHalfEven_bounds number unit
  rcases Nat.lt_trichotomy even (number / unit + 1) with below | same | above
  · -- The whole units are enough
    have reaches : (2 * even - 1) * unit ≤ 2 * (number / unit) * unit :=
      Nat.mul_le_mul_right unit (by omega)
    have whole : 2 * (number / unit) * unit = 2 * (unit * (number / unit)) := by
      ring
    exact iff_of_true (by omega) (by omega)
  · -- The rest decides, and a tie goes up
    have half : (2 * even - 1) * unit = 2 * (unit * (number / unit)) + unit := by
      rw [same, show 2 * (number / unit + 1) - 1 = 2 * (number / unit) + 1 by
        omega]
      ring
    rw [half, same]
    have odd : number / unit % 2 = 1 := by omega
    unfold roundHalfEven
    dsimp only
    split
    · next up =>
        refine iff_of_true (Nat.le_refl _) ?_
        omega
    · next down =>
        refine iff_of_false (by omega) ?_
        omega
  · -- One more unit is not enough
    have misses : 2 * (number / unit) * unit + 3 * unit ≤
        (2 * even - 1) * unit := by
      rw [← Nat.add_mul]
      exact Nat.mul_le_mul_right unit (by omega)
    have whole : 2 * (number / unit) * unit = 2 * (unit * (number / unit)) := by
      ring
    exact iff_of_false (by omega) (by omega)

end Rounding

/-! ### When a number overflows -/

section Fixing

variable {context : Context} {number fixed : PyDecimal}

/-- The exact value lies between two powers of ten. -/
theorem value_bounds (some : number.coefficient ≠ 0) :
    (10 : ℚ) ^ (digits number.coefficient + number.exponent - 1) ≤
        number.value ∧
      number.value + 10 ^ number.exponent ≤
        10 ^ (digits number.coefficient + number.exponent) := by
  have lower : (10 : ℚ) ^ (digits number.coefficient - 1) ≤
      number.coefficient := by
    exact_mod_cast pow_digits_le some
  have upper : (number.coefficient : ℚ) + 1 ≤
      10 ^ digits number.coefficient := by
    exact_mod_cast lt_pow_digits number.coefficient
  have positive := pow_ten_pos number.exponent
  constructor
  · have split : (digits number.coefficient + number.exponent - 1 : ℤ) =
        ((digits number.coefficient - 1 : ℕ) : ℤ) + number.exponent := by
      have : 1 ≤ digits number.coefficient := Nat.le_add_left ..
      omega
    rw [split, zpow_add₀ (by norm_num), zpow_natCast]
    exact mul_le_mul_of_nonneg_right lower positive.le
  · rw [zpow_add₀ (by norm_num), zpow_natCast, value]
    calc (number.coefficient : ℚ) * 10 ^ number.exponent + 10 ^ number.exponent
        = (number.coefficient + 1) * 10 ^ number.exponent := by ring
      _ ≤ 10 ^ digits number.coefficient * 10 ^ number.exponent :=
        mul_le_mul_of_nonneg_right upper positive.le

theorem zpow_le_of_le {low high : Int} (ordered : low ≤ high) :
    (10 : ℚ) ^ low ≤ 10 ^ high :=
  zpow_le_zpow_right₀ (by norm_num) ordered

/-- The bound lies above the numbers with one digit less. -/
theorem below_overflowBound {exponent : Int}
    (below : exponent < context.prec + context.etop) :
    (10 : ℚ) ^ exponent < context.overflowBound := by
  have split : (context.prec + context.etop - 1 : ℤ) =
      ((context.prec - 1 : ℕ) : ℤ) + context.etop := by
    have := context.positive
    omega
  have shorter : (10 : ℚ) ^ context.prec = 10 * 10 ^ (context.prec - 1) := by
    rw [← pow_succ', Nat.sub_add_cancel context.positive]
  have one : (1 : ℚ) ≤ 10 ^ (context.prec - 1) := one_le_pow₀ (by norm_num)
  calc (10 : ℚ) ^ exponent ≤ 10 ^ (context.prec + context.etop - 1) :=
        zpow_le_of_le (by omega)
    _ = 10 ^ (context.prec - 1) * 10 ^ context.etop := by
        rw [split, zpow_add₀ (by norm_num), zpow_natCast]
    _ < context.overflowBound := by
        apply mul_lt_mul_of_pos_right _ (pow_ten_pos _)
        rw [shorter]
        linarith

private theorem overflowBound_lt :
    context.overflowBound < 10 ^ (context.prec + context.etop) := by
  rw [Context.overflowBound, zpow_add₀ (by norm_num), zpow_natCast]
  exact mul_lt_mul_of_pos_right (by linarith) (pow_ten_pos _)

theorem overflowBound_pos (context : Context) : 0 < context.overflowBound :=
  (pow_ten_pos (context.prec + context.etop - 1)).trans
    (below_overflowBound (by omega))

/-- A number that has no more digits than the context keeps stays as it is. -/
theorem fix_of_short (some : number.coefficient ≠ 0)
    (short : digits number.coefficient ≤ context.prec)
    (normal : context.etiny ≤ number.exponent) :
    fix context number =
      if context.etop <
          digits number.coefficient + number.exponent - context.prec then none
      else .some number := by
  unfold fix
  rw [if_neg some]
  dsimp only
  split
  · rfl
  · rw [if_neg]
    omega

/-- A number with more digits is rounded. -/
theorem fix_of_long (some : number.coefficient ≠ 0)
    (long : context.prec < digits number.coefficient)
    (normal : context.etiny ≤ number.exponent) :
    fix context number =
      let rounded := rescale context number
        (digits number.coefficient + number.exponent - context.prec)
      if context.etop < rounded.exponent then none else .some rounded := by
  have carry : ∀ exponent,
      exponent ≤ (rescale context number exponent).exponent := by
    intro exponent
    unfold rescale
    dsimp only
    split
    · exact Int.le_add_one (Int.le_refl exponent)
    · exact Int.le_refl exponent
  unfold fix
  rw [if_neg some]
  dsimp only
  split
  · next above => rw [if_pos (above.trans_le (carry _))]
  · rw [max_eq_left (by omega), if_pos (by omega)]

/-- The exponent to which a number with more digits is rounded. -/
def roundedExponent (context : Context) (number : PyDecimal) : Int :=
  digits number.coefficient + number.exponent - context.prec

/-- The units of a number with more digits, rounded. -/
def roundedUnits (context : Context) (number : PyDecimal) : Nat :=
  roundHalfEven number.coefficient
    (10 ^ (digits number.coefficient - context.prec))

/-- Rounding keeps all the digits that the context has room for, or carries
into one more. -/
theorem roundedUnits_bounds (long : context.prec < digits number.coefficient) :
    10 ^ (context.prec - 1) ≤ roundedUnits context number ∧
      roundedUnits context number ≤ 10 ^ context.prec := by
  have some : number.coefficient ≠ 0 := by
    intro zero
    have positive := context.positive
    simp only [zero, digits, Nat.log_zero_right] at long
    omega
  obtain ⟨atLeast, atMost⟩ := roundHalfEven_bounds number.coefficient
    (10 ^ (digits number.coefficient - context.prec))
  have positive : 0 < 10 ^ (digits number.coefficient - context.prec) :=
    Nat.pow_pos (by decide)
  have lower : 10 ^ (context.prec - 1) ≤
      number.coefficient / 10 ^ (digits number.coefficient - context.prec) := by
    rw [Nat.le_div_iff_mul_le positive, ← Nat.pow_add]
    refine (Nat.pow_le_pow_right (by decide) ?_).trans (pow_digits_le some)
    have := context.positive
    omega
  have upper :
      number.coefficient / 10 ^ (digits number.coefficient - context.prec) <
        10 ^ context.prec := by
    rw [Nat.div_lt_iff_lt_mul positive, ← Nat.pow_add,
      Nat.add_sub_cancel' long.le]
    exact lt_pow_digits _
  exact ⟨lower.trans atLeast, atMost.trans upper⟩

/-- When rounding carries into one more digit. -/
theorem carries_iff :
    context.prec < digits (roundedUnits context number) ↔
      (2 * 10 ^ context.prec - 1) *
          10 ^ (digits number.coefficient - context.prec) ≤
        2 * number.coefficient := by
  have even : 10 ^ context.prec % 2 = 0 := by
    obtain ⟨less, same⟩ := Nat.exists_eq_add_of_lt context.positive
    rw [same, Nat.pow_succ]
    omega
  rw [← roundHalfEven_reaches even (Nat.pow_pos (by decide))
    (Nat.pow_pos (by decide)), ← not_le, digits_le_iff context.positive, not_lt]
  rfl

private theorem rescale_eq (long : context.prec < digits number.coefficient) :
    rescale context number (roundedExponent context number) =
      if context.prec < digits (roundedUnits context number) then
        ⟨roundedUnits context number / 10, roundedExponent context number + 1⟩
      else ⟨roundedUnits context number, roundedExponent context number⟩ := by
  have shift : (roundedExponent context number - number.exponent).toNat =
      digits number.coefficient - context.prec := by
    unfold roundedExponent
    omega
  rw [rescale, shift]
  rfl

/-- A rounded number has all the digits that the context keeps. -/
theorem le_value_rescale (long : context.prec < digits number.coefficient) :
    (10 : ℚ) ^ (context.prec + roundedExponent context number - 1) ≤
      (rescale context number (roundedExponent context number)).value := by
  obtain ⟨atLeast, atMost⟩ := roundedUnits_bounds long
  have split : ∀ exponent : Int,
      (10 : ℚ) ^ (context.prec + exponent - 1) =
        ((10 ^ (context.prec - 1) : Nat) : ℚ) * 10 ^ exponent := by
    intro exponent
    have exponents : (context.prec + exponent - 1 : ℤ) =
        ((context.prec - 1 : ℕ) : ℤ) + exponent := by
      have := context.positive
      omega
    rw [exponents, zpow_add₀ (by norm_num), zpow_natCast, Nat.cast_pow]
    rfl
  rw [rescale_eq long]
  split
  · next carries =>
      have full : 10 ^ context.prec ≤ roundedUnits context number := by
        by_contra less
        exact absurd ((digits_le_iff context.positive).mpr (not_le.mp less))
          (not_le.mpr carries)
      have tenth : 10 ^ (context.prec - 1) ≤
          roundedUnits context number / 10 := by
        rw [Nat.le_div_iff_mul_le (by decide), ← Nat.pow_succ, Nat.succ_eq_add_one,
          Nat.sub_one_add_one context.positive.ne']
        exact full
      refine (zpow_le_of_le (show _ ≤ context.prec +
        (roundedExponent context number + 1) - 1 by omega)).trans ?_
      rw [split]
      exact mul_le_mul_of_nonneg_right (Nat.cast_le.mpr tenth)
        (pow_ten_pos _).le
  · rw [split]
    exact mul_le_mul_of_nonneg_right (Nat.cast_le.mpr atLeast)
      (pow_ten_pos _).le

/-- The exponent of a rounded number is out of range exactly when the number
reaches the bound. -/
theorem etop_lt_rescale (some : number.coefficient ≠ 0)
    (long : context.prec < digits number.coefficient) :
    context.etop <
        (rescale context number (roundedExponent context number)).exponent ↔
      context.overflowBound ≤ number.value := by
  obtain ⟨lower, upper⟩ := value_bounds some
  have unit := pow_ten_pos number.exponent
  have least : digits number.coefficient + number.exponent =
      context.prec + roundedExponent context number := by
    unfold roundedExponent
    omega
  rw [least] at lower upper
  rw [rescale_eq long]
  rcases lt_trichotomy context.etop (roundedExponent context number) with
    above | same | below
  · refine iff_of_true ?_ ?_
    · split
      · exact Int.lt_add_one_of_le above.le
      · exact above
    · exact (overflowBound_lt.le.trans (zpow_le_of_le (by omega))).trans lower
  · -- The largest exponent: only a carry is too much
    have scaled : context.overflowBound = ((2 * 10 ^ context.prec - 1) *
        10 ^ (digits number.coefficient - context.prec)) *
          10 ^ number.exponent / 2 := by
      have exponents : context.etop =
          ((digits number.coefficient - context.prec : ℕ) : ℤ) +
            number.exponent := by
        omega
      rw [Context.overflowBound, exponents, zpow_add₀ (by norm_num),
        zpow_natCast]
      ring
    have carried : context.prec < digits (roundedUnits context number) ↔
        context.overflowBound ≤ number.value := by
      have odd : ((2 * 10 ^ context.prec - 1 : ℕ) : ℚ) =
          2 * 10 ^ context.prec - 1 := by
        have positive : 0 < 10 ^ context.prec := Nat.pow_pos (by decide)
        rw [Nat.cast_sub (by omega)]
        push_cast
        rfl
      have twice : (number.coefficient : ℚ) * 10 ^ number.exponent * 2 =
          ((2 * number.coefficient : ℕ) : ℚ) * 10 ^ number.exponent := by
        push_cast
        ring
      rw [carries_iff, scaled, value, div_le_iff₀ (by norm_num), twice,
        mul_le_mul_iff_left₀ unit, ← odd, ← @Nat.cast_le ℚ]
      push_cast
      rfl
    rw [← carried]
    split
    · next carries => exact iff_of_true (by dsimp only; omega) carries
    · next stays => exact iff_of_false (by dsimp only; omega) stays
  · refine iff_of_false ?_ ?_
    · split
      · dsimp only
        omega
      · dsimp only
        omega
    · have small := @below_overflowBound context
        (context.prec + roundedExponent context number) (by omega)
      linarith

/-- A number that does not underflow overflows exactly when it reaches the
bound. -/
theorem fix_eq_none_iff (normal : context.etiny ≤ number.exponent) :
    fix context number = none ↔ context.overflowBound ≤ number.value := by
  by_cases some : number.coefficient = 0
  · have zero : number.value = 0 := by simp [value, some]
    have positive := overflowBound_pos context
    rw [fix, if_pos some, zero]
    exact iff_of_false nofun (not_le.mpr positive)
  · obtain ⟨lower, upper⟩ := value_bounds some
    have unit := pow_ten_pos number.exponent
    rcases Nat.lt_or_ge context.prec (digits number.coefficient) with
      long | short
    · rw [fix_of_long some long normal, ← etop_lt_rescale some long]
      show (if _ then _ else _) = none ↔ _
      split
      · next above => exact iff_of_true rfl above
      · next within => exact iff_of_false nofun within
    · rw [fix_of_short some short normal]
      split
      · next above =>
          refine iff_of_true rfl (overflowBound_lt.le.trans ?_)
          exact (zpow_le_of_le (by omega)).trans lower
      · next within =>
          refine iff_of_false nofun (not_le.mpr ?_)
          rcases lt_or_ge number.exponent context.etop with low | high
          · have small := @below_overflowBound context
              (digits number.coefficient + number.exponent) (by omega)
            linarith
          · -- At least one unit is missing to the next power of ten
            have top := zpow_le_of_le high
            have whole : (10 : ℚ) ^ (digits number.coefficient +
                number.exponent) ≤ 10 ^ (context.prec + context.etop) :=
              zpow_le_of_le (by omega)
            have half := pow_ten_pos context.etop
            rw [Context.overflowBound, sub_mul, ← zpow_natCast,
              ← zpow_add₀ (by norm_num)]
            linarith

/-- Rounding does not change how a number compares with one that has fewer
digits than the context keeps. -/
theorem le_value_fix {bound : ℚ} (normal : context.etiny ≤ number.exponent)
    (small : bound ≤ 10 ^ (context.prec + number.exponent))
    (answer : fix context number = some fixed) :
    bound ≤ fixed.value ↔ bound ≤ number.value := by
  by_cases some : number.coefficient = 0
  · have zero : number.value = 0 := by simp [value, some]
    rw [fix, if_pos some] at answer
    cases answer
    rw [zero]
    simp [value]
  · rcases Nat.lt_or_ge context.prec (digits number.coefficient) with
      long | short
    · rw [fix_of_long some long normal] at answer
      have least : digits number.coefficient + number.exponent - context.prec =
          roundedExponent context number :=
        rfl
      simp only [least] at answer
      split at answer
      · cases answer
      · cases answer
        have exponents : (context.prec : ℤ) + number.exponent ≤
            context.prec + roundedExponent context number - 1 := by
          omega
        have lower := (value_bounds some).1
        refine iff_of_true ?_ ?_
        · exact small.trans ((zpow_le_of_le exponents).trans
            (le_value_rescale long))
        · refine small.trans ((zpow_le_of_le ?_).trans lower)
          omega
    · rw [fix_of_short some short normal] at answer
      split at answer
      · cases answer
      · cases answer
        rfl

/-- A positive number stays positive. -/
theorem value_fix_pos (normal : context.etiny ≤ number.exponent)
    (positive : 0 < number.value) (answer : fix context number = some fixed) :
    0 < fixed.value := by
  have bound : min number.value (10 ^ (context.prec + number.exponent)) ≤
      fixed.value :=
    (le_value_fix normal (min_le_right ..) answer).mpr (min_le_left ..)
  exact (lt_min positive (pow_ten_pos _)).trans_le bound

end Fixing

end PyDecimal
