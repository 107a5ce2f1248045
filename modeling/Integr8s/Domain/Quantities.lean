/-
Module: Integr8s.Domain.Quantities
Purpose: The Kubernetes resource quantities as the runtime registry reads and
  compares them.
Trusted boundary: human-reviewed spec
Main exports: quantityPattern, quantityScale, parseQuantity, atLeast,
  parseQuantity_eq
-/
import Integr8s.Domain.Exceptions
import Integr8s.Lib.PythonDecimal
import Integr8s.Lib.Regex

namespace Integr8s

open Regex

/-- `\d` in a pattern for texts. -/
def isDecimal (c : Char) : Bool :=
  (PyText.decimalDigit? c).isSome

/-- `[chars]`. -/
def anyOf (chars : String) : Regex Char :=
  one fun c => chars.toList.contains c

/-- `\d+(?:\.\d+)?`. -/
def numberPattern : Regex Char :=
  seq (plus (one isDecimal))
    (opt (seq (literal ['.']) (plus (one isDecimal))))

/-- `[KMGT]i|[mkMGT]`. -/
def unitPattern : Regex Char :=
  alt (seq (anyOf "KMGT") (literal ['i'])) (anyOf "mkMGT")

/-- `_QUANTITY`. -/
def quantityPattern : Regex Char :=
  seq (group 1 numberPattern) (opt (group 2 unitPattern))

/-- `_QUANTITY_SCALE`. -/
def quantityScale : List (Option (List Char) × PyDecimal) :=
  [(none, ⟨1, 0⟩), (some ['m'], ⟨1, -3⟩), (some ['k'], ⟨10 ^ 3, 0⟩),
    (some ['M'], ⟨10 ^ 6, 0⟩), (some ['G'], ⟨10 ^ 9, 0⟩),
    (some ['T'], ⟨10 ^ 12, 0⟩), (some ['K', 'i'], ⟨2 ^ 10, 0⟩),
    (some ['M', 'i'], ⟨2 ^ 20, 0⟩), (some ['G', 'i'], ⟨2 ^ 30, 0⟩),
    (some ['T', 'i'], ⟨2 ^ 40, 0⟩)]

/-- Parse a Kubernetes resource quantity such as `500m` or `320Mi` into base
units. -/
def parseQuantity (value : String) : Except PyException PyDecimal :=
  match fullmatch quantityPattern value.toList with
  | none => .error .valueError
  | some found =>
      match quantityScale.lookup (found.captured 2) with
      | none => .error (.otherError "KeyError")
      | some scale =>
          match PyDecimal.mul PyDecimal.defaultContext
              (PyDecimal.ofText ((found.captured 1).getD [])) scale with
          | none => .error .decimalOverflow
          | some quantity => .ok quantity

/-- Return the larger of a configured quantity and a minimum. -/
def atLeast (configured minimum : String) : Except PyException String := do
  let quantity ← parseQuantity configured
  let least ← parseQuantity minimum
  pure (if quantity.isAtLeast least then configured else minimum)

/-! ### What parses, and as what -/

section Parsing

/-- The characters of a quantity's number. -/
def isNumberChar (c : Char) : Bool :=
  isDecimal c || c == '.'

private theorem number_of_mem {start stop : Cursor Char}
    (member : stop ∈ run numberPattern start) :
    ∃ number, start.after = number ++ stop.after ∧
      (∀ c ∈ number, isNumberChar c = true) ∧ stop.groups = start.groups := by
  simp only [numberPattern, opt, mem_run_seq, mem_run_alt, mem_run_plusOne,
    mem_run_literal, mem_run_empty] at member
  obtain ⟨_, ⟨whole, rest, starts, -, digits, rfl⟩, fraction | rfl⟩ := member
  · obtain ⟨_, ⟨_, points, rfl⟩, part, last, follows, -, more, rfl⟩ := fraction
    simp only [Cursor.past_after] at points follows
    refine ⟨whole ++ '.' :: part, by simp [starts, points, follows], ?_, rfl⟩
    intro c member
    simp only [List.mem_append, List.mem_cons] at member
    rcases member with inWhole | rfl | inPart
    · simp [isNumberChar, digits c inWhole]
    · simp [isNumberChar]
    · simp [isNumberChar, more c inPart]
  · exact ⟨whole, starts, fun c member => by
      simp [isNumberChar, digits c member], rfl⟩

/-- No letter of a unit can stand in a number, and none ends a line. -/
theorem unit_letters :
    ∀ c ∈ "mkKMGTi".toList, isNumberChar c = false ∧ c ≠ '\n' :=
  List.all_iff_forall_prop.mp (by decide +kernel)

/-- A text is a unit. -/
def IsUnit (unit : List Char) : Prop :=
  (∃ c ∈ "KMGT".toList, unit = [c, 'i']) ∨ ∃ c ∈ "mkMGT".toList, unit = [c]

theorem IsUnit.letters {unit : List Char} (isUnit : IsUnit unit) :
    unit ≠ [] ∧ ∀ c ∈ unit, isNumberChar c = false ∧ c ≠ '\n' := by
  have binary : ∀ c ∈ "KMGT".toList, c ∈ "mkKMGTi".toList :=
    List.all_iff_forall_prop.mp (by decide +kernel)
  have decimal : ∀ c ∈ "mkMGT".toList, c ∈ "mkKMGTi".toList :=
    List.all_iff_forall_prop.mp (by decide +kernel)
  rcases isUnit with ⟨c, among, rfl⟩ | ⟨c, among, rfl⟩
  · refine ⟨by simp, fun other member => unit_letters other ?_⟩
    rcases List.mem_pair.mp member with rfl | rfl
    · exact binary _ among
    · decide +kernel
  · refine ⟨by simp, fun other member => unit_letters other ?_⟩
    rw [List.mem_singleton.mp member]
    exact decimal c among

private theorem mem_unitPattern {start stop : Cursor Char} :
    stop ∈ run unitPattern start ↔
      ∃ unit, IsUnit unit ∧ start.after = unit ++ stop.after ∧
        stop = start.past unit stop.after := by
  simp only [unitPattern, anyOf, mem_run_seq, mem_run_alt, mem_run_one,
    mem_run_literal, List.contains_iff_mem]
  constructor
  · rintro (⟨_, ⟨c, rest, starts, among, rfl⟩, last, follows, rfl⟩ |
      ⟨c, rest, starts, among, rfl⟩)
    · rw [Cursor.past_after] at follows
      exact ⟨[c, 'i'], .inl ⟨c, among, rfl⟩, by simp [starts, follows],
        Cursor.past_past ..⟩
    · exact ⟨[c], .inr ⟨c, among, rfl⟩, starts, rfl⟩
  · rintro ⟨unit, ⟨c, among, rfl⟩ | ⟨c, among, rfl⟩, starts, ends⟩
    · exact .inl ⟨_, ⟨c, 'i' :: stop.after, starts, among, rfl⟩, stop.after,
        rfl, ends.trans (Cursor.past_past start [c] ['i'] _ _).symm⟩
    · exact .inr ⟨c, stop.after, starts, among, ends⟩

/-- What a whole match captures: the number, and the unit when there is one. -/
theorem captured_of_mem {text : List Char} {stop : Cursor Char}
    (member : stop ∈ run quantityPattern { after := text })
    (ends : stop.after = []) :
    ∃ number unit, text = number ++ unit ∧
      (∀ c ∈ number, isNumberChar c = true) ∧
      (∀ c ∈ unit, isNumberChar c = false ∧ c ≠ '\n') ∧
      stop.captured 1 = some number ∧
      stop.captured 2 = if unit = [] then none else some unit := by
  simp only [quantityPattern, opt, mem_run_seq, mem_run_alt, mem_run_group,
    mem_run_empty] at member
  obtain ⟨_, ⟨inner, numbered, rfl⟩, ⟨last, united, rfl⟩ | rfl⟩ := member
  · obtain ⟨number, starts, digits, groups⟩ := number_of_mem numbered
    obtain ⟨unit, isUnit, follows, stops⟩ := mem_unitPattern.mp united
    have first := Cursor.textTo_of_append starts
    have second := Cursor.textTo_of_append follows
    have groups' := congrArg Cursor.groups stops
    simp only [Cursor.past_groups] at ends starts follows groups'
    refine ⟨number, unit, by simp [starts, follows, ends], digits,
      isUnit.letters.2, ?_, ?_⟩
    · rw [Cursor.captured]
      dsimp only
      rw [groups', first]
      rfl
    · simp [Cursor.captured, second, isUnit.letters.1]
  · obtain ⟨number, starts, digits, groups⟩ := number_of_mem numbered
    have first := Cursor.textTo_of_append starts
    simp only at ends starts groups
    refine ⟨number, [], by simp [starts, ends], digits, by simp, ?_, ?_⟩
    · simp [Cursor.captured, first]
    · rw [Cursor.captured, groups]
      rfl

theorem isUnit_of_known {unit : List Char} {scale : PyDecimal}
    (known : (some unit, scale) ∈ quantityScale) : IsUnit unit := by
  have shapes : ∀ entry ∈ quantityScale, (entry.1.all fun unit =>
      ("KMGT".toList.any fun c => unit == [c, 'i']) ||
        "mkMGT".toList.any fun c => unit == [c]) = true := by
    decide +kernel
  have shape := shapes _ known
  simpa [IsUnit] using shape

private theorem lookup_of_known {unit : List Char} {scale : PyDecimal}
    (known : (some unit, scale) ∈ quantityScale) :
    quantityScale.lookup (some unit) = some scale := by
  have found : ∀ entry ∈ quantityScale,
      quantityScale.lookup entry.1 = some entry.2 := by
    decide +kernel
  exact found _ known

/-- A text has one way to be parted into a number and a unit. -/
theorem number_unit_inj {number unit other rest : List Char}
    (same : number ++ unit = other ++ rest)
    (first : ∀ c ∈ number, isNumberChar c = true)
    (second : ∀ c ∈ unit, isNumberChar c = false)
    (third : ∀ c ∈ other, isNumberChar c = true)
    (fourth : ∀ c ∈ rest, isNumberChar c = false) :
    number = other ∧ unit = rest := by
  have parted := congrArg (List.takeWhile isNumberChar) same
  have stops : ∀ part : List Char, (∀ c ∈ part, isNumberChar c = false) →
      part.takeWhile isNumberChar = [] := by
    intro part none
    cases part with
    | nil => rfl
    | cons c part => simp [none c]
  rw [List.takeWhile_append_of_pos first, List.takeWhile_append_of_pos third,
    stops unit second, stops rest fourth, List.append_nil,
    List.append_nil] at parted
  subst parted
  exact ⟨rfl, List.append_cancel_left same⟩

/-- A quantity with whole digits and a unit that the scale has is read as
their product, unless that overflows. -/
theorem parseQuantity_eq {value : String} {digits unit : List Char}
    {scale : PyDecimal} (text : value.toList = digits ++ unit)
    (some : digits ≠ []) (decimal : ∀ c ∈ digits, isDecimal c = true)
    (known : (Option.some unit, scale) ∈ quantityScale) :
    parseQuantity value =
      match PyDecimal.mul PyDecimal.defaultContext (PyDecimal.ofText digits)
          scale with
      | none => .error .decimalOverflow
      | Option.some quantity => .ok quantity := by
  have isUnit := isUnit_of_known known
  obtain ⟨found, matched⟩ : ∃ found,
      fullmatch quantityPattern value.toList = Option.some found := by
    let start : Cursor Char := { after := value.toList }
    let middle := start.past digits unit
    have numbered : middle ∈ run numberPattern start := by
      simp only [numberPattern, opt, mem_run_seq, mem_run_alt, mem_run_plusOne,
        mem_run_empty]
      exact ⟨middle, ⟨digits, unit, text, some, decimal, rfl⟩, .inr rfl⟩
    let grouped : Cursor Char :=
      { middle with groups := (1, start.textTo middle) :: middle.groups }
    have united : grouped.past unit [] ∈ run unitPattern grouped :=
      mem_unitPattern.mpr ⟨unit, isUnit, (List.append_nil unit).symm, rfl⟩
    apply fullmatch_isSome
    · simp only [quantityPattern, opt, mem_run_seq, mem_run_alt, mem_run_group,
        mem_run_empty]
      exact ⟨grouped, ⟨middle, numbered, rfl⟩, .inl ⟨_, united, rfl⟩⟩
    · rfl
  obtain ⟨member, ends⟩ := fullmatch_eq_some matched
  obtain ⟨number, rest, parts, digits', letters, first, second⟩ :=
    captured_of_mem member ends
  obtain ⟨rfl, rfl⟩ := number_unit_inj (text.symm.trans parts)
    (fun c member => by simp [isNumberChar, decimal c member])
    (fun c member => (isUnit.letters.2 c member).1) digits'
    (fun c member => (letters c member).1)
  rw [if_neg isUnit.letters.1] at second
  rw [parseQuantity, matched]
  simp only [first, second, lookup_of_known known, Option.getD_some]

/-- A text that ends a line is no quantity. -/
theorem parseQuantity_newline {value : String} {text : List Char}
    (ends : value.toList = text ++ ['\n']) :
    parseQuantity value = .error .valueError := by
  cases matched : fullmatch quantityPattern value.toList with
  | none => rw [parseQuantity, matched]
  | some found =>
      obtain ⟨member, stops⟩ := fullmatch_eq_some matched
      obtain ⟨number, unit, parts, digits, letters, -⟩ :=
        captured_of_mem member stops
      have among : '\n' ∈ number ++ unit := by simp [← parts, ends]
      rcases List.mem_append.mp among with inNumber | inUnit
      · have never : isNumberChar '\n' = false := by decide +kernel
        rw [digits _ inNumber] at never
        cases never
      · exact absurd rfl (letters _ inUnit).2

/-- The number that a quantity's text stands for, before a context rounds
it. -/
def exactQuantity (value : String) : Option ℚ :=
  let number := value.toList.takeWhile isNumberChar
  let unit := value.toList.dropWhile isNumberChar
  (quantityScale.lookup (if unit = [] then none else some unit)).map
    fun scale => (PyDecimal.ofText number).value * scale.value

theorem exactQuantity_eq {value : String} {digits unit : List Char}
    {scale : PyDecimal} (text : value.toList = digits ++ unit)
    (decimal : ∀ c ∈ digits, isDecimal c = true)
    (known : (some unit, scale) ∈ quantityScale) :
    exactQuantity value =
      some ((PyDecimal.ofText digits).value * scale.value) := by
  have isUnit := isUnit_of_known known
  have inNumber : ∀ c ∈ digits, isNumberChar c = true := by
    intro c member
    simp [isNumberChar, decimal c member]
  obtain ⟨first, rest, rfl⟩ := List.exists_cons_of_ne_nil isUnit.letters.1
  have stops := (isUnit.letters.2 first List.mem_cons_self).1
  have number : value.toList.takeWhile isNumberChar = digits := by
    rw [text, List.takeWhile_append_of_pos inNumber]
    simp [stops]
  have unit : value.toList.dropWhile isNumberChar = first :: rest := by
    rw [text, List.dropWhile_append_of_pos inNumber]
    simp [stops]
  simp only [exactQuantity, number, unit, if_neg isUnit.letters.1,
    lookup_of_known known, Option.map_some]

/-- Digits without a point are a whole number. -/
theorem ofText_digits {digits : List Char}
    (decimal : ∀ c ∈ digits, isDecimal c = true) :
    PyDecimal.ofText digits =
      ⟨PyText.ofDigits (digits.filterMap PyText.decimalDigit?), 0⟩ := by
  have pointless : '.' ∉ digits := by
    intro member
    have never : isDecimal '.' = false := by decide +kernel
    rw [decimal _ member] at never
    cases never
  simp [PyDecimal.ofText, PyText.partition_of_notMem pointless]

/-- No unit of the scale has more than three decimal places. -/
theorem exponent_of_known {unit : Option (List Char)} {scale : PyDecimal}
    (known : (unit, scale) ∈ quantityScale) :
    -3 ≤ scale.exponent ∧ 0 < scale.coefficient := by
  have places : ∀ entry ∈ quantityScale,
      -3 ≤ entry.2.exponent ∧ 0 < entry.2.coefficient := by
    decide +kernel
  exact places _ known

/-- What becomes of a quantity: it overflows when its exact value does, and
else it is read so that it compares as the exact value does with every bound of
at most 25 digits. -/
theorem parseQuantity_cases {value : String} {digits unit : List Char}
    {scale : PyDecimal} {exact : ℚ} (text : value.toList = digits ++ unit)
    (some : digits ≠ []) (decimal : ∀ c ∈ digits, isDecimal c = true)
    (known : (Option.some unit, scale) ∈ quantityScale)
    (stands : exactQuantity value = Option.some exact) :
    (PyDecimal.defaultContext.overflowBound ≤ exact ∧
      parseQuantity value = .error .decimalOverflow) ∨
    (exact < PyDecimal.defaultContext.overflowBound ∧
      ∃ quantity, parseQuantity value = .ok quantity ∧
        (0 < exact → 0 < quantity.value) ∧
        ∀ bound : ℚ, bound ≤ 10 ^ 25 →
          (bound ≤ quantity.value ↔ bound ≤ exact)) := by
  rw [exactQuantity_eq text decimal known] at stands
  let product : PyDecimal :=
    ⟨(PyDecimal.ofText digits).coefficient * scale.coefficient,
      (PyDecimal.ofText digits).exponent + scale.exponent⟩
  have same : product.value = exact :=
    (PyDecimal.value_mul _ _).trans (Option.some.inj stands)
  have places : -3 ≤ product.exponent := by
    simpa [product, ofText_digits decimal] using (exponent_of_known known).1
  have normal : PyDecimal.defaultContext.etiny ≤ product.exponent :=
    Int.le_trans (by decide) places
  rw [parseQuantity_eq text some decimal known]
  cases answer : PyDecimal.mul PyDecimal.defaultContext
      (PyDecimal.ofText digits) scale with
  | none =>
      have beyond := (PyDecimal.fix_eq_none_iff normal).mp answer
      rw [same] at beyond
      exact .inl ⟨beyond, rfl⟩
  | some quantity =>
      have within : ¬ PyDecimal.defaultContext.overflowBound ≤ exact := by
        rw [← same, ← PyDecimal.fix_eq_none_iff normal]
        intro none
        cases answer.symm.trans none
      refine .inr ⟨not_le.mp within, quantity, rfl, ?_, ?_⟩
      · rw [← same]
        exact fun positive => PyDecimal.value_fix_pos normal positive answer
      · intro bound small
        rw [← same]
        apply PyDecimal.le_value_fix normal _ answer
        refine small.trans ?_
        rw [← zpow_natCast]
        apply PyDecimal.zpow_le_of_le
        show (25 : Int) ≤ 28 + product.exponent
        omega

end Parsing

/-- `value or fallback` of a quantity's text. -/
def valueOr (value fallback : String) : String :=
  if value = "" then fallback else value

example : parseQuantity "512Mi" = .ok ⟨536870912, 0⟩ := by decide +kernel

example : atLeast "900m" "1.5" = .ok "1.5" := by decide +kernel

end Integr8s
