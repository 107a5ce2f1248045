/-
Module: Integr8s.Domain.SettingsSchema
Purpose: The schema of the system settings that the admin API takes: the
  bounds of its numbers and the patterns of its quantities.
Trusted boundary: human-reviewed spec
Main exports: SystemSettingsSchema.memoryPattern,
  SystemSettingsSchema.cpuPattern, SystemSettingsSchema.accepts,
  SystemSettingsSchema.matchesMemory_iff, SystemSettingsSchema.matchesCpu_iff
-/
import Integr8s.Domain.Quantities
import Integr8s.Domain.Settings

namespace Integr8s

namespace SystemSettingsSchema

open Regex

/-- `$`: the end of a text, or of a text before its last line break. -/
def textEnd : Regex Char :=
  assert fun _ after => after.isEmpty || after == ['\n']

/-- `[1-9]\d*`. -/
def countPattern : Regex Char :=
  seq (anyOf "123456789") (star (one isDecimal))

/-- `_MEMORY_PATTERN`: `^[1-9]\d*(Mi|Gi|Ki)$`. -/
def memoryPattern : Regex Char :=
  seq atStart (seq countPattern (seq
    (group 1 (oneOf [literal ['M', 'i'], literal ['G', 'i'],
      literal ['K', 'i']])) textEnd))

/-- `_CPU_PATTERN`: `^[1-9]\d*m$`. -/
def cpuPattern : Regex Char :=
  seq atStart (seq countPattern (seq (literal ['m']) textEnd))

def matchesMemory (value : String) : Bool :=
  (matchStart memoryPattern value.toList).isSome

def matchesCpu (value : String) : Bool :=
  (matchStart cpuPattern value.toList).isSome

/-- `Field(ge=low, le=high)`. -/
def within (low high value : Int) : Bool :=
  decide (low ≤ value) && decide (value ≤ high)

/-- Whether the schema takes these settings. -/
def accepts (settings : SystemSettings) : Bool :=
  within 1 3600 settings.maxTimeoutSeconds &&
    matchesMemory settings.memoryLimit && matchesCpu settings.cpuLimit &&
    within 1 100 settings.maxConcurrentExecutions &&
    within 1 1000 settings.maxExecutionsPerUser &&
    within 8 32 settings.passwordMinLength &&
    within 5 1440 settings.sessionTimeoutMinutes &&
    within 3 10 settings.maxLoginAttempts &&
    within 5 60 settings.lockoutDurationMinutes

example : accepts {} = true := by decide +kernel

/-- A count of a quantity: decimal digits, the first of them ASCII and not
zero. -/
structure IsCount (digits : List Char) : Prop where
  leads : ∃ c ∈ "123456789".toList, digits.head? = some c
  decimal : ∀ c ∈ digits, isDecimal c = true

/-- A count is positive. -/
theorem IsCount.positive {digits : List Char} (count : IsCount digits) :
    0 < (PyDecimal.ofText digits).coefficient := by
  have leading : ∀ c ∈ "123456789".toList,
      ∃ digit, PyText.decimalDigit? c = some digit ∧ 0 < digit := by
    have found : ∀ c ∈ "123456789".toList,
        ((PyText.decimalDigit? c).any fun digit => decide (0 < digit)) =
          true :=
      List.all_iff_forall_prop.mp (by decide +kernel)
    intro c among
    simpa [Option.any_eq_true] using found c among
  obtain ⟨c, among, leads⟩ := count.leads
  obtain ⟨digit, same, positive⟩ := leading c among
  rw [ofText_digits count.decimal]
  cases digits with
  | nil => cases leads
  | cons first rest =>
      cases leads
      rw [List.filterMap_cons_some same]
      exact PyText.ofDigits_pos _ positive

private theorem mem_countPattern {start stop : Cursor Char} :
    stop ∈ run countPattern start ↔
      ∃ digits, IsCount digits ∧ start.after = digits ++ stop.after ∧
        stop = start.past digits stop.after := by
  have ascii : ∀ c ∈ "123456789".toList, isDecimal c = true :=
    List.all_iff_forall_prop.mp (by decide +kernel)
  simp only [countPattern, anyOf, mem_run_seq, mem_run_one, mem_run_starOne,
    List.contains_iff_mem]
  constructor
  · rintro ⟨_, ⟨c, tail, starts, among, rfl⟩, text, rest, parts, digits, rfl⟩
    rw [Cursor.past_after] at parts
    refine ⟨c :: text, ⟨⟨c, among, rfl⟩, ?_⟩, by simp [starts, parts],
      Cursor.past_past ..⟩
    simpa [ascii c among] using digits
  · rintro ⟨digits, ⟨⟨c, among, leads⟩, decimal⟩, starts, ends⟩
    cases digits with
    | nil => cases leads
    | cons first text =>
        cases leads
        refine ⟨_, ⟨c, text ++ stop.after, starts, among, rfl⟩, text,
          stop.after, rfl, fun other member =>
            decimal other (List.mem_cons_of_mem _ member), ?_⟩
        exact ends.trans (Cursor.past_past start [c] text _ _).symm

/-- What may follow a quantity at the end of a text. -/
def IsLineEnd (rest : List Char) : Prop :=
  rest = [] ∨ rest = ['\n']

private theorem textEnd_iff {rest : List Char} :
    (rest.isEmpty || rest == ['\n']) = true ↔ IsLineEnd rest := by
  simp [IsLineEnd]

theorem matchesMemory_iff (value : String) :
    matchesMemory value = true ↔
      ∃ digits unit rest, value.toList = digits ++ unit ++ rest ∧
        IsCount digits ∧
        unit ∈ [['M', 'i'], ['G', 'i'], ['K', 'i']] ∧ IsLineEnd rest := by
  rw [matchesMemory, matchStart_isSome]
  simp only [memoryPattern, atStart, textEnd, mem_run_seq, mem_run_assert,
    mem_countPattern, mem_run_group, mem_run_oneOf, textEnd_iff]
  constructor
  · rintro ⟨stop, _, ⟨-, rfl⟩, _, ⟨digits, count, starts, -⟩, _,
      ⟨inner, ⟨pattern, among, member⟩, rfl⟩, ends, rfl⟩
    obtain ⟨unit, isUnit, rfl⟩ := List.mem_map.mp
      (show pattern ∈ [['M', 'i'], ['G', 'i'], ['K', 'i']].map literal from
        among)
    obtain ⟨rest, follows, rfl⟩ := mem_run_literal.mp member
    exact ⟨digits, unit, rest, by simp_all, count, isUnit, ends⟩
  · rintro ⟨digits, unit, rest, parts, count, isUnit, ends⟩
    let start : Cursor Char := { after := value.toList }
    let counted := start.past digits (unit ++ rest)
    have parts' : start.after = digits ++ counted.after := by
      simpa [start, counted] using parts
    have among := List.mem_map_of_mem (f := literal) isUnit
    exact ⟨_, start, ⟨rfl, rfl⟩, counted, ⟨digits, count, parts', rfl⟩, _,
      ⟨counted.past unit rest, ⟨literal unit, among,
        mem_run_literal.mpr ⟨rest, rfl, rfl⟩⟩, rfl⟩, ends, rfl⟩

theorem matchesCpu_iff (value : String) :
    matchesCpu value = true ↔
      ∃ digits rest, value.toList = digits ++ ['m'] ++ rest ∧
        IsCount digits ∧ IsLineEnd rest := by
  rw [matchesCpu, matchStart_isSome]
  simp only [cpuPattern, atStart, textEnd, mem_run_seq, mem_run_assert,
    mem_countPattern, mem_run_literal, textEnd_iff]
  constructor
  · rintro ⟨stop, _, ⟨-, rfl⟩, _, ⟨digits, count, starts, -⟩, _,
      ⟨rest, follows, rfl⟩, ends, rfl⟩
    exact ⟨digits, rest, by simp_all, count, ends⟩
  · rintro ⟨digits, rest, parts, count, ends⟩
    let start : Cursor Char := { after := value.toList }
    let counted := start.past digits (['m'] ++ rest)
    have parts' : start.after = digits ++ counted.after := by
      simpa [start, counted] using parts
    exact ⟨counted.past ['m'] rest, start, ⟨rfl, rfl⟩, counted,
      ⟨digits, count, parts', rfl⟩, _, ⟨rest, rfl, rfl⟩, ends, rfl⟩

end SystemSettingsSchema

end Integr8s
