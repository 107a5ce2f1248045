/-
Module: Integr8s.Lib.PythonText
Purpose: The parts of Python's text handling that a line-oriented parser uses:
  strip, splitlines and partition of a str, and the conversions int() and
  float() of a str, with the whitespace, the underscores, the Unicode decimal
  digits and the digit limit that CPython accepts.
Trusted boundary: human-reviewed spec
Main exports: PyFloat, PyText.strip, PyText.splitlines, PyText.partition,
  PyText.parseInt, PyText.parseFloat, PyText.parseInt_toString
-/
import Mathlib.Algebra.Order.Ring.Nat
import Mathlib.Data.List.Basic
import Mathlib.Data.List.TakeDrop
import Mathlib.Data.List.TakeWhile

/-- The number a float literal names, before it is rounded to a double. -/
inductive PyFloat where
  | finite (negative : Bool) (mantissa : Nat) (exponent : Int)
  | infinity (negative : Bool)
  | nan
deriving DecidableEq, Repr

namespace PyText

/-- `str.isspace` of one character. -/
def isSpace (c : Char) : Bool :=
  let n := c.toNat
  (0x09 ≤ n && n ≤ 0x0D) || (0x1C ≤ n && n ≤ 0x20) || n == 0x85 ||
    n == 0xA0 || n == 0x1680 || (0x2000 ≤ n && n ≤ 0x200A) ||
    n == 0x2028 || n == 0x2029 || n == 0x202F || n == 0x205F || n == 0x3000

/-- The characters at which `str.splitlines` ends a line. -/
def isLineBreak (c : Char) : Bool :=
  let n := c.toNat
  (0x0A ≤ n && n ≤ 0x0D) || (0x1C ≤ n && n ≤ 0x1E) || n == 0x85 ||
    n == 0x2028 || n == 0x2029

/-- The whitespace that the number parsers skip once the text is ASCII. -/
def isAsciiSpace (c : Char) : Bool :=
  (0x09 ≤ c.toNat && c.toNat ≤ 0x0D) || c.toNat == 0x20

/-- Drop the characters of a class at both ends. -/
def stripWhile (drops : Char → Bool) (text : List Char) : List Char :=
  ((text.dropWhile drops).reverse.dropWhile drops).reverse

/-- `str.strip()`. -/
def strip (text : List Char) : List Char :=
  stripWhile isSpace text

/-- `str.splitlines()`, with the characters of the current line collected in
reverse. -/
def splitlinesFrom (line : List Char) : List Char → List (List Char)
  | [] => if line.isEmpty then [] else [line.reverse]
  | '\r' :: '\n' :: rest => line.reverse :: splitlinesFrom [] rest
  | c :: rest =>
      if isLineBreak c then line.reverse :: splitlinesFrom [] rest
      else splitlinesFrom (c :: line) rest

/-- `str.splitlines()`. -/
def splitlines (text : List Char) : List (List Char) :=
  splitlinesFrom [] text

/-- `str.partition(separator)` for a one-character separator: the text before
it, whether it was found, and the text after it. -/
def partition (separator : Char) (text : List Char) :
    List Char × Bool × List Char :=
  match text.span (· != separator) with
  | (before, []) => (before, false, [])
  | (before, _ :: rest) => (before, true, rest)

/-- The first separator parts a text. -/
theorem partition_append {separator : Char} {before : List Char}
    (without : separator ∉ before) (rest : List Char) :
    partition separator (before ++ separator :: rest) =
      (before, true, rest) := by
  have stops : (before ++ separator :: rest).span (· != separator) =
      (before, separator :: rest) := by
    rw [List.span_eq_takeWhile_dropWhile, List.takeWhile_append_of_pos,
      List.dropWhile_append_of_pos]
    · simp
    · intro c member
      simpa using fun same : c = separator => without (same ▸ member)
    · intro c member
      simpa using fun same : c = separator => without (same ▸ member)
  rw [partition, stops]

/-- A text without the separator isn't parted. -/
theorem partition_of_notMem {separator : Char} {text : List Char}
    (without : separator ∉ text) :
    partition separator text = (text, false, []) := by
  have all : ∀ c ∈ text, (c != separator) = true := by
    intro c member
    simpa using fun same : c = separator => without (same ▸ member)
  have runs : text.span (· != separator) = (text, []) := by
    rw [List.span_eq_takeWhile_dropWhile, List.takeWhile_eq_self_iff.mpr all,
      List.dropWhile_eq_nil_iff.mpr all]
  rw [partition, runs]

/-- A text has one way to be parted at its first separator. -/
theorem append_separator_inj {separator : Char}
    {before after other rest : List Char} (first : separator ∉ before)
    (second : separator ∉ other)
    (same : before ++ separator :: after = other ++ separator :: rest) :
    before = other ∧ after = rest := by
  have parted := congrArg (partition separator) same
  rw [partition_append first, partition_append second] at parted
  simpa using parted

/-! ### Decimal digits -/

/-- The code points of the digit zero of every Unicode script with decimal
digits; the other nine follow each of them. -/
def decimalZeros : List Nat :=
  [0x30, 0x660, 0x6F0, 0x7C0, 0x966, 0x9E6, 0xA66, 0xAE6, 0xB66, 0xBE6,
    0xC66, 0xCE6, 0xD66, 0xDE6, 0xE50, 0xED0, 0xF20, 0x1040, 0x1090, 0x17E0,
    0x1810, 0x1946, 0x19D0, 0x1A80, 0x1A90, 0x1B50, 0x1BB0, 0x1C40, 0x1C50,
    0xA620, 0xA8D0, 0xA900, 0xA9D0, 0xA9F0, 0xAA50, 0xABF0, 0xFF10, 0x104A0,
    0x10D30, 0x10D40, 0x11066, 0x110F0, 0x11136, 0x111D0, 0x112F0, 0x11450,
    0x114D0, 0x11650, 0x116C0, 0x116D0, 0x116DA, 0x11730, 0x118E0, 0x11950,
    0x11BF0, 0x11C50, 0x11D50, 0x11DA0, 0x11F50, 0x16130, 0x16A60, 0x16AC0,
    0x16B50, 0x16D70, 0x1CCF0, 0x1D7CE, 0x1D7D8, 0x1D7E2, 0x1D7EC, 0x1D7F6,
    0x1E140, 0x1E2F0, 0x1E4F0, 0x1E5F1, 0x1E950, 0x1FBF0]

/-- The value of a Unicode decimal digit. -/
def decimalDigit? (c : Char) : Option Nat :=
  (decimalZeros.find? fun base =>
    base ≤ c.toNat && c.toNat ≤ base + 9).map (c.toNat - ·)

/-- The value of an ASCII digit. -/
def asciiDigit? (c : Char) : Option Nat :=
  if 0x30 ≤ c.toNat && c.toNat ≤ 0x39 then some (c.toNat - 0x30) else none

/-- The ASCII digit of a value below ten. -/
def digitChar (digit : Nat) : Char :=
  Char.ofNat (0x30 + digit)

/-- What the number parsers read in place of a character: Unicode whitespace
becomes a blank and a Unicode decimal digit its ASCII one. -/
def toAscii (c : Char) : Char :=
  if c.toNat < 127 then c
  else if isSpace c then ' '
  else match decimalDigit? c with
    | some digit => digitChar digit
    | none => '?'

/-- The text a number parser works on.  A text that is all ASCII is left as
it is. -/
def numberText (text : List Char) : List Char :=
  stripWhile isAsciiSpace (text.map toAscii)

/-- Split an optional sign off; the flag says whether it was a minus. -/
def signOf : List Char → Bool × List Char
  | '-' :: rest => (true, rest)
  | '+' :: rest => (false, rest)
  | text => (false, text)

/-- The digits of a non-empty group in which single underscores may stand
between digits.  The flag says whether the last character was a digit. -/
def groupedDigits : Bool → List Char → Option (List Nat)
  | afterDigit, [] => if afterDigit then some [] else none
  | afterDigit, c :: rest =>
      if c = '_' then
        if afterDigit then groupedDigits false rest else none
      else
        (asciiDigit? c).bind fun digit =>
          (groupedDigits true rest).map (digit :: ·)

/-- The number a list of decimal digits writes, most significant first. -/
def ofDigits (digits : List Nat) : Nat :=
  digits.foldl (fun number digit => 10 * number + digit) 0

/-- A number is at least what its first digits write. -/
theorem le_foldl_digits (digits : List Nat) (start : Nat) :
    start ≤ digits.foldl (fun number digit => 10 * number + digit) start := by
  induction digits generalizing start with
  | nil => exact Nat.le_refl start
  | cons digit digits inductionHypothesis =>
      refine Nat.le_trans ?_ (inductionHypothesis (10 * start + digit))
      omega

/-- A number whose first digit isn't zero is positive. -/
theorem ofDigits_pos {digit : Nat} (digits : List Nat) (positive : 0 < digit) :
    0 < ofDigits (digit :: digits) := by
  have grows := le_foldl_digits digits (10 * 0 + digit)
  exact Nat.lt_of_lt_of_le (by omega) grows

/-- CPython refuses to convert longer decimal strings. -/
def maxStrDigits : Nat := 4300

/-- `int(text)`, or `none` where it raises `ValueError`. -/
def parseInt (text : List Char) : Option Int :=
  let (negative, body) := signOf (numberText text)
  (groupedDigits false body).bind fun digits =>
    if digits.length ≤ maxStrDigits then
      some (if negative then -(ofDigits digits : Int) else ofDigits digits)
    else none

/-! ### Decimal text -/

theorem digit_bounds {c : Char} (digit : c.isDigit = true) :
    0x30 ≤ c.toNat ∧ c.toNat ≤ 0x39 := by
  simpa [Char.isDigit, UInt32.le_iff_toNat_le] using digit

private theorem asciiDigit_of_isDigit {c : Char} (digit : c.isDigit = true) :
    asciiDigit? c = some (c.toNat - '0'.toNat) := by
  have bounds := digit_bounds digit
  simp [asciiDigit?, bounds]

private theorem toAscii_of_isDigit {c : Char} (digit : c.isDigit = true) :
    toAscii c = c := by
  have bounds := digit_bounds digit
  simp [toAscii]
  omega

private theorem not_space_of_isDigit {c : Char} (digit : c.isDigit = true) :
    isAsciiSpace c = false := by
  have bounds := digit_bounds digit
  simp [isAsciiSpace]
  omega

/-- A text whose ends are not dropped stays as it is. -/
theorem stripWhile_eq_self {drops : Char → Bool} {text : List Char}
    (keeps : ∀ c ∈ text, drops c = false) : stripWhile drops text = text := by
  have same : ∀ {part : List Char}, (∀ c ∈ part, drops c = false) →
      part.dropWhile drops = part := by
    intro part kept
    cases part with
    | nil => rfl
    | cons c rest => simp [kept c]
  rw [stripWhile, same keeps, same, List.reverse_reverse]
  intro c member
  exact keeps c (List.mem_reverse.mp member)

private theorem groupedDigits_of_digits {text : List Char}
    (digits : ∀ c ∈ text, c.isDigit = true) :
    ∀ afterDigit, (afterDigit = true ∨ text ≠ []) →
      groupedDigits afterDigit text =
        some (text.map fun c => c.toNat - '0'.toNat) := by
  induction text with
  | nil =>
      intro afterDigit nonempty
      simp_all [groupedDigits]
  | cons c rest inductionHypothesis =>
      intro afterDigit _
      have here := digits c (by simp)
      have plain : c ≠ '_' := by
        rintro rfl
        cases here
      have later := inductionHypothesis
        (fun other member => digits other (by simp [member])) true (.inl rfl)
      simp [groupedDigits, plain, asciiDigit_of_isDigit here, later]

private theorem ofDigits_map (text : List Char) :
    ofDigits (text.map fun c => c.toNat - '0'.toNat) =
      Nat.ofDigitChars 10 text 0 := by
  rw [ofDigits, List.foldl_map, Nat.ofDigitChars_eq_foldl]

/-- `int(sign + digits)`. -/
theorem parseInt_digits {sign digits : List Char}
    (isDigit : ∀ c ∈ digits, c.isDigit = true) (nonempty : digits ≠ [])
    (short : digits.length ≤ maxStrDigits)
    (signed : sign = [] ∨ sign = ['-']) :
    parseInt (sign ++ digits) =
      some (if sign = [] then (Nat.ofDigitChars 10 digits 0 : Int)
        else -(Nat.ofDigitChars 10 digits 0 : Int)) := by
  have plain : ∀ c ∈ sign ++ digits, toAscii c = c ∧
      isAsciiSpace c = false := by
    intro c member
    rcases List.mem_append.mp member with inSign | inDigits
    · rcases signed with rfl | rfl
      · cases inSign
      · rw [List.mem_singleton.mp inSign]
        decide
    · exact ⟨toAscii_of_isDigit (isDigit c inDigits),
        not_space_of_isDigit (isDigit c inDigits)⟩
  have text : numberText (sign ++ digits) = sign ++ digits := by
    rw [numberText, List.map_congr_left fun c member => (plain c member).1,
      List.map_id', stripWhile_eq_self fun c member => (plain c member).2]
  have split : signOf (sign ++ digits) = (decide (sign ≠ []), digits) := by
    rcases signed with rfl | rfl
    · obtain ⟨c, rest, rfl⟩ := List.exists_cons_of_ne_nil nonempty
      have here := isDigit c (by simp)
      unfold signOf
      split
      · next same =>
          cases same
          cases here
      · next same =>
          cases same
          cases here
      · simp
    · rfl
  rw [parseInt, text, split]
  simp only [groupedDigits_of_digits isDigit false (.inr nonempty),
    Option.bind_some, List.length_map, if_pos short, ofDigits_map]
  rcases signed with rfl | rfl <;> simp

/-- `int(str(number))` for a number that is not too long. -/
theorem parseInt_toString {number : Int}
    (short : number.natAbs < 10 ^ maxStrDigits) :
    parseInt (toString number).toList = some number := by
  have digits : ∀ n : Nat, n < 10 ^ maxStrDigits →
      (Nat.toDigits 10 n).length ≤ maxStrDigits := fun n small =>
    (Nat.length_toDigits_le_iff (by decide) (by decide)).mpr small
  have isDigit : ∀ n : Nat, ∀ c ∈ Nat.toDigits 10 n, c.isDigit = true :=
    fun n c member => Nat.isDigit_of_mem_toDigits (by decide) (by decide) member
  cases number with
  | ofNat n =>
      have text : (toString (Int.ofNat n)).toList =
          [] ++ Nat.toDigits 10 n := by
        simp [toString, Int.repr, Nat.toList_repr]
      rw [text, parseInt_digits (isDigit n) Nat.toDigits_ne_nil
        (digits n short) (.inl rfl)]
      simp [Nat.ofDigitChars_toDigits]
  | negSucc n =>
      have text : (toString (Int.negSucc n)).toList =
          ['-'] ++ Nat.toDigits 10 (n + 1) := by
        simp [toString, Int.repr, Nat.toList_repr]
      rw [text, parseInt_digits (isDigit (n + 1)) Nat.toDigits_ne_nil
        (digits (n + 1) short) (.inr rfl)]
      simp [Nat.ofDigitChars_toDigits, Int.negSucc_eq]

/-! ### Floats -/

/-- Remove the underscores of a float literal, each of which must stand
between two digits; the first argument is the character before the text. -/
def dropUnderscores : Char → List Char → Option (List Char)
  | previous, [] => if previous = '_' then none else some []
  | previous, c :: rest =>
      if c = '_' then
        if (asciiDigit? previous).isSome then dropUnderscores c rest else none
      else if previous = '_' && (asciiDigit? c).isNone then none
      else (dropUnderscores c rest).map (c :: ·)

/-- The longest run of ASCII digits at the head of a text, and the rest. -/
def takeDigits : List Char → List Nat × List Char
  | [] => ([], [])
  | c :: rest =>
      match asciiDigit? c with
      | some digit => (digit :: (takeDigits rest).1, (takeDigits rest).2)
      | none => ([], c :: rest)

/-- The fraction digits after a decimal point, when there is one. -/
def takeFraction : List Char → List Nat × List Char
  | '.' :: rest => takeDigits rest
  | rest => ([], rest)

/-- The exponent that ends a float literal, or `none` when something else
follows the digits. -/
def parseExponent : List Char → Option Int
  | [] => some 0
  | c :: rest =>
      if c = 'e' ∨ c = 'E' then
        let (negative, body) := signOf rest
        match takeDigits body with
        | ([], _) => none
        | (_, _ :: _) => none
        | (digits, []) =>
            some (if negative then -(ofDigits digits : Int)
              else ofDigits digits)
      else none

/-- The unsigned number of a float literal without underscores. -/
def parseUnsignedFloat (negative : Bool) (text : List Char) :
    Option PyFloat :=
  let lower := text.map Char.toLower
  if lower = "inf".toList ∨ lower = "infinity".toList then
    some (.infinity negative)
  else if lower = "nan".toList then some .nan
  else
    let (whole, afterWhole) := takeDigits text
    let (fraction, afterFraction) := takeFraction afterWhole
    if whole.isEmpty && fraction.isEmpty then none
    else
      (parseExponent afterFraction).map fun exponent =>
        .finite negative (ofDigits (whole ++ fraction))
          (exponent - fraction.length)

/-- `float(text)`, or `none` where it raises `ValueError`. -/
def parseFloat (text : List Char) : Option PyFloat :=
  (dropUnderscores ' ' (numberText text)).bind fun plain =>
    let (negative, body) := signOf plain
    parseUnsignedFloat negative body

end PyText
