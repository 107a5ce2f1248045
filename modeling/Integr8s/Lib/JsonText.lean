/-
Module: Integr8s.Lib.JsonText
Purpose: JSON as a compact writer writes it, and how much room it takes in
  UTF-8: what quoting adds to a text, and what a text that was decoded from
  bytes takes in terms of those bytes.
Trusted boundary: human-reviewed spec
Main exports: JsonText.string, JsonText.object, JsonText.textRoom,
  JsonText.room, JsonText.textRoom_decodeReplace, JsonText.room_le,
  JsonText.length_object
-/
import Integr8s.Lib.DecodedSize

namespace JsonText

open PyBytes

def quotationMark : Char := Char.ofNat 0x22

def backslash : Char := Char.ofNat 0x5C

/-- The letter of a character's short escape sequence. -/
def shortEscape (c : Char) : Option Char :=
  match c.toNat with
  | 0x22 => some quotationMark
  | 0x5C => some backslash
  | 0x08 => some 'b'
  | 0x09 => some 't'
  | 0x0A => some 'n'
  | 0x0C => some 'f'
  | 0x0D => some 'r'
  | _ => none

/-- A character within a string: control characters are escaped, and no other
than have to be. -/
def escape (c : Char) : List Char :=
  match shortEscape c with
  | some letter => [backslash, letter]
  | none =>
      if c.toNat < 0x20 then
        [backslash, 'u', '0', '0', (c.toNat / 16).digitChar,
          (c.toNat % 16).digitChar]
      else [c]

def string (text : List Char) : List Char :=
  quotationMark :: (text.flatMap escape ++ [quotationMark])

/-- The members of an object, whose values are written already. -/
def members : List (String × List Char) → List Char
  | [] => []
  | [member] => string member.1.toList ++ ':' :: member.2
  | member :: rest =>
      string member.1.toList ++ ':' :: (member.2 ++ ',' :: members rest)

def object (values : List (String × List Char)) : List Char :=
  Char.ofNat 0x7B :: (members values ++ [Char.ofNat 0x7D])

example : object [("a", string ['x', Char.ofNat 10, Char.ofNat 1])] =
    "\x7b\"a\":\"x\\n\\u0001\"\x7d".toList := by decide

/-! ### What quoting adds -/

/-- What escaping adds to a character. -/
def growth (c : Char) : Nat :=
  if (shortEscape c).isSome then 1
  else if c.toNat < 0x20 then 5
  else 0

private theorem shortEscape_spec {c letter : Char}
    (short : shortEscape c = some letter) :
    c.toNat < 0x80 ∧ letter.utf8Size = 1 := by
  unfold shortEscape at short
  split at short
  all_goals cases short
  all_goals
    next code => exact ⟨by omega, by decide⟩

theorem growth_large (c : Char) (large : 0x80 ≤ c.toNat) : growth c = 0 := by
  have long : shortEscape c = none := by
    cases short : shortEscape c with
    | none => rfl
    | some letter =>
        have small := (shortEscape_spec short).1
        omega
  rw [growth, long]
  simp
  omega

private theorem utf8Size_digitChar :
    ∀ digit < 16, (Nat.digitChar digit).utf8Size = 1 := by
  decide

private theorem length_escape (c : Char) :
    (encode (escape c)).length = c.utf8Size + growth c := by
  have mark : backslash.utf8Size = 1 := by decide
  unfold escape growth
  cases short : shortEscape c with
  | some letter =>
      obtain ⟨small, one⟩ := shortEscape_spec short
      simp [mark, one, utf8Size_one small]
  | none =>
      by_cases control : c.toNat < 0x20
      · have one := @utf8Size_one c (by omega)
        have high := utf8Size_digitChar (c.toNat / 16) (by omega)
        have low := utf8Size_digitChar (c.toNat % 16) (by omega)
        have letter : Char.utf8Size 'u' = 1 := by decide
        have zero : Char.utf8Size '0' = 1 := by decide
        simp [control, mark, one, high, low, letter, zero]
      · simp [control]

private theorem length_escapes (text : List Char) :
    (encode (text.flatMap escape)).length =
      (encode text).length + (text.map growth).sum := by
  induction text with
  | nil => rfl
  | cons c text inductionHypothesis =>
      simp only [List.flatMap_cons, encode_append, List.length_append,
        length_escape, inductionHypothesis, encode_cons,
        String.length_utf8EncodeChar, List.map_cons, List.sum_cons]
      omega

/-- The room of a text within a string. -/
def textRoom (text : List Char) : Nat :=
  (encode (text.flatMap escape)).length

theorem length_string (text : List Char) :
    (encode (string text)).length = textRoom text + 2 := by
  have mark : quotationMark.utf8Size = 1 := by decide
  simp only [string, encode_cons, encode_append, encode_nil, textRoom,
    List.length_append, String.length_utf8EncodeChar, mark, List.length_nil]
  omega

/-- The room that bytes take as a decoded text within a string: what
replacements add, and escapes. -/
def room (bytes : PyBytes) : Nat :=
  bytes.length + added none 0 bytes +
    (bytes.map fun byte => growth (Char.ofNat byte.toNat)).sum

theorem textRoom_decodeReplace (bytes : PyBytes) :
    textRoom bytes.decodeReplace.toList = room bytes := by
  have start : Tracks none 0 := rfl
  rw [textRoom, decodeReplace, String.toList_ofList, length_escapes,
    length_encode_decodeFrom start, sum_decodeFrom growth_large start, room,
    Nat.zero_add]

private theorem growth_le (c : Char) : growth c ≤ 5 := by
  unfold growth
  split_ifs <;> omega

private theorem growth_byte {byte : UInt8} (large : 0x80 ≤ byte) :
    growth (Char.ofNat byte.toNat) = 0 :=
  measure_large growth_large large

/-- One byte pays for what it adds, and for what the character that it leaves
open may add. -/
theorem growth_decodeByte {state : Option Partial} {read : Nat}
    (tracks : Tracks state read) (byte : UInt8) :
    (if continues state byte then 0
        else brokenOff state read + stray byte) +
        growth (Char.ofNat byte.toNat) + 5 * readNext state read byte ≤
      5 * (read + 1) := by
  have steps := decodeByte_spec tracks byte
  unfold readNext
  generalize decodeByte state byte = result at steps
  cases steps with
  | begins breaksOff leads =>
      have before : brokenOff state read ≤ 5 * read := by
        cases state with
        | none => simp [brokenOff]
        | some opened =>
            have started := tracks.started
            simp [brokenOff]
            omega
      have few := growth_le (Char.ofNat byte.toNat)
      cases leads with
      | ascii small =>
          simp [breaksOff, stray, small]
          omega
      | nothing large replaced =>
          simp [breaksOff, replaced, growth_byte large]
          omega
      | opens large kept opened =>
          simp [breaksOff, kept, growth_byte large]
          omega
  | completes goesOn large started size =>
      simp [goesOn, growth_byte large]
  | stays goesOn large opened =>
      simp [goesOn, growth_byte large]

private theorem growth_decodeFrom {state : Option Partial} {read : Nat}
    (tracks : Tracks state read) (bytes : PyBytes) :
    added state read bytes +
        (bytes.map fun byte => growth (Char.ofNat byte.toNat)).sum ≤
      5 * (read + bytes.length) := by
  induction bytes generalizing state read with
  | nil =>
      cases state with
      | none => simp [added, brokenOff]
      | some opened =>
          have started := tracks.started
          simp [added, brokenOff]
          omega
  | cons byte rest inductionHypothesis =>
      have here := growth_decodeByte tracks byte
      have later := inductionHypothesis (size_decodeByte tracks byte).2
      simp only [added, List.map_cons, List.sum_cons, List.length_cons]
      omega

/-- No byte takes more than six. -/
theorem room_le (bytes : PyBytes) : room bytes ≤ 6 * bytes.length := by
  have start : Tracks none 0 := rfl
  have bound := growth_decodeFrom start bytes
  rw [room]
  omega

/-! ### Objects -/

/-- The room of one member. -/
def memberRoom (member : String × List Char) : Nat :=
  (encode (string member.1.toList)).length + 1 + (encode member.2).length

private theorem length_members (values : List (String × List Char)) :
    (encode (members values)).length =
      (values.map memberRoom).sum + (values.length - 1) := by
  have colon : Char.utf8Size ':' = 1 := by decide
  have comma : Char.utf8Size ',' = 1 := by decide
  induction values with
  | nil => rfl
  | cons member rest inductionHypothesis =>
      cases rest with
      | nil => simp [members, memberRoom, colon]; omega
      | cons next rest =>
          simp [members, memberRoom, colon, comma] at inductionHypothesis ⊢
          omega

theorem length_object (values : List (String × List Char)) :
    (encode (object values)).length =
      (values.map memberRoom).sum + (values.length - 1) + 2 := by
  have opens : (Char.ofNat 0x7B).utf8Size = 1 := by decide
  have closes : (Char.ofNat 0x7D).utf8Size = 1 := by decide
  simp only [object, encode_cons, encode_append, encode_nil,
    List.length_append, String.length_utf8EncodeChar, length_members, opens,
    closes, List.length_nil]
  omega

end JsonText
