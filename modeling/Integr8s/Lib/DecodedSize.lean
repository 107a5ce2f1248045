/-
Module: Integr8s.Lib.DecodedSize
Purpose: How much room bytes take once they are decoded with replacement and
  encoded again: what a byte that is part of no character adds, and that
  decoding keeps the ASCII characters.
Trusted boundary: human-reviewed spec
Main exports: PyBytes.encode, PyBytes.added, PyBytes.length_encode_decodeFrom,
  PyBytes.decodeReplace_eq_empty, PyBytes.sum_decodeFrom
-/
import Integr8s.Lib.PythonBytes

namespace PyBytes

/-- `text.encode()`. -/
def encode (text : List Char) : PyBytes :=
  text.flatMap String.utf8EncodeChar

@[simp] theorem encode_nil : encode [] = [] :=
  rfl

@[simp] theorem encode_cons (c : Char) (text : List Char) :
    encode (c :: text) = String.utf8EncodeChar c ++ encode text :=
  rfl

@[simp] theorem encode_append (before after : List Char) :
    encode (before ++ after) = encode before ++ encode after :=
  List.flatMap_append

/-! ### What replacing adds -/

/-- The byte goes on with the open character. -/
def continues (state : Option Partial) (byte : UInt8) : Bool :=
  match state with
  | some ⟨_, (low, high) :: _⟩ => low ≤ byte && byte ≤ high
  | _ => false

/-- The bytes read of the open character after one more byte. -/
def readNext (state : Option Partial) (read : Nat) (byte : UInt8) : Nat :=
  if (decodeByte state byte).2.isNone then 0
  else if continues state byte then read + 1
  else 1

/-- What one byte that starts no character adds: three bytes stand for it. -/
def stray (byte : UInt8) : Nat :=
  if byte < 0x80 then 0
  else if byte < 0xC2 ∨ 0xF4 < byte then 2
  else 0

/-- What a character adds that stays open: three bytes stand for those that
were read of it. -/
def brokenOff (state : Option Partial) (read : Nat) : Nat :=
  if state.isSome then 3 - read else 0

/-- How many bytes the replacements in the rest of a text have more than the
bytes that they stand for. -/
def added (state : Option Partial) (read : Nat) : PyBytes → Nat
  | [] => brokenOff state read
  | byte :: rest =>
      (if continues state byte then 0
        else brokenOff state read + stray byte) +
        added (decodeByte state byte).2 (readNext state read byte) rest

/-! ### Characters by their first bytes -/

private theorem utf8Size_eq (c : Char) :
    c.utf8Size = if c.toNat ≤ 0x7F then 1 else if c.toNat ≤ 0x7FF then 2
      else if c.toNat ≤ 0xFFFF then 3 else 4 := by
  rfl

private theorem toNat_ofNat {n : Nat} (valid : n.isValidChar) :
    (Char.ofNat n).toNat = n := by
  rw [Char.ofNat, dif_pos valid]
  rfl

/-- However the continuation bytes fall, the character has this size. -/
def Completes (size : Nat) : Nat → List (UInt8 × UInt8) → Prop
  | bits, [] => (Char.ofNat bits).utf8Size = size
  | bits, (low, high) :: needs =>
      0x80 ≤ low ∧ ∀ byte, low ≤ byte → byte ≤ high →
        Completes size (64 * bits + (byte &&& 0x3F).toNat) needs

/-- An open character of which some bytes are read: those that it needs make
it a character of all of them. -/
structure Opened (opened : Partial) (read : Nat) : Prop where
  started : 1 ≤ read
  needy : opened.needs ≠ []
  small : read + opened.needs.length ≤ 4
  completes : Completes (read + opened.needs.length) opened.bits opened.needs

/-- The number of bytes read goes with the open character. -/
def Tracks : Option Partial → Nat → Prop
  | none, read => read = 0
  | some opened, read => Opened opened read

/-! ### What a byte begins -/

private theorem toNat_and_mask (byte : UInt8) :
    (byte &&& 0x3F).toNat = byte.toNat % 64 ∧
      (byte &&& 0x1F).toNat = byte.toNat % 32 ∧
      (byte &&& 0x0F).toNat = byte.toNat % 16 ∧
      (byte &&& 0x07).toNat = byte.toNat % 8 := by
  simp only [UInt8.toNat_and]
  exact ⟨Nat.and_two_pow_sub_one_eq_mod _ 6,
    Nat.and_two_pow_sub_one_eq_mod _ 5, Nat.and_two_pow_sub_one_eq_mod _ 4,
    Nat.and_two_pow_sub_one_eq_mod _ 3⟩

theorem utf8Size_one {c : Char} (ascii : c.toNat < 0x80) :
    c.utf8Size = 1 := by
  rw [utf8Size_eq, if_pos (by omega)]

/-- A character completes when it does with each value of its next byte. -/
theorem completes_cons {size bits : Nat} {low high : UInt8}
    {needs : List (UInt8 × UInt8)} (starts : 0x80 ≤ low) (ends : high ≤ 0xBF)
    (next : ∀ value, low.toNat ≤ value + 128 → value + 128 ≤ high.toNat →
      Completes size (64 * bits + value) needs) :
    Completes size bits ((low, high) :: needs) := by
  refine ⟨starts, fun byte first last => ?_⟩
  obtain ⟨six, -⟩ := toNat_and_mask byte
  rw [UInt8.le_iff_toNat_le] at starts ends first last
  have lowest : (0x80 : UInt8).toNat = 128 := rfl
  have highest : (0xBF : UInt8).toNat = 191 := rfl
  rw [six]
  exact next _ (by omega) (by omega)

section Continuations

variable {bits : Nat}

/-- A last byte completes a character if each of its values gives one of the
size. -/
theorem completes_last {size : Nat}
    (sized : ∀ value < 64, (64 * bits + value).isValidChar ∧
      (if 64 * bits + value ≤ 0x7F then 1
        else if 64 * bits + value ≤ 0x7FF then 2
        else if 64 * bits + value ≤ 0xFFFF then 3 else 4) = size) :
    Completes size bits [continuation] := by
  apply completes_cons (by decide) (by decide)
  intro value first last
  simp at first last
  obtain ⟨valid, right⟩ := sized value (by omega)
  rwa [Completes, utf8Size_eq, toNat_ofNat valid]

private theorem completes_two (low : 2 ≤ bits) (high : bits < 0x20) :
    Completes 2 bits [continuation] :=
  completes_last fun value small =>
    ⟨.inl (by omega), by rw [if_neg (by omega), if_pos (by omega)]⟩

private theorem completes_three (low : 0x20 ≤ bits) (high : bits < 0x400)
    (plain : bits < 0x360 ∨ 0x37F < bits) :
    Completes 3 bits [continuation] :=
  completes_last fun value small =>
    ⟨by unfold Nat.isValidChar; omega,
      by rw [if_neg (by omega), if_neg (by omega), if_pos (by omega)]⟩

private theorem completes_four (low : 0x400 ≤ bits) (high : bits < 0x4400) :
    Completes 4 bits [continuation] :=
  completes_last fun value small =>
    ⟨.inr (by omega),
      by rw [if_neg (by omega), if_neg (by omega), if_neg (by omega)]⟩

/-- The second byte of four leaves a character that two more complete. -/
theorem completes_four_two (low : 0x10 ≤ bits) (high : bits < 0x110) :
    Completes 4 bits [continuation, continuation] := by
  apply completes_cons (by decide) (by decide)
  intro value first last
  simp at first last
  exact completes_four (by omega) (by omega)

end Continuations

/-- What a byte begins: an ASCII character, nothing that it could, or a
character that needs more bytes. -/
inductive Leads (byte : UInt8) : List Char × Option Partial → Prop
  | ascii (small : byte < 0x80) : Leads byte ([Char.ofNat byte.toNat], none)
  | nothing (large : 0x80 ≤ byte) (replaced : stray byte = 2) :
      Leads byte ([replacement], none)
  | opens (large : 0x80 ≤ byte) (kept : stray byte = 0) {opened : Partial}
      (starts : Opened opened 1) : Leads byte ([], some opened)

section FirstBytes

variable {byte : UInt8} {bits : Nat} {needs : List (UInt8 × UInt8)}

/-- A first byte of a character is none that is replaced. -/
theorem leads_opened (low : 0xC2 ≤ byte.toNat) (high : byte.toNat ≤ 0xF4)
    (needy : needs ≠ []) (few : needs.length ≤ 3)
    (completes : Completes (1 + needs.length) bits needs) :
    Leads byte ([], some ⟨bits, needs⟩) := by
  apply Leads.opens
  · rw [UInt8.le_iff_toNat_le]
    exact Nat.le_trans (by decide) low
  · unfold stray
    simp only [UInt8.lt_iff_toNat_lt, UInt8.reduceToNat]
    rw [if_neg (by omega), if_neg (by omega)]
  · exact ⟨Nat.le_refl 1, needy, by dsimp only; omega, completes⟩

/-- A first byte opens a character if what it needs after a second byte of
the range completes it. -/
theorem leads_range {first last : UInt8} (low : 0xC2 ≤ byte.toNat)
    (high : byte.toNat ≤ 0xF4) (few : needs.length ≤ 2)
    (starts : 0x80 ≤ first) (ends : last ≤ 0xBF)
    (next : ∀ value, first.toNat ≤ value + 128 → value + 128 ≤ last.toNat →
      Completes (needs.length + 2) (64 * bits + value) needs) :
    Leads byte ([], some ⟨bits, (first, last) :: needs⟩) := by
  apply leads_opened low high
  case needy => simp
  case few => exact Nat.succ_le_succ few
  case completes =>
    rw [List.length_cons, Nat.add_comm 1]
    exact completes_cons starts ends next

end FirstBytes

private theorem lead_spec (byte : UInt8) : Leads byte (lead byte) := by
  obtain ⟨-, five, four, three⟩ := toNat_and_mask byte
  simp only [lead, five, four, three, UInt8.lt_iff_toNat_lt,
    ← UInt8.toNat_inj, UInt8.reduceToNat]
  split_ifs with ascii early two E0 ED others F0 F1 F4
  · exact .ascii (UInt8.lt_iff_toNat_lt.mpr ascii)
  · apply Leads.nothing
    · rw [UInt8.le_iff_toNat_le]
      exact Nat.le_of_not_lt ascii
    · simp only [stray, UInt8.lt_iff_toNat_lt, UInt8.reduceToNat]
      rw [if_neg ascii, if_pos (.inl early)]
  · exact leads_opened (by omega) (by omega) (by simp) (by simp)
      (completes_two (by omega) (by omega))
  · apply leads_range (by omega) (by omega) (by decide) (by decide) (by decide)
    intro value least most
    simp at least most
    exact completes_three (by omega) (by omega) (by omega)
  · apply leads_range (by omega) (by omega) (by decide) (by decide) (by decide)
    intro value least most
    simp at least most
    exact completes_three (by omega) (by omega) (by omega)
  · apply leads_range (by omega) (by omega) (by decide) (by decide) (by decide)
    intro value least most
    simp at least most
    exact completes_three (by omega) (by omega) (by omega)
  · apply leads_range (by omega) (by omega) (by decide) (by decide) (by decide)
    intro value least most
    simp at least most
    exact completes_four_two (by omega) (by omega)
  · apply leads_range (by omega) (by omega) (by decide) (by decide) (by decide)
    intro value least most
    simp at least most
    exact completes_four_two (by omega) (by omega)
  · apply leads_range (by omega) (by omega) (by decide) (by decide) (by decide)
    intro value least most
    simp at least most
    exact completes_four_two (by omega) (by omega)
  · apply Leads.nothing
    · rw [UInt8.le_iff_toNat_le]
      exact Nat.le_of_not_lt ascii
    · simp only [stray, UInt8.lt_iff_toNat_lt, UInt8.reduceToNat]
      rw [if_neg ascii, if_pos (.inr (by omega))]

/-! ### What a byte brings -/

section Steps

variable {state : Option Partial} {read : Nat}

/-- What the decoder makes of one more byte. -/
inductive Steps (state : Option Partial) (read : Nat) (byte : UInt8) :
    List Char × Option Partial → Prop
  | begins (breaksOff : continues state byte = false) {text : List Char}
      {next : Option Partial} (leads : Leads byte (text, next)) :
      Steps state read byte
        ((if state.isSome then [replacement] else []) ++ text, next)
  | completes (goesOn : continues state byte = true) (large : 0x80 ≤ byte)
      (started : 1 ≤ read) {c : Char} (size : c.utf8Size = read + 1) :
      Steps state read byte ([c], none)
  | stays (goesOn : continues state byte = true) (large : 0x80 ≤ byte)
      {opened : Partial} (tracks : Opened opened (read + 1)) :
      Steps state read byte ([], some opened)

theorem decodeByte_spec (tracks : Tracks state read) (byte : UInt8) :
    Steps state read byte (decodeByte state byte) := by
  have leads := lead_spec byte
  cases state with
  | none => exact @Steps.begins none read byte rfl _ _ leads
  | some opened =>
      obtain ⟨bits, needs⟩ := opened
      obtain ⟨started, needy, small, completes⟩ := tracks
      dsimp only at needy small completes
      cases needs with
      | nil => exact absurd rfl needy
      | cons range needs =>
          obtain ⟨low, high⟩ := range
          obtain ⟨starts, next⟩ := completes
          by_cases goesOn : low ≤ byte ∧ byte ≤ high
          · have continuing :
                continues (some ⟨bits, (low, high) :: needs⟩) byte = true := by
              simp [continues, goesOn]
            have large := UInt8.le_trans starts goesOn.1
            have completes := next byte goesOn.1 goesOn.2
            rw [decodeByte, if_pos goesOn]
            cases needs with
            | nil => exact .completes continuing large started completes
            | cons range needs =>
                refine .stays continuing large ⟨by omega, nofun, ?_, ?_⟩
                · simp only [List.length_cons] at small ⊢
                  omega
                · simpa [Nat.add_assoc, Nat.add_comm 1] using completes
          · have stopped :
                continues (some ⟨bits, (low, high) :: needs⟩) byte = false := by
              simpa [continues] using goesOn
            rw [decodeByte, if_neg goesOn]
            exact @Steps.begins _ read _ stopped _ _ leads

private theorem size_replacement : replacement.utf8Size = 3 := by
  decide

private theorem size_ascii {byte : UInt8} (small : byte < 0x80) :
    (Char.ofNat byte.toNat).utf8Size = 1 := by
  simp only [UInt8.lt_iff_toNat_lt, UInt8.reduceToNat] at small
  apply utf8Size_one
  rwa [toNat_ofNat (.inl (by omega))]

/-- A character that is broken off takes what was read of it, and what its
replacement adds. -/
theorem size_brokenOff (tracks : Tracks state read) :
    (encode (if state.isSome then [replacement] else [])).length =
      read + brokenOff state read := by
  cases state with
  | none =>
      have nothing : read = 0 := tracks
      simp [nothing, brokenOff]
  | some opened =>
      have needed := List.length_pos_iff.mpr tracks.needy
      have small := tracks.small
      simp [brokenOff, size_replacement]
      omega

theorem size_leads {byte : UInt8} {text : List Char} {next : Option Partial}
    (leads : Leads byte (text, next)) :
    (encode text).length + (if next.isNone then 0 else 1) =
        1 + stray byte ∧
      Tracks next (if next.isNone then 0 else 1) := by
  cases leads with
  | ascii small => simp [Tracks, stray, small, size_ascii]
  | nothing large replaced => simp [Tracks, replaced, size_replacement]
  | opens large kept opened => simp [Tracks, kept, opened]

/-- The text that a byte brings takes the bytes that were read of it, and what
its replacements add. -/
theorem size_decodeByte (tracks : Tracks state read) (byte : UInt8) :
    (encode (decodeByte state byte).1).length + readNext state read byte =
        read + 1 + (if continues state byte then 0
          else brokenOff state read + stray byte) ∧
      Tracks (decodeByte state byte).2 (readNext state read byte) := by
  have steps := decodeByte_spec tracks byte
  unfold readNext
  generalize decodeByte state byte = result at steps
  cases steps with
  | begins breaksOff leads =>
      obtain ⟨size, next⟩ := size_leads leads
      have before := size_brokenOff tracks
      simp only [breaksOff, encode_append, List.length_append, before,
        Bool.false_eq_true, if_false]
      exact ⟨by omega, next⟩
  | completes goesOn large started size =>
      simp [goesOn, size, Tracks]
  | stays goesOn large opened =>
      simp [goesOn, Tracks, opened]

/-- Decoded bytes take as much room as the bytes, and what the replacements
add. -/
theorem length_encode_decodeFrom (tracks : Tracks state read)
    (bytes : PyBytes) :
    (encode (decodeFrom state bytes)).length =
      read + bytes.length + added state read bytes := by
  induction bytes generalizing state read with
  | nil => exact size_brokenOff tracks
  | cons byte rest inductionHypothesis =>
      obtain ⟨size, next⟩ := size_decodeByte tracks byte
      have later := inductionHypothesis next
      simp only [decodeFrom, encode_append, List.length_append, later, added,
        List.length_cons]
      omega

/-- Only no bytes are decoded to an empty text. -/
theorem decodeReplace_eq_empty (bytes : PyBytes) :
    bytes.decodeReplace = "" ↔ bytes = [] := by
  constructor
  · intro decoded
    have start : Tracks none 0 := rfl
    have size := length_encode_decodeFrom start bytes
    have nothing : decodeFrom none bytes = [] := by
      simpa [decodeReplace] using congrArg String.toList decoded
    rw [nothing, encode_nil, List.length_nil] at size
    exact List.length_eq_zero_iff.mp (by omega)
  · intro empty
    rw [empty]
    rfl

/-! ### Decoding keeps the ASCII characters -/

variable {measure : Char → Nat}

theorem measure_large (ascii : ∀ c : Char, 0x80 ≤ c.toNat → measure c = 0)
    {byte : UInt8} (large : 0x80 ≤ byte) :
    measure (Char.ofNat byte.toNat) = 0 := by
  apply ascii
  have small := byte.toNat_lt
  simp only [UInt8.le_iff_toNat_le, UInt8.reduceToNat] at large
  rw [toNat_ofNat (.inl (by omega))]
  exact large

private theorem sum_leads (ascii : ∀ c : Char, 0x80 ≤ c.toNat → measure c = 0)
    {byte : UInt8} {text : List Char} {next : Option Partial}
    (leads : Leads byte (text, next)) :
    (text.map measure).sum = measure (Char.ofNat byte.toNat) := by
  cases leads with
  | ascii small => simp
  | nothing large replaced =>
      have replaced : measure replacement = 0 := ascii _ (by decide)
      simp [replaced, measure_large ascii large]
  | opens large kept opened => simp [measure_large ascii large]

theorem sum_decodeByte (ascii : ∀ c : Char, 0x80 ≤ c.toNat → measure c = 0)
    (tracks : Tracks state read) (byte : UInt8) :
    ((decodeByte state byte).1.map measure).sum =
      measure (Char.ofNat byte.toNat) := by
  have steps := decodeByte_spec tracks byte
  generalize decodeByte state byte = result at steps
  cases steps with
  | begins breaksOff leads =>
      have replaced : measure replacement = 0 := ascii _ (by decide)
      rw [List.map_append, List.sum_append, sum_leads ascii leads]
      split <;> simp [replaced]
  | completes goesOn large started size =>
      rename_i c
      have several : 0x80 ≤ c.toNat := by
        by_contra small
        have one := utf8Size_one (Nat.lt_of_not_le small)
        omega
      simp [ascii c several, measure_large ascii large]
  | stays goesOn large opened => simp [measure_large ascii large]

/-- What counts ASCII characters alone counts as much in the bytes as in the
decoded text. -/
theorem sum_decodeFrom (ascii : ∀ c : Char, 0x80 ≤ c.toNat → measure c = 0)
    (tracks : Tracks state read) (bytes : PyBytes) :
    ((decodeFrom state bytes).map measure).sum =
      (bytes.map fun byte => measure (Char.ofNat byte.toNat)).sum := by
  induction bytes generalizing state read with
  | nil =>
      have replaced : measure replacement = 0 := ascii _ (by decide)
      simp only [decodeFrom]
      split <;> simp [replaced]
  | cons byte rest inductionHypothesis =>
      have here := sum_decodeByte ascii tracks byte
      have later := inductionHypothesis (size_decodeByte tracks byte).2
      simp [decodeFrom, here, later]

end Steps

end PyBytes
