/-
Module: Integr8s.Lib.PythonBytes
Purpose: The parts of Python's bytes handling that a parser of framed output
  uses: slices with any bounds, the search for a part, the conversion int() of
  bytes, and UTF-8 decoding that replaces what it cannot decode.
Trusted boundary: human-reviewed spec
Main exports: PyBytes, PyBytes.slice, PyBytes.index, PyBytes.parseInt,
  PyBytes.decodeReplace, PyBytes.index_at, PyBytes.slice_middle
-/
import Integr8s.Lib.PythonText

abbrev PyBytes := List UInt8

namespace PyBytes

/-- The bytes of a text that is all ASCII. -/
def ofAscii (text : String) : PyBytes :=
  text.toList.map fun c => UInt8.ofNat c.toNat

/-- A bound of a slice as a position: a negative one counts from the end, and
every bound is moved into the bytes. -/
def position (bytes : PyBytes) (bound : Int) : Nat :=
  if bound < 0 then (bound + bytes.length).toNat
  else min bound.toNat bytes.length

/-- `bytes[start:stop]`. -/
def slice (bytes : PyBytes) (start stop : Int) : PyBytes :=
  (bytes.take (position bytes stop)).drop (position bytes start)

/-- The first place at which a part stands. -/
def search (part : PyBytes) : PyBytes → Option Nat
  | [] => if part.isEmpty then some 0 else none
  | byte :: rest =>
      if part.isPrefixOf (byte :: rest) then some 0
      else (search part rest).map (· + 1)

/-- `bytes.index(part, start)`, or `none` where it raises `ValueError`. -/
def index (bytes : PyBytes) (part : PyBytes) (start : Int) : Option Nat :=
  (search part (bytes.drop (position bytes start))).map
    (· + position bytes start)

/-- `int(bytes)`, or `none` where it raises `ValueError`: only ASCII digits
count. -/
def parseInt (bytes : PyBytes) : Option Int :=
  PyText.parseInt (bytes.map fun byte =>
    if byte < 127 then Char.ofNat byte.toNat else '?')

/-! ### Slices and places in joined bytes -/

private theorem position_natCast (bytes : PyBytes) (n : Nat) :
    position bytes n = min n bytes.length := by
  rw [position, if_neg (by omega), Int.toNat_natCast]

theorem search_append (part rest : PyBytes) :
    search part (part ++ rest) = some 0 := by
  cases part with
  | nil => cases rest <;> simp [search]
  | cons byte part => simp [search]

theorem search_byte {byte : UInt8} {before rest : PyBytes}
    (absent : byte ∉ before) :
    search [byte] (before ++ byte :: rest) = some before.length := by
  induction before with
  | nil => simp [search]
  | cons other before inductionHypothesis =>
      have different : byte ≠ other := fun same => absent (by simp [same])
      have later := inductionHypothesis fun member => absent (by simp [member])
      simp [search, different, later]

theorem index_at {before part rest : PyBytes} {start : Int} {found : Nat}
    (here : start = before.length) (searched : search part rest = some found) :
    index (before ++ rest) part start = some (before.length + found) := by
  subst here
  simp [index, position_natCast, searched, Nat.add_comm]

theorem slice_middle {before middle after : PyBytes} {start stop : Int}
    (starts : start = before.length)
    (stops : stop = before.length + middle.length) :
    slice (before ++ (middle ++ after)) start stop = middle := by
  subst starts stops
  have whole : ((before.length : Int) + middle.length) =
      ((before.length + middle.length : Nat) : Int) := by simp
  rw [slice, whole, position_natCast, position_natCast]
  simp only [List.length_append]
  rw [Nat.min_eq_left (by omega), Nat.min_eq_left (by omega)]
  rw [List.take_append]
  simp

theorem parseInt_ofAscii {text : String}
    (ascii : ∀ c ∈ text.toList, c.toNat < 127) :
    parseInt (ofAscii text) = PyText.parseInt text.toList := by
  have same : (ofAscii text).map (fun byte =>
      if byte < 127 then Char.ofNat byte.toNat else '?') = text.toList := by
    rw [ofAscii, List.map_map]
    conv => rhs; rw [← List.map_id text.toList]
    apply List.map_congr_left
    intro c member
    have small := ascii c member
    have kept : (UInt8.ofNat c.toNat).toNat = c.toNat := by
      simp; omega
    have below : UInt8.ofNat c.toNat < 127 := by
      rw [UInt8.lt_iff_toNat_lt, kept]
      exact small
    simp only [Function.comp, below, if_true, kept, id, Char.ofNat_toNat]
  rw [parseInt, same]

/-! ### UTF-8 -/

/-- A character whose first bytes are read: its bits so far and the ranges of
the continuation bytes that it still needs. -/
structure Partial where
  bits : Nat
  needs : List (UInt8 × UInt8)
deriving DecidableEq, Repr

/-- What the decoder puts in place of bytes that are no character. -/
def replacement : Char := Char.ofNat 0xFFFD

/-- Any continuation byte. -/
def continuation : UInt8 × UInt8 := (0x80, 0xBF)

/-- The first byte of a character: the characters it completes, and what it
leaves open.  The ranges rule out overlong forms and surrogates. -/
def lead (byte : UInt8) : List Char × Option Partial :=
  let starts (bits : UInt8) (needs : List (UInt8 × UInt8)) :
      List Char × Option Partial :=
    ([], some ⟨(byte &&& bits).toNat, needs⟩)
  if byte < 0x80 then ([Char.ofNat byte.toNat], none)
  else if byte < 0xC2 then ([replacement], none)
  else if byte < 0xE0 then starts 0x1F [continuation]
  else if byte = 0xE0 then starts 0x0F [(0xA0, 0xBF), continuation]
  else if byte = 0xED then starts 0x0F [(0x80, 0x9F), continuation]
  else if byte < 0xF0 then starts 0x0F [continuation, continuation]
  else if byte = 0xF0 then
    starts 0x07 [(0x90, 0xBF), continuation, continuation]
  else if byte < 0xF4 then
    starts 0x07 [continuation, continuation, continuation]
  else if byte = 0xF4 then
    starts 0x07 [(0x80, 0x8F), continuation, continuation]
  else ([replacement], none)

/-- One more byte: it goes on with the open character, or replaces what was
read of it and starts another one. -/
def decodeByte (state : Option Partial) (byte : UInt8) :
    List Char × Option Partial :=
  match state with
  | none => lead byte
  | some ⟨bits, (low, high) :: needs⟩ =>
      if low ≤ byte ∧ byte ≤ high then
        let bits := 64 * bits + (byte &&& 0x3F).toNat
        if needs.isEmpty then ([Char.ofNat bits], none)
        else ([], some ⟨bits, needs⟩)
      else (replacement :: (lead byte).1, (lead byte).2)
  | some ⟨_, []⟩ => lead byte

/-- The rest of a text, with the character left open so far. -/
def decodeFrom (state : Option Partial) : PyBytes → List Char
  | [] => if state.isSome then [replacement] else []
  | byte :: rest =>
      (decodeByte state byte).1 ++ decodeFrom (decodeByte state byte).2 rest

/-- `bytes.decode(errors="replace")`. -/
def decodeReplace (bytes : PyBytes) : String :=
  String.ofList (decodeFrom none bytes)

example : decodeReplace [0x68, 0xC3, 0xA9, 0xE2, 0x82, 0x41, 0xFF] =
    String.ofList ['h', 'é', replacement, 'A', replacement] := by decide

end PyBytes
