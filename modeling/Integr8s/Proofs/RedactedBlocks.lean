/-
Module: Integr8s.Proofs.RedactedBlocks
Purpose: What the first two redaction patterns do to a block of base64url
  characters and dots: the key pattern leaves out all of it or nothing, and the
  Bearer pattern its first segment or nothing.
Trusted boundary: none
Main exports: RedactedBlocks.LeavesOut, RedactedBlocks.block_kept,
  RedactedBlocks.key_block, RedactedBlocks.bearer_block
-/
import Integr8s.Proofs.RedactionRules
import Mathlib.Data.List.Flatten

namespace Integr8s

namespace RedactedBlocks

open Regex Logging RedactionRules

/-- The matches of a pattern in a traced text. -/
def matchesOf (rule : SensitivePattern) (text : List Letter) :
    List (Match Letter) :=
  finditer (comap Letter.char rule.pattern) text

/-- A match of a pattern covers a letter, and its replacement doesn't keep
it. -/
def LeavesOut (rule : SensitivePattern) (text : List Letter)
    (letter : Letter) : Prop :=
  ∃ hit ∈ matchesOf rule text,
    letter ∈ hit.text ∧ letter ∉ rule.replacement Letter.made hit

instance (rule : SensitivePattern) (text : List Letter) (letter : Letter) :
    Decidable (LeavesOut rule text letter) :=
  inferInstanceAs (Decidable (∃ hit ∈ _, _))

/-- A traced text after a pattern. -/
abbrev after (rule : SensitivePattern) (text : List Letter) : List Letter :=
  rule.sub Letter.char Letter.made text

/-- The last letter of a text is no part of a block. -/
def EndsApart (text : List Letter) : Prop :=
  ∀ letter ∈ text.getLast?, inBlock letter.char = false

/-- The first letter of a text is no part of a block. -/
def StartsApart (text : List Letter) : Prop :=
  ∀ letter ∈ text.head?, inBlock letter.char = false

/-! ### Letters that are kept -/

section Letters

variable {rule : SensitivePattern} {text : List Letter} {letter : Letter}
  {hit : Match Letter}

/-- What is put in was not there at first. -/
theorem not_mem_marker (traced : letter.origin ≠ none) (marker : String) :
    letter ∉ marker.toList.map Letter.made := by
  intro member
  obtain ⟨c, -, rfl⟩ := List.mem_map.mp member
  exact traced rfl

/-- A replacement keeps letters of its match and puts its marker in. -/
theorem mem_replacement (among : hit ∈ matchesOf rule text)
    (member : letter ∈ rule.replacement Letter.made hit) :
    letter ∈ hit.text ∨ letter ∈ rule.marker.toList.map Letter.made := by
  have captures : ∀ index : Option Nat,
      letter ∈ (index.map hit.captured).getD [] → letter ∈ hit.text := by
    intro index inside
    cases index with
    | none => cases inside
    | some index =>
        exact ((scan_pieces _ text).captured (mem_finditer.mp among)
          index).subset inside
  rcases List.mem_append.mp member with member | back
  · rcases List.mem_append.mp member with front | marker
    · exact .inl (captures _ front)
    · exact .inr marker
  · exact .inl (captures _ back)

private theorem mem_of_mem_replacement (traced : letter.origin ≠ none)
    (among : hit ∈ matchesOf rule text)
    (member : letter ∈ rule.replacement Letter.made hit) :
    letter ∈ hit.text :=
  (mem_replacement among member).resolve_right (not_mem_marker traced _)

/-- A pattern puts nothing in but its marker. -/
theorem mem_after (member : letter ∈ after rule text) :
    letter ∈ text ∨ letter ∈ rule.marker.toList.map Letter.made := by
  rcases mem_sub member with inside | ⟨hit, among, inside⟩
  · exact .inl inside
  · exact (mem_replacement among inside).imp_left
      fun inside => (infix_of_mem_finditer among).subset inside

theorem mem_of_mem_after (traced : letter.origin ≠ none)
    (member : letter ∈ after rule text) : letter ∈ text :=
  (mem_after member).resolve_right (not_mem_marker traced _)

/-- What a pattern leaves out is gone. -/
theorem LeavesOut.not_mem (left : LeavesOut rule text letter)
    (traced : letter.origin ≠ none) (unique : text.Nodup) :
    letter ∉ after rule text := by
  obtain ⟨hit, among, inside, dropped⟩ := left
  exact not_mem_sub unique
    (fun _ among => mem_of_mem_replacement traced among) among inside dropped

end Letters

/-! ### The fronts of matches -/

section Fronts

/-- A match begins with a front that its replacement keeps, and the front ends
with letters that are no part of a block. -/
structure Fronted (rule : SensitivePattern) (hit : Match Letter)
    (front dropped more : List Letter) : Prop where
  text : hit.text = front ++ dropped
  replaced : rule.replacement Letter.made hit = front ++ more
  closed : ∃ name closing, front = name ++ closing ∧ closing ≠ [] ∧
    ∀ letter ∈ closing, inBlock letter.char = false

/-- Every match of a pattern begins with such a front. -/
def Fronts (rule : SensitivePattern) : Prop :=
  ∀ {tail before text : List Letter} {found : List (Piece Letter)}
    {hit : Match Letter},
    Scan (comap Letter.char rule.pattern) tail before text found →
      .matched hit ∈ found →
        ∃ front dropped more, Fronted rule hit front dropped more

private theorem fronts_of_first {rule : SensitivePattern}
    (parts : ∀ {before rest text : List Letter} {groups : _},
      firstMatch (comap Letter.char rule.pattern)
        { before := before, after := text ++ rest } =
          some
            { before := text.reverse ++ before
              after := rest
              groups := groups } →
        ∃ front dropped more,
          Fronted rule ⟨text, groups⟩ front dropped more) : Fronts rule := by
  intro tail before text found hit scan among
  obtain ⟨earlier, later, first⟩ := scan.hit among
  exact parts first

private theorem fronts_key : Fronts keyPattern :=
  fronts_of_first fun first =>
    have ⟨front, _, _, parts⟩ := key_parts first
    ⟨front, _, _, parts.text, parts.replaced, parts.closed⟩

private theorem fronts_bearer : Fronts bearerPattern :=
  fronts_of_first fun first =>
    have ⟨front, _, parts⟩ := bearer_parts first
    ⟨front, _, _, parts.text, parts.replaced, parts.closed⟩

variable {rule : SensitivePattern} {hit : Match Letter}
  {front dropped more : List Letter}

theorem Fronted.ne_nil (fronted : Fronted rule hit front dropped more) :
    front ≠ [] := by
  obtain ⟨name, closing, rfl, some, -⟩ := fronted.closed
  exact List.append_ne_nil_of_right_ne_nil _ some

/-- A front is not within a block. -/
theorem Fronted.leaves (fronted : Fronted rule hit front dropped more)
    {block : List Letter} (inside : ∀ letter ∈ block, inBlock letter.char = true)
    (within : front ⊆ block) : False := by
  obtain ⟨name, closing, rfl, some, apart⟩ := fronted.closed
  obtain ⟨letter, others, rfl⟩ := List.exists_cons_of_ne_nil some
  have among : letter ∈ name ++ letter :: others := by simp
  have here := inside letter (within among)
  rw [apart letter List.mem_cons_self] at here
  cases here

/-- A text with its matches replaced begins as it did. -/
theorem head?_replaced {before text : List Letter}
    {found : List (Piece Letter)} (fronts : Fronts rule)
    (scan : Scan (comap Letter.char rule.pattern) [] before text found) :
    (found.flatMap (Piece.replaced (rule.replacement Letter.made))).head? =
      text.head? := by
  have texts := scan.text
  cases found with
  | nil =>
      rw [← texts]
      rfl
  | cons piece found =>
      cases piece with
      | kept letter =>
          rw [← texts]
          rfl
      | matched hit =>
          obtain ⟨front, dropped, more, fronted⟩ :=
            fronts scan List.mem_cons_self
          rw [← texts, List.flatMap_cons, List.flatMap_cons]
          simp only [Piece.replaced, Piece.text, fronted.replaced,
            fronted.text, List.append_assoc,
            List.head?_append_of_ne_nil _ fronted.ne_nil]

/-- No match stands within a block. -/
theorem kept_within {tail before block : List Letter}
    {found : List (Piece Letter)} (fronts : Fronts rule)
    (scan : Scan (comap Letter.char rule.pattern) tail before block found)
    (inside : ∀ letter ∈ block, inBlock letter.char = true) :
    found.flatMap (Piece.replaced (rule.replacement Letter.made)) = block := by
  rw [flatMap_replaced_of_kept, scan.text]
  intro hit among
  obtain ⟨front, dropped, more, fronted⟩ := fronts scan among
  apply fronted.leaves inside
  intro letter member
  rw [← scan.text]
  apply (infix_of_matched among).subset
  rw [fronted.text]
  exact List.mem_append_left _ member

/-- A block in which a match begins stays as it is. -/
theorem block_kept {before block rest : List Letter}
    {found : List (Piece Letter)} (fronts : Fronts rule)
    (scan : Scan (comap Letter.char rule.pattern) [] before (block ++ rest)
      found)
    (inside : ∀ letter ∈ block, inBlock letter.char = true) :
    ∃ left, found.flatMap (Piece.replaced (rule.replacement Letter.made)) =
      block ++ left ∧ left.head? = rest.head? := by
  cases scan.split rfl with
  | @within earlier later scanBlock goesOn =>
      refine ⟨later.flatMap (Piece.replaced (rule.replacement Letter.made)),
        ?_, head?_replaced fronts goesOn⟩
      rw [List.flatMap_append, kept_within fronts scanBlock inside]
  | @across start begun reached rest groups earlier later parts partsToo leaves
      enters scanStart hit goesOn =>
      subst parts partsToo
      obtain ⟨front, dropped, more, fronted⟩ := fronts scan
        (List.mem_append_right _ List.mem_cons_self)
      have kept := kept_within fronts scanStart fun letter member =>
        inside letter (List.mem_append_left _ member)
      rcases List.append_eq_append_iff.mp fronted.text with
        ⟨excess, same, rfl⟩ | ⟨short, same, -⟩
      · -- The front goes on after the block.
        cases excess with
        | nil =>
            rw [List.append_nil] at same
            exact (fronted.leaves inside (same ▸ by simp)).elim
        | cons letter excess =>
            refine ⟨letter :: excess ++ (more ++ later.flatMap
              (Piece.replaced (rule.replacement Letter.made))), ?_, rfl⟩
            rw [List.flatMap_append, List.flatMap_cons, kept]
            simp only [Piece.replaced, fronted.replaced, same,
              List.append_assoc]
      · have within : front ⊆ start ++ begun := by
          rw [same]
          simp
        exact (fronted.leaves inside within).elim

end Fronts

/-! ### The rule for keys -/

section Keys

/-- Two texts end alike, after the last quote at least. -/
inductive SameEnd : List Letter → List Letter → Prop where
  | whole (text : List Letter) : SameEnd text text
  | quoted {quote : Letter} (first second last : List Letter)
      (isQuote : isQuote quote.char = true) :
      SameEnd (first ++ quote :: last) (second ++ quote :: last)

theorem SameEnd.append_quote {text other : List Letter} {quote : Letter}
    (same : SameEnd text other) (closes : isQuote quote.char = true)
    (first second : List Letter) :
    SameEnd (first ++ [quote] ++ text) (second ++ [quote] ++ other) := by
  cases same with
  | whole =>
      rw [List.append_assoc, List.append_assoc]
      exact .quoted first second text closes
  | quoted left right last isQuote =>
      rw [← List.append_assoc, ← List.append_assoc]
      exact .quoted _ _ last isQuote

theorem SameEnd.cons {text other : List Letter} (same : SameEnd text other)
    (letter : Letter) : SameEnd (letter :: text) (letter :: other) := by
  cases same with
  | whole => exact .whole _
  | quoted first second last isQuote =>
      exact .quoted (letter :: first) (letter :: second) last isQuote

/-- Where every match ends with a quote that its replacement keeps, a text ends
as it did. -/
theorem sameEnd_replaced {rule : SensitivePattern}
    {found : List (Piece Letter)}
    (quoted : ∀ hit, Piece.matched hit ∈ found → ∃ text kept quote,
      hit.text = text ++ [quote] ∧
        rule.replacement Letter.made hit = kept ++ [quote] ∧
          isQuote quote.char = true) :
    SameEnd (found.flatMap Piece.text)
      (found.flatMap (Piece.replaced (rule.replacement Letter.made))) := by
  induction found with
  | nil => exact .whole []
  | cons piece found inductionHypothesis =>
      have later := inductionHypothesis fun hit among =>
        quoted hit (List.mem_cons_of_mem _ among)
      cases piece with
      | kept letter => exact later.cons letter
      | matched hit =>
          obtain ⟨text, kept, quote, ends, endsToo, isQuote⟩ :=
            quoted hit List.mem_cons_self
          rw [List.flatMap_cons, List.flatMap_cons]
          simp only [Piece.text, Piece.replaced, ends, endsToo]
          exact later.append_quote isQuote text kept

variable {left block right : List Letter}

/-- A match of the key pattern that is followed by more text ends with a
quote. -/
theorem quoted_of_more {tail before text : List Letter}
    {found : List (Piece Letter)} {hit : Match Letter}
    (scan : Scan (comap Letter.char keyPattern.pattern) tail before text found)
    (more : tail ≠ []) (among : Piece.matched hit ∈ found) :
    ∃ text kept quote, hit.text = text ++ [quote] ∧
      keyPattern.replacement Letter.made hit = kept ++ [quote] ∧
        isQuote quote.char = true := by
  obtain ⟨earlier, later, first⟩ := scan.hit among
  obtain ⟨front, value, back, parts⟩ := key_parts first
  rcases parts.stops with ⟨-, ends⟩ | ⟨mark, quote, rfl, isQuote, -⟩
  · exact absurd (List.append_eq_nil_iff.mp ends).2 more
  · refine ⟨front ++ (value ++ mark),
      front ++ (keyPattern.marker.toList.map Letter.made ++ mark), quote,
      ?_, ?_, isQuote⟩
    · rw [parts.text]
      simp
    · rw [parts.replaced]
      simp

/-- The first letter of a list that begins another text is the first of it. -/
theorem mem_of_head {first second rest more : List Letter}
    (some : first ≠ []) (someToo : second ≠ [])
    (same : first ++ rest = second ++ more) :
    ∃ letter ∈ first, letter ∈ second := by
  obtain ⟨letter, others, rfl⟩ := List.exists_cons_of_ne_nil some
  obtain ⟨other, remains, rfl⟩ := List.exists_cons_of_ne_nil someToo
  obtain ⟨rfl, -⟩ := List.cons.inj same
  exact ⟨letter, List.mem_cons_self, List.mem_cons_self⟩

/-- The last letter of a text is the last letter of what ends it. -/
theorem mem_of_last {first second rest more : List Letter}
    (some : first ≠ []) (someToo : second ≠ [])
    (same : rest ++ first = more ++ second) :
    ∃ letter ∈ first, letter ∈ second := by
  have reversed := congrArg List.reverse same
  rw [List.reverse_append, List.reverse_append] at reversed
  obtain ⟨letter, among, amongToo⟩ :=
    mem_of_head (List.reverse_ne_nil_iff.mpr some)
      (List.reverse_ne_nil_iff.mpr someToo) reversed
  exact ⟨letter, List.mem_reverse.mp among, List.mem_reverse.mp amongToo⟩

variable {begun reached rest front value back : List Letter} {groups : _}

/-- The front of a match that reaches into a block ends before the block. -/
theorem front_ends (parts : KeyParts ⟨begun ++ reached, groups⟩ rest front value
      back) (same : block ++ right = reached ++ rest)
    (inside : ∀ letter ∈ block, inBlock letter.char = true)
    (dot : ∃ letter ∈ block, letter.char = '.') :
    ∃ more, value ++ back = more ++ reached := by
  rcases List.append_eq_append_iff.mp parts.text with
    ⟨excess, ends, goesOn⟩ | ⟨short, -, goesOn⟩
  · cases excess with
    | nil => exact ⟨[], goesOn.symm⟩
    | cons letter excess =>
        rw [goesOn, List.append_assoc] at same
        rcases List.append_eq_append_iff.mp same with
          ⟨left, covers, -⟩ | ⟨left, covers, -⟩
        · obtain ⟨dot, among, isDot⟩ := dot
          have inFront : dot ∈ front := by
            rw [ends, covers]
            simp [among]
          exact absurd isDot (parts.dotless dot inFront)
        · -- The front would end within the block.
          obtain ⟨name, closing, named, some, apart⟩ := parts.closed
          rw [named] at ends
          obtain ⟨last, amongClosing, amongOver⟩ :=
            mem_of_last some (List.cons_ne_nil letter excess) ends
          have here := inside last (covers ▸ List.mem_append_left _ amongOver)
          rw [apart last amongClosing] at here
          cases here
  · exact ⟨short, goesOn⟩

/-- A match of the key pattern that reaches into a block has all of it in its
value. -/
theorem value_covers (parts : KeyParts ⟨begun ++ reached, groups⟩ rest front
      value back) (enters : reached ≠ [])
    (same : block ++ right = reached ++ rest)
    (inside : ∀ letter ∈ block, inBlock letter.char = true)
    (dot : ∃ letter ∈ block, letter.char = '.') :
    block ⊆ value := by
  obtain ⟨more, goesOn⟩ := front_ends parts same inside dot
  have some : block ≠ [] := by
    obtain ⟨letter, among, -⟩ := dot
    exact List.ne_nil_of_mem among
  have whole : value ++ (back ++ rest) = (more ++ block) ++ right := by
    rw [← List.append_assoc, goesOn, List.append_assoc, List.append_assoc,
      same]
  rcases List.append_eq_append_iff.mp whole with
    ⟨missing, covers, remains⟩ | ⟨excess, covers, -⟩
  · rcases parts.stops with ⟨rfl, rfl⟩ | ⟨mark, quote, endsAt, -, quoting⟩
    · -- The text ends with the value.
      have ends : value = more ++ block := by
        have nothing : missing = [] :=
          (List.append_eq_nil_iff.mp remains.symm).1
        rw [covers, nothing, List.append_nil]
      exact ends ▸ List.subset_append_right _ _
    · have apart : ∀ letter ∈ back, inBlock letter.char = false :=
        fun letter among => not_inBlock_of_isQuoting (quoting letter among)
      have someBack : back ≠ [] := by simp [endsAt]
      rcases List.append_eq_append_iff.mp covers with
        ⟨begins, ends, within⟩ | ⟨begins, ends, within⟩
      · cases missing with
        | nil =>
            rw [List.append_nil] at within
            rw [ends, ← within]
            exact List.subset_append_right _ _
        | cons letter missing =>
            obtain ⟨first, inBack, inMissing⟩ :=
              mem_of_head someBack (List.cons_ne_nil letter missing) remains
            have here := inside first
              (within ▸ List.mem_append_right _ inMissing)
            rw [apart first inBack] at here
            cases here
      · rw [ends, List.append_assoc] at goesOn
        obtain ⟨first, inReached, inBlock⟩ := mem_of_head enters some same.symm
        have here := inside first inBlock
        rw [apart first (List.append_cancel_left goesOn ▸
          List.mem_append_right _ inReached)] at here
        cases here
  · rw [covers]
    intro letter among
    simp [among]

/-- What the value of a match covers is left out. -/
theorem leavesOut_of_value {text : List Letter} {hit : Match Letter}
    {letter : Letter} (parts : KeyParts hit rest front value back)
    (unique : text.Nodup) (among : .matched hit ∈
      pieces (comap Letter.char keyPattern.pattern) text)
    (traced : letter.origin ≠ none) (member : letter ∈ value) :
    LeavesOut keyPattern text letter := by
  have once : (front ++ (value ++ back)).Nodup := by
    rw [← parts.text]
    have within := (infix_of_matched among).sublist
    rw [(scan_pieces _ text).text] at within
    exact within.nodup unique
  rw [List.nodup_append, List.nodup_append] at once
  obtain ⟨-, ⟨-, -, apartBack⟩, apartFront⟩ := once
  refine ⟨hit, mem_finditer.mpr among, ?_, ?_⟩
  · rw [parts.text]
    simp [member]
  · rw [parts.replaced]
    intro kept
    rcases List.mem_append.mp kept with inFront | kept
    · exact apartFront letter inFront letter
        (List.mem_append_left _ member) rfl
    · rcases List.mem_append.mp kept with marker | inBack
      · exact not_mem_marker traced _ marker
      · exact apartBack letter member letter inBack rfl

/-- The key pattern leaves out a block with a dot, or the block stays and the
text before it ends as it did. -/
theorem key_block (unique : (left ++ (block ++ right)).Nodup)
    (traced : ∀ letter ∈ block, letter.origin ≠ none)
    (inside : ∀ letter ∈ block, inBlock letter.char = true)
    (dot : ∃ letter ∈ block, letter.char = '.') :
    (∀ letter ∈ block,
      LeavesOut keyPattern (left ++ (block ++ right)) letter) ∨
    ∃ before later, after keyPattern (left ++ (block ++ right)) =
      before ++ (block ++ later) ∧ SameEnd left before ∧
        later.head? = right.head? := by
  have scan := scan_pieces (comap Letter.char keyPattern.pattern)
    (left ++ (block ++ right))
  generalize pieces : pieces _ _ = found at scan
  have replaced : after keyPattern (left ++ (block ++ right)) =
      found.flatMap (Piece.replaced (keyPattern.replacement Letter.made)) := by
    rw [← pieces]
    rfl
  cases scan.split rfl with
  | @within earlier more scanLeft goesOn =>
      obtain ⟨later, stays, begins⟩ := block_kept fronts_key goesOn inside
      have some : block ++ right ≠ [] := by
        obtain ⟨letter, among, -⟩ := dot
        exact List.ne_nil_of_mem (List.mem_append_left _ among)
      have same := sameEnd_replaced fun hit among =>
        quoted_of_more scanLeft some among
      rw [scanLeft.text] at same
      refine .inr ⟨_, later, ?_, same, begins⟩
      rw [replaced, List.flatMap_append, stays]
  | @across start begun reached rest groups found more parts partsToo leaves
      enters scan hit goesOn =>
      rw [partsToo, ← List.append_assoc] at hit
      obtain ⟨front, value, back, hitParts⟩ := key_parts hit
      have covers := value_covers hitParts enters partsToo inside dot
      refine .inl fun letter member => leavesOut_of_value hitParts unique ?_
        (traced letter member) (covers member)
      rw [pieces]
      exact List.mem_append_right _ List.mem_cons_self

end Keys

/-! ### The rule for Bearer tokens -/

section Bearers

/-- No match of the Bearer pattern begins before the end of a text and goes on
after it: the text is empty or ends with a quote. -/
inductive Closed : List Letter → Prop where
  | empty : Closed []
  | quoted (text : List Letter) {quote : Letter}
      (isQuote : isQuote quote.char = true) : Closed (text ++ [quote])

/-- Two texts that end alike can be cut before what they share. -/
theorem SameEnd.cut {text other : List Letter} (same : SameEnd text other) :
    ∃ first second last, text = first ++ last ∧ other = second ++ last ∧
      Closed first ∧ Closed second := by
  cases same with
  | whole => exact ⟨[], [], text, rfl, rfl, .empty, .empty⟩
  | quoted first second last isQuote =>
      exact ⟨_, _, last, by simp, by simp, .quoted first isQuote,
        .quoted second isQuote⟩

/-- What the Bearer pattern doesn't accept. -/
theorem alien_of_isQuote {c : Char} (quote : isQuote c = true) :
    ¬ (isBase64 c = true ∨ PyText.isSpace c = true) := by
  simp only [isQuote, Bool.or_eq_true, beq_iff_eq] at quote
  rcases quote with rfl | rfl
  · decide
  · decide

private theorem alien_dot {dot : Letter} (isDot : dot.char = '.') :
    ¬ (isBase64 dot.char = true ∨ PyText.isSpace dot.char = true) := by
  rw [isDot]
  decide

variable {first second last : List Letter} {dot : Letter} {hit : Match Letter}

theorem Closed.after_append (closed : Closed first) :
    after bearerPattern (first ++ second) =
      after bearerPattern first ++ after bearerPattern second := by
  apply sub_append_of_last (plain_bearer.comap Letter.char)
    (over_bearer.comap Letter.char)
  cases closed with
  | empty => nofun
  | quoted text isQuote =>
      intro token ends
      rw [List.getLast?_concat] at ends
      cases ends
      exact alien_of_isQuote isQuote

theorem Closed.mem_matchesOf (closed : Closed first)
    (among : hit ∈ matchesOf bearerPattern second) :
    hit ∈ matchesOf bearerPattern (first ++ second) := by
  cases closed with
  | empty => exact among
  | quoted text isQuote =>
      unfold matchesOf
      rw [List.append_assoc, List.singleton_append,
        finditer_cut (plain_bearer.comap Letter.char)
          (over_bearer.comap Letter.char) (alien_of_isQuote isQuote)]
      exact List.mem_append_right _ among

private theorem endsApart_append (apart : EndsApart first)
    (apartToo : EndsApart second) : EndsApart (first ++ second) := by
  intro letter ends
  rw [List.getLast?_append] at ends
  cases last : second.getLast? with
  | none =>
      rw [last] at ends
      exact apart letter ends
  | some other =>
      rw [last] at ends
      exact apartToo letter (last.trans ends)

theorem endsApart_of_append (apart : EndsApart second) (some : second ≠ []) :
    EndsApart (first ++ second) := by
  intro letter ends
  rw [List.getLast?_append_of_ne_nil _ some] at ends
  exact apart letter ends

/-- After the Bearer pattern a closed text ends apart from what follows. -/
theorem Closed.endsApart (closed : Closed first) :
    EndsApart (after bearerPattern first) := by
  cases closed with
  | empty => nofun
  | @quoted text quote isQuote =>
      intro letter ends
      unfold after SensitivePattern.sub at ends
      rw [sub_cut (plain_bearer.comap Letter.char)
        (over_bearer.comap Letter.char) (alien_of_isQuote isQuote)] at ends
      have same : quote = letter := by
        simpa [sub, pieces, piecesFrom] using ends
      exact same ▸ not_inBlock_of_isQuote isQuote

/-- A marker is no part of a block at its end. -/
theorem endsApart_marker (text : List Letter) : EndsApart
    (text ++ bearerPattern.marker.toList.map Letter.made) := by
  apply endsApart_of_append
  · intro letter ends
    cases ends
    decide
  · decide

/-- A text with its Bearer matches replaced ends apart from what follows, when
it did so before. -/
theorem endsApart_replaced {tail before text : List Letter}
    {found : List (Piece Letter)}
    (scan : Scan (comap Letter.char bearerPattern.pattern) tail before text
      found) (apart : EndsApart text) :
    EndsApart (found.flatMap
      (Piece.replaced (bearerPattern.replacement Letter.made))) := by
  have texts := scan.text
  rcases List.eq_nil_or_concat found with rfl | ⟨earlier, piece, rfl⟩
  · nofun
  · rw [List.concat_eq_append, List.flatMap_append,
      List.flatMap_singleton] at texts ⊢
    cases piece with
    | kept letter =>
        rw [← texts] at apart
        intro other ends
        apply apart
        simpa [Piece.replaced, Piece.text] using ends
    | matched hit =>
        have among : .matched hit ∈ earlier.concat (.matched hit) := by simp
        obtain ⟨_, _, first⟩ := scan.hit among
        obtain ⟨front, value, parts⟩ := bearer_parts first
        simp only [Piece.replaced, parts.replaced]
        rw [← List.append_assoc]
        exact endsApart_marker _

/-- What the Bearer pattern does to base64url characters at the end of a text:
it leaves them as they are, or it leaves them out. -/
theorem bearer_ends {left block : List Letter}
    (unique : (left ++ block).Nodup) (apart : EndsApart left)
    (base64 : ∀ letter ∈ block, isBase64 letter.char = true)
    (traced : ∀ letter ∈ block, letter.origin ≠ none) :
    (∃ kept, after bearerPattern (left ++ block) = kept ++ block ∧
      EndsApart kept) ∨
    (∃ letter ∈ block, LeavesOut bearerPattern (left ++ block) letter) ∧
      EndsApart (after bearerPattern (left ++ block)) := by
  have scan := scan_pieces (comap Letter.char bearerPattern.pattern)
    (left ++ block)
  generalize found : pieces _ _ = all at scan
  have replaced : after bearerPattern (left ++ block) =
      all.flatMap
        (Piece.replaced (bearerPattern.replacement Letter.made)) := by
    rw [← found]
    rfl
  have inside : ∀ letter ∈ block, inBlock letter.char = true :=
    fun letter among => by simp [inBlock, base64 letter among]
  cases scan.split rfl with
  | @within earlier more scanLeft goesOn =>
      refine .inl ⟨_, ?_, endsApart_replaced scanLeft apart⟩
      rw [replaced, List.flatMap_append,
        kept_within fronts_bearer goesOn inside]
  | @across start begun reached rest groups earlier more parts partsToo leaves
      enters scanStart hit goesOn =>
      rw [partsToo, ← List.append_assoc] at hit
      obtain ⟨front, value, hitParts⟩ := bearer_parts hit
      have ends : rest = [] := by
        cases rest with
        | nil => rfl
        | cons letter rest =>
            have stops := hitParts.stops letter rfl
            rw [base64 letter (by simp [partsToo])] at stops
            cases stops
      subst ends
      cases goesOn.eq_nil
      have among : .matched ⟨begun ++ reached, groups⟩ ∈
          pieces (comap Letter.char bearerPattern.pattern) (left ++ block) := by
        rw [found]
        exact List.mem_append_right _ List.mem_cons_self
      refine .inr ⟨?_, ?_⟩
      · obtain ⟨letter, amongReached, amongValue⟩ :=
          mem_of_last enters hitParts.some hitParts.text
        have member : letter ∈ block := by simp [partsToo, amongReached]
        have once : (front ++ value).Nodup := by
          have within := (infix_of_matched among).sublist
          rw [(scan_pieces _ (left ++ block)).text, hitParts.text] at within
          exact within.nodup unique
        refine ⟨letter, member, _, mem_finditer.mpr among,
          List.mem_append_right _ amongReached, ?_⟩
        rw [hitParts.replaced]
        intro kept
        rcases List.mem_append.mp kept with inFront | marker
        · exact (List.nodup_append.mp once).2.2 letter inFront letter
            amongValue rfl
        · exact not_mem_marker (traced letter member) _ marker
      · rw [replaced, List.flatMap_append, List.flatMap_singleton]
        simp only [Piece.replaced, hitParts.replaced]
        rw [← List.append_assoc]
        exact endsApart_marker _

/-- What is left of a block after the Bearer pattern: all of it, or what comes
after its first segment. -/
def remaining (text block : List Letter) : List Letter :=
  if ∃ letter ∈ block, LeavesOut bearerPattern text letter then
    block.dropWhile fun letter => isBase64 letter.char
  else block

/-- The segment that a block begins with, and the dot after it. -/
theorem exists_first {block : List Letter}
    (inside : ∀ letter ∈ block, inBlock letter.char = true)
    (dot : ∃ letter ∈ block, letter.char = '.') :
    ∃ segment dot tail, block = segment ++ dot :: tail ∧ dot.char = '.' ∧
      (∀ letter ∈ segment, isBase64 letter.char = true) ∧
      (block.dropWhile fun letter => isBase64 letter.char) = dot :: tail := by
  cases left : block.dropWhile fun letter => isBase64 letter.char with
  | nil =>
      obtain ⟨dot, among, isDot⟩ := dot
      have base64 := List.dropWhile_eq_nil_iff.mp left dot among
      rw [isDot] at base64
      cases base64
  | cons dot tail =>
      have stops : isBase64 dot.char = false := by
        simpa [left] using List.head?_dropWhile_not
          (fun letter : Letter => isBase64 letter.char) block
      have parts := @List.takeWhile_append_dropWhile _
        (fun letter : Letter => isBase64 letter.char) block
      rw [left] at parts
      refine ⟨_, dot, tail, parts.symm, ?_, fun letter member => ?_, rfl⟩
      · have member := inside dot (parts ▸ by simp)
        simpa [inBlock, stops] using member
      · have base64 := List.mem_takeWhile_imp member
        exact base64

/-- What the Bearer pattern does from the start of a text to a block and after
it: the text is cut before and after the first segment of the block, and the
rest of the block stays. -/
theorem after_bearer_block {first last segment tail : List Letter}
    (closed : Closed first) (isDot : dot.char = '.')
    (inside : ∀ letter ∈ tail, inBlock letter.char = true)
    (more : List Letter) :
    ∃ rest, after bearerPattern
        (first ++ (last ++ (segment ++ dot :: (tail ++ more)))) =
      after bearerPattern first ++
        (after bearerPattern (last ++ segment) ++ dot :: (tail ++ rest)) ∧
      rest.head? = more.head? := by
  obtain ⟨rest, stays, begins⟩ := block_kept fronts_bearer
    (scan_pieces (comap Letter.char bearerPattern.pattern) (tail ++ more))
    inside
  have cut : after bearerPattern
        (last ++ segment ++ dot :: (tail ++ more)) =
      after bearerPattern (last ++ segment) ++
        dot :: after bearerPattern (tail ++ more) :=
    sub_cut (plain_bearer.comap Letter.char) (over_bearer.comap Letter.char)
      (alien_dot isDot)
  refine ⟨rest, ?_, begins⟩
  rw [closed.after_append, ← List.append_assoc last, cut, ← stays]
  rfl

/-- What the Bearer pattern does to a block, in a text that ends before it as
the one does in which the matches are looked for. -/
theorem bearer_block {left block right before later : List Letter}
    (unique : (left ++ (block ++ right)).Nodup)
    (traced : ∀ letter ∈ block, letter.origin ≠ none)
    (inside : ∀ letter ∈ block, inBlock letter.char = true)
    (dotted : ∃ letter ∈ block, letter.char = '.')
    (apart : EndsApart left) (same : SameEnd left before) :
    ∃ first last, after bearerPattern (before ++ (block ++ later)) =
      first ++ (remaining (left ++ (block ++ right)) block ++ last) ∧
        EndsApart first ∧ last.head? = later.head? := by
  obtain ⟨first, second, last, rfl, rfl, closed, closedToo⟩ := same.cut
  obtain ⟨segment, dot, tail, rfl, isDot, base64, drops⟩ :=
    exists_first inside dotted
  have tailInside : ∀ letter ∈ tail, inBlock letter.char = true :=
    fun letter among => inside letter (by simp [among])
  have segmentTraced : ∀ letter ∈ segment, letter.origin ≠ none :=
    fun letter among => traced letter (by simp [among])
  have apartLast : EndsApart last := by
    cases last with
    | nil => nofun
    | cons letter last =>
        intro other ends
        apply apart
        rwa [List.getLast?_append_of_ne_nil _ (List.cons_ne_nil letter last)]
  obtain ⟨rest, goesOn, begins⟩ := @after_bearer_block dot second last segment
    tail closedToo isDot tailInside later
  simp only [List.append_assoc, List.cons_append] at unique goesOn ⊢
  have once : (last ++ segment).Nodup := by
    apply List.Sublist.nodup _ unique
    apply List.Sublist.trans _ (List.sublist_append_right first _)
    exact (List.Sublist.refl last).append (List.sublist_append_left _ _)
  rcases bearer_ends once apartLast base64 segmentTraced with
    ⟨kept, stays, endsApart⟩ | ⟨⟨letter, among, leftOut⟩, endsApart⟩
  · -- No letter of the block is left out where the matches are looked for.
    have whole : ¬ ∃ letter ∈ segment ++ dot :: tail, LeavesOut bearerPattern
        (first ++ (last ++ (segment ++ dot :: (tail ++ right)))) letter := by
      rintro ⟨letter, member, leftOut⟩
      apply leftOut.not_mem (traced letter member) unique
      obtain ⟨rest, goesOn, -⟩ := @after_bearer_block dot first last segment
        tail closed isDot tailInside right
      rw [goesOn, stays]
      rcases List.mem_append.mp member with inSegment | inTail
      · simp [inSegment]
      · rcases List.mem_cons.mp inTail with rfl | inTail
        · simp
        · simp [inTail]
    refine ⟨after bearerPattern second ++ kept, rest, ?_,
      endsApart_append closedToo.endsApart endsApart, begins⟩
    rw [goesOn, stays, remaining, if_neg whole]
    simp
  · have some : ∃ letter ∈ segment ++ dot :: tail, LeavesOut bearerPattern
        (first ++ (last ++ (segment ++ dot :: (tail ++ right)))) letter := by
      obtain ⟨hit, found, inside, dropped⟩ := leftOut
      refine ⟨letter, List.mem_append_left _ among, hit, ?_, inside, dropped⟩
      apply closed.mem_matchesOf
      unfold matchesOf
      rw [← List.append_assoc, finditer_cut (plain_bearer.comap Letter.char)
        (over_bearer.comap Letter.char) (alien_dot isDot)]
      exact List.mem_append_left _ found
    refine ⟨after bearerPattern second ++
        after bearerPattern (last ++ segment), rest, ?_,
      endsApart_append closedToo.endsApart endsApart, begins⟩
    rw [goesOn, remaining, if_pos some, drops]
    simp

end Bearers

/-! ### What a rule adds is no secret -/

section Copies

/-- The letters of a text that were there at first. -/
def traced (text : List Letter) : List Letter :=
  text.filter fun letter => letter.origin.isSome

@[simp] theorem traced_append (first second : List Letter) :
    traced (first ++ second) = traced first ++ traced second :=
  List.filter_append ..

@[simp] theorem traced_marker (marker : String) :
    traced (marker.toList.map Letter.made) = [] := by
  unfold traced
  rw [List.filter_eq_nil_iff]
  intro letter member
  obtain ⟨c, -, rfl⟩ := List.mem_map.mp member
  exact Bool.false_ne_true

theorem traced_sublist (text : List Letter) : (traced text).Sublist text :=
  List.filter_sublist

@[simp] theorem traced_traced (text : List Letter) :
    traced (traced text) = traced text := by
  simp [traced]

theorem traced_mono {first second : List Letter}
    (sublist : first.Sublist second) :
    (traced first).Sublist (traced second) :=
  sublist.filter _

/-- A pattern makes no copies of letters when no replacement does. -/
theorem traced_sub {pattern : Regex Letter}
    {replacement : Match Letter → List Letter} {text : List Letter}
    (keeps : ∀ hit ∈ finditer pattern text,
      (traced (replacement hit)).Sublist hit.text) :
    (traced (sub pattern replacement text)).Sublist text := by
  have texts := (scan_pieces pattern text).text
  unfold traced sub
  rw [List.filter_flatMap]
  conv => arg 2; rw [← texts]
  apply List.Sublist.flatMap_right
  intro piece among
  cases piece with
  | kept letter => exact traced_sublist [letter]
  | matched hit => exact keeps hit (mem_finditer.mpr among)

theorem traced_after_key (text : List Letter) :
    (traced (after keyPattern text)).Sublist text := by
  apply traced_sub
  intro hit among
  obtain ⟨_, _, first⟩ := (scan_pieces _ text).hit (mem_finditer.mp among)
  obtain ⟨front, value, back, parts⟩ := key_parts first
  rw [parts.replaced, parts.text]
  simp only [traced_append, traced_marker, List.nil_append]
  exact (traced_sublist front).append
    ((traced_sublist back).trans (List.sublist_append_right value back))

theorem traced_after_bearer (text : List Letter) :
    (traced (after bearerPattern text)).Sublist text := by
  apply traced_sub
  intro hit among
  obtain ⟨_, _, first⟩ := (scan_pieces _ text).hit (mem_finditer.mp among)
  obtain ⟨front, value, parts⟩ := bearer_parts first
  rw [parts.replaced, parts.text]
  simp only [traced_append, traced_marker, List.append_nil]
  exact (traced_sublist front).trans (List.sublist_append_left front value)

end Copies

end RedactedBlocks

end Integr8s
