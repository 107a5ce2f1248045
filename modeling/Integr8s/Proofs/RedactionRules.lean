/-
Module: Integr8s.Proofs.RedactionRules
Purpose: What the redaction patterns match in a text whose characters are
  traced: where a match begins and ends, what it keeps and what it leaves out.
Trusted boundary: none
Main exports: RedactionRules.Letter, RedactionRules.KeyParts,
  RedactionRules.key_parts, RedactionRules.BearerParts,
  RedactionRules.bearer_parts
-/
import Integr8s.Services.Logging

namespace Integr8s

namespace RedactionRules

open Regex Logging

/-- A character of a text, and where in the text it was at first; what is put
in has no origin. -/
structure Letter where
  char : Char
  origin : Option Nat
deriving DecidableEq, Repr

/-- A character that is put in. -/
def Letter.made (c : Char) : Letter where
  char := c
  origin := none

/-- The characters of JWTs and what joins them, as the patterns see them. -/
def inBlock (c : Char) : Bool :=
  isBase64 c || c == '.'

/-! ### Kinds of letters -/

section Kinds

variable {accepts : Char → Prop} {text : String}

theorem over_word (all : ∀ c ∈ text.toList, ∀ other,
      foldCase other = foldCase c → accepts other) :
    Over accepts (word text) := by
  unfold word
  generalize text.toList = letters at all ⊢
  induction letters with
  | nil => trivial
  | cons c rest inductionHypothesis =>
      refine ⟨fun other same => ?_, inductionHypothesis fun c among =>
        all c (List.mem_cons_of_mem _ among)⟩
      exact all c List.mem_cons_self other (beq_iff_eq.mp same)

theorem plain_word (text : String) : Plain (word text) := by
  unfold word
  induction text.toList with
  | nil => trivial
  | cons c rest inductionHypothesis => exact ⟨trivial, inductionHypothesis⟩

theorem groupless_word (text : String) : Groupless (word text) := by
  unfold word
  induction text.toList with
  | nil => trivial
  | cons c rest inductionHypothesis => exact ⟨trivial, inductionHypothesis⟩

/-- A word is not over a character when none of its letters is like it. -/
theorem over_word_ne {c : Char}
    (unlike : (text.toList.all fun other => foldCase other != foldCase c) =
      true) :
    Over (· ≠ c) (word text) := by
  apply over_word
  intro other among found same alike
  have apart := List.all_eq_true.mp unlike other among
  rw [← same, alike] at apart
  simp at apart

/-- A character that is like a letter is in the class of the segments. -/
theorem isBase64_of_like {c other : Char}
    (alphanum : (foldCase c).isAlphanum = true)
    (same : foldCase other = foldCase c) : isBase64 other = true := by
  simp [isBase64, same, alphanum]

private theorem isLower_eq (c : Char) :
    c.isLower = (decide (c.val ≥ 'a'.val) && decide (c.val ≤ 'z'.val)) :=
  rfl

theorem isAlpha_of_isLower {c : Char} (lower : c.isLower = true) :
    c.isAlpha = true := by
  have either : c.isAlpha = (c.isUpper || c.isLower) := rfl
  rw [either, lower, Bool.or_true]

theorem isLower_toLower {c : Char} (low : 'A'.val ≤ c.val)
    (high : c.val ≤ 'Z'.val) : c.toLower.isLower = true := by
  unfold Char.toLower
  rw [dif_pos ⟨low, high⟩, isLower_eq]
  simp only [Bool.and_eq_true, decide_eq_true_eq, ge_iff_le,
    UInt32.le_iff_toNat_le, UInt32.toNat_add] at low high ⊢
  have capitals : 'A'.val.toNat = 65 ∧ 'Z'.val.toNat = 90 := by decide
  have smalls : 'a'.val.toNat = 97 ∧ 'z'.val.toNat = 122 := by decide
  have apart : ('a'.val - 'A'.val).toNat = 32 := by decide
  omega

/-- A mark is like no other character. -/
theorem eq_of_foldCase {c mark : Char} (same : foldCase c = mark)
    (plain : mark.isAlpha = false) : c = mark := by
  unfold foldCase at same
  split at same
  · subst same
    cases plain
  split at same
  · subst same
    cases plain
  split at same
  · subst same
    cases plain
  · by_cases upper : 'A'.val ≤ c.val ∧ c.val ≤ 'Z'.val
    · have alpha := isAlpha_of_isLower (isLower_toLower upper.1 upper.2)
      rw [same, plain] at alpha
      cases alpha
    · unfold Char.toLower at same
      rwa [dif_neg upper] at same

private theorem unlike_slash {c : Char} (different : c ≠ '\\') :
    (foldCase c == foldCase '\\') = false := by
  rw [beq_eq_false_iff_ne]
  exact fun same => different (eq_of_foldCase same (by decide))

/-- The codes of the whitespace. -/
def spaceCodes : List Nat :=
  List.range' 0x09 5 ++ List.range' 0x1C 5 ++ List.range' 0x2000 11 ++
    [0x85, 0xA0, 0x1680, 0x2028, 0x2029, 0x202F, 0x205F, 0x3000]

theorem not_inBlock_of_isSpace {c : Char} (space : PyText.isSpace c = true) :
    inBlock c = false := by
  have among : c.toNat ∈ spaceCodes := by
    simp only [PyText.isSpace, Bool.or_eq_true, Bool.and_eq_true,
      decide_eq_true_eq, beq_iff_eq] at space
    simp only [spaceCodes, List.mem_append, List.mem_range'_1, List.mem_cons,
      List.not_mem_nil]
    omega
  have apart : ∀ code ∈ spaceCodes, inBlock (Char.ofNat code) = false := by
    decide +kernel
  rw [← Char.ofNat_toNat c]
  exact apart _ among

/-- What a quote is made of: itself, and a backslash before it. -/
def isQuoting (c : Char) : Bool :=
  isQuote c || c == '\\'

theorem not_inBlock_of_isQuote {c : Char} (quote : isQuote c = true) :
    inBlock c = false := by
  simp only [isQuote, Bool.or_eq_true, beq_iff_eq] at quote
  rcases quote with rfl | rfl
  · decide
  · decide

theorem not_inBlock_of_isQuoting {c : Char} (quoting : isQuoting c = true) :
    inBlock c = false := by
  simp only [isQuoting, Bool.or_eq_true, beq_iff_eq] at quoting
  rcases quoting with quote | rfl
  · exact not_inBlock_of_isQuote quote
  · decide

private theorem isQuoting_of_isQuote {c : Char} (quote : isQuote c = true) :
    isQuoting c = true := by
  simp [isQuoting, quote]

end Kinds

/-! ### The parts of a match -/

/-- A match of a pattern that captures its front: the front, and what the rest
of the pattern takes after it. -/
theorem parts_of_first {pattern named valued : Regex Letter}
    {before rest text : List Letter} {groups : _}
    {Front : List Letter → Prop}
    {Value : List Letter → List (Nat × List Letter) → Cursor Letter → Prop}
    (first : firstMatch pattern { before := before, after := text ++ rest } =
      some
        { before := text.reverse ++ before
          after := rest
          groups := groups })
    (frontParts : ∀ {cursor stop : Cursor Letter}, stop ∈ run named cursor →
      ∃ front, cursor.after = front ++ stop.after ∧
        stop.groups = cursor.groups ∧ Front front)
    (valueParts : ∀ {cursor stop : Cursor Letter},
      (run valued cursor).head? = some stop →
        ∃ value captured, cursor.after = value ++ stop.after ∧
          stop.groups = captured ++ cursor.groups ∧
          Value value captured stop)
    (shape : pattern = seq (group 1 named) valued) :
    ∃ front value captured, text = front ++ value ∧
      groups = captured ++ [(1, front)] ∧ Front front ∧
      Value value captured
        { before := text.reverse ++ before
          after := rest
          groups := groups } := by
  subst shape
  obtain ⟨head, -⟩ := firstMatch_eq_some first
  obtain ⟨middle, begins, head⟩ := head?_run_seq head
  obtain ⟨inner, names, rfl⟩ := mem_run_group.mp begins
  obtain ⟨front, starts, same, isFront⟩ := frontParts names
  obtain ⟨value, captured, goesOn, captures, isValue⟩ := valueParts head
  refine ⟨front, value, captured, ?_, ?_, isFront, isValue⟩
  · apply List.append_cancel_right (?_ : text ++ rest = _ ++ rest)
    rw [List.append_assoc, ← goesOn]
    exact starts
  · rw [same, Cursor.textTo_of_append starts] at captures
    exact captures

section Keys

theorem over_escapedQuote {accepts : Char → Prop} (backslash : accepts '\\')
    (quotes : ∀ c, isQuote c = true → accepts c) :
    Over accepts escapedQuote := by
  refine ⟨⟨fun c same => ?_, trivial⟩, quotes⟩
  have mark : c = '\\' := eq_of_foldCase (eq_of_beq same) (by decide)
  exact mark ▸ backslash

/-- The name of a key has no dot. -/
theorem over_keyName : Over (· ≠ '.') keyName := by
  have quote : Over (· ≠ '.') escapedQuote :=
    over_escapedQuote (by decide) (by rintro _ quote rfl; cases quote)
  have spaces : Over (· ≠ '.') (star (one PyText.isSpace)) := by
    rintro _ space rfl
    cases space
  refine ⟨⟨quote, trivial⟩, ⟨⟨over_word_ne (by decide), ?_, trivial⟩,
    trivial⟩, ?_, ⟨quote, trivial⟩, spaces⟩
  · rintro _ mark rfl
    cases mark
  · exact ⟨over_word_ne (by decide), over_word_ne (by decide),
      over_word_ne (by decide), over_word_ne (by decide),
      over_word_ne (by decide), over_word_ne (by decide)⟩

/-- What assigns a value is no part of a JWT. -/
theorem over_assignment :
    Over (fun c => inBlock c = false) assignment := by
  refine ⟨fun c same => ?_, fun c => not_inBlock_of_isSpace, ?_, trivial⟩
  · simp only [Bool.or_eq_true, beq_iff_eq] at same
    rcases same with rfl | rfl
    · decide
    · decide
  · exact over_escapedQuote (by decide) fun c => not_inBlock_of_isQuote

/-- What stands between the name of a key and its value. -/
def isMark (c : Char) : Bool :=
  c == ':' || c == '='

/-- The name of a key has no mark. -/
theorem over_keyName_unmarked : Over (fun c => isMark c = false) keyName := by
  have spaces : ∀ c, PyText.isSpace c = true → isMark c = false := by
    intro c space
    by_contra mark
    simp only [isMark, Bool.not_eq_false, Bool.or_eq_true, beq_iff_eq] at mark
    rcases mark with rfl | rfl
    · cases space
    · cases space
  have quote : Over (fun c => isMark c = false) escapedQuote := by
    apply over_escapedQuote (by decide)
    intro c isQuote
    simp only [Logging.isQuote, Bool.or_eq_true, beq_iff_eq] at isQuote
    rcases isQuote with rfl | rfl
    · decide
    · decide
  have words : ∀ {text : String},
      (text.toList.all fun c => (foldCase c).isAlphanum) = true →
        Over (fun c => isMark c = false) (word text) := by
    intro text letters
    apply over_word
    intro c among other same
    have alphanum := List.all_eq_true.mp letters c among
    by_contra mark
    simp only [isMark, Bool.not_eq_false, Bool.or_eq_true, beq_iff_eq] at mark
    rw [← same] at alphanum
    rcases mark with rfl | rfl
    · cases alphanum
    · cases alphanum
  refine ⟨⟨quote, trivial⟩, ⟨⟨words (by decide), ?_, trivial⟩, trivial⟩, ?_,
    ⟨quote, trivial⟩, spaces⟩
  · intro c joins
    simp only [Bool.or_eq_true, beq_iff_eq] at joins
    rcases joins with rfl | rfl
    · decide
    · decide
  · exact ⟨words (by decide), words (by decide), words (by decide),
      words (by decide), words (by decide), words (by decide)⟩

theorem groupless_name : Groupless (seq keyName assignment) := by
  have quote : Groupless escapedQuote := ⟨⟨trivial, trivial⟩, trivial⟩
  refine ⟨⟨⟨quote, trivial⟩, ⟨⟨groupless_word _, trivial, trivial⟩, trivial⟩,
    ?_, ⟨quote, trivial⟩, trivial⟩, trivial, trivial, quote, trivial⟩
  exact ⟨groupless_word _, groupless_word _, groupless_word _,
    groupless_word _, groupless_word _, groupless_word _⟩

/-- Where a value goes on: not at a quote, nor at a backslash before one. -/
def goesOn (token : Letter) (rest : List Letter) : Bool :=
  (!isQuote token.char && token.char != '\\') ||
    (foldCase token.char == foldCase '\\' &&
      !(rest.map Letter.char).head?.any isQuote)

theorem steps_valueChar : Steps goesOn (comap Letter.char valueChar) := by
  rintro ⟨before, after, groups⟩
  cases after with
  | nil => rfl
  | cons token rest =>
      by_cases slash : token.char = '\\'
      · simp [comap, valueChar, run, letter, goesOn, Cursor.past, slash]
      · have unlike := unlike_slash slash
        by_cases quote : isQuote token.char = true
        · simp [comap, valueChar, run, letter, goesOn, unlike, quote]
        · simp [comap, valueChar, run, letter, goesOn, Cursor.past, unlike,
            quote, slash]

/-- What a match of the key pattern is made of: its front up to the value, the
value, and the quote after it, if the text goes on. -/
structure KeyParts (hit : Match Letter) (rest front value back : List Letter) :
    Prop where
  text : hit.text = front ++ (value ++ back)
  replaced : keyPattern.replacement Letter.made hit =
    front ++ (keyPattern.marker.toList.map Letter.made ++ back)
  closed : ∃ name closing, front = name ++ closing ∧ closing ≠ [] ∧
    ∀ letter ∈ closing, inBlock letter.char = false
  dotless : ∀ letter ∈ front, letter.char ≠ '.'
  marked : ∃ name mark spaces quote, front = name ++ mark :: (spaces ++ quote) ∧
    (∀ letter ∈ name, isMark letter.char = false) ∧
    isMark mark.char = true ∧
    (∀ letter ∈ spaces, PyText.isSpace letter.char = true) ∧
    ∀ letter ∈ quote, isQuoting letter.char = true
  stops : back = [] ∧ rest = [] ∨
    ∃ mark quote, back = mark ++ [quote] ∧ isQuote quote.char = true ∧
      ∀ letter ∈ back, isQuoting letter.char = true

/-- Where a value ends, the quote that ends it is the back of the match. -/
theorem back_of_stop {cursor stop : Cursor Letter}
    (ends : ∀ token more, cursor.after = token :: more →
      goesOn token more = false)
    (head : (run (opt (comap Letter.char escapedQuote)) cursor).head? =
      some stop) :
    ∃ back, stop = cursor.past back stop.after ∧
      cursor.after = back ++ stop.after ∧
      (back = [] ∧ stop.after = [] ∨
        ∃ mark quote, back = mark ++ [quote] ∧ isQuote quote.char = true ∧
          ∀ letter ∈ back, isQuoting letter.char = true) := by
  obtain ⟨before, after, groups⟩ := cursor
  rw [head?_run_opt] at head
  cases after with
  | nil =>
      have absent : run (comap Letter.char escapedQuote)
          ⟨before, [], groups⟩ = [] := by
        simp [comap, escapedQuote, opt, run, letter]
      rw [absent] at head
      cases head
      exact ⟨[], rfl, rfl, .inl ⟨rfl, rfl⟩⟩
  | cons token more =>
      have stops := ends token more rfl
      by_cases slash : token.char = '\\'
      · cases more with
        | nil => simp [goesOn, slash] at stops
        | cons quote rest =>
            have closes : isQuote quote.char = true := by
              simpa [goesOn, slash] using stops
            have found : (run (comap Letter.char escapedQuote)
                  ⟨before, token :: quote :: rest, groups⟩).head? =
                some ⟨quote :: token :: before, rest, groups⟩ := by
              simp [comap, escapedQuote, opt, run, letter, Cursor.past, slash,
                closes]
            rw [found, Option.some_or] at head
            cases head
            refine ⟨[token, quote], rfl, rfl, .inr ⟨[token], quote, rfl,
              closes, ?_⟩⟩
            simp only [List.forall_mem_cons, List.not_mem_nil]
            exact ⟨slash ▸ by decide, isQuoting_of_isQuote closes,
              fun _ => False.elim⟩
      · have closes : isQuote token.char = true := by
          simp only [goesOn, bne_iff_ne.mpr slash, Bool.and_true,
            Bool.or_eq_false_iff, Bool.not_eq_false'] at stops
          exact stops.1
        have unlike := unlike_slash slash
        have found : (run (comap Letter.char escapedQuote)
              ⟨before, token :: more, groups⟩).head? =
            some ⟨token :: before, more, groups⟩ := by
          simp [comap, escapedQuote, opt, run, letter, Cursor.past, unlike,
            closes]
        rw [found, Option.some_or] at head
        cases head
        refine ⟨[token], rfl, rfl, .inr ⟨[], token, rfl, closes, ?_⟩⟩
        simp only [List.forall_mem_cons, List.not_mem_nil]
        exact ⟨isQuoting_of_isQuote closes, fun _ => False.elim⟩

/-- What comes after the front of a match: the value as far as it goes, and the
back. -/
theorem value_parts {cursor stop : Cursor Letter}
    (head : (run (comap Letter.char (seq (group 2 (plus valueChar))
      (group 3 (opt escapedQuote)))) cursor).head? = some stop) :
    ∃ taken captured, cursor.after = taken ++ stop.after ∧
      stop.groups = captured ++ cursor.groups ∧
      ∃ value back, taken = value ++ back ∧
        captured = [(3, back), (2, value)] ∧
        (back = [] ∧ stop.after = [] ∨
          ∃ mark quote, back = mark ++ [quote] ∧ isQuote quote.char = true ∧
            ∀ letter ∈ back, isQuoting letter.char = true) := by
  change (run (seq (group 2 (plus (comap Letter.char valueChar)))
    (group 3 (opt (comap Letter.char escapedQuote)))) cursor).head? = _ at head
  have total : ∀ middle, run (group 3 (opt (comap Letter.char escapedQuote)))
      middle ≠ [] := by
    intro middle
    rw [run]
    exact fun none => run_opt_ne_nil (List.map_eq_nil_iff.mp none)
  rw [head?_run_seq_of_total total, head?_run_group] at head
  obtain ⟨valued, headValue, headBack⟩ := Option.bind_eq_some_iff.mp head
  obtain ⟨last, headPlus, rfl⟩ := Option.map_eq_some_iff.mp headValue
  obtain ⟨value, left, -, parts, rfl, ends⟩ :=
    steps_valueChar.head?_plus headPlus
  rw [head?_run_group] at headBack
  obtain ⟨final, headOpt, rfl⟩ := Option.map_eq_some_iff.mp headBack
  obtain ⟨back, isOver, remains, stops⟩ := back_of_stop ends headOpt
  refine ⟨value ++ back, [(3, back), (2, value)], ?_, ?_, value, back, rfl,
    rfl, stops⟩
  · rw [parts, List.append_assoc]
    exact congrArg (value ++ ·) remains
  · rw [Cursor.textTo_of_append remains, isOver,
      Cursor.textTo_of_append parts]
    rfl

/-- What assigns a value: the mark, whitespace and a quote. -/
theorem assignment_parts {cursor stop : Cursor Letter}
    (assigns : stop ∈ run (comap Letter.char assignment) cursor) :
    ∃ mark spaces quote, cursor.after = mark :: (spaces ++ quote) ++ stop.after ∧
      isMark mark.char = true ∧
      (∀ letter ∈ spaces, PyText.isSpace letter.char = true) ∧
      ∀ letter ∈ quote, isQuoting letter.char = true := by
  obtain ⟨begun, marks, assigns⟩ := mem_run_seq.mp assigns
  obtain ⟨middle, blanks, quotes⟩ := mem_run_seq.mp assigns
  obtain ⟨mark, left, starts, isMark, rfl⟩ := mem_run_one.mp marks
  have overSpaces : Over (fun c => PyText.isSpace c = true)
      (star (one PyText.isSpace)) := fun c => id
  have overQuote : Over (fun c => isQuoting c = true) (opt escapedQuote) :=
    ⟨over_escapedQuote (by decide) fun c => isQuoting_of_isQuote, trivial⟩
  obtain ⟨spaces, consumed, blank⟩ :=
    (overSpaces.comap Letter.char).consumed blanks
  obtain ⟨quote, consumedToo, isQuote⟩ :=
    (overQuote.comap Letter.char).consumed quotes
  refine ⟨mark, spaces, quote, ?_, isMark, blank, isQuote⟩
  have follows : left = spaces ++ middle.after := consumed.after
  rw [starts, follows, consumedToo.after]
  simp

/-- The front of a match, up to its value. -/
theorem front_parts {cursor stop : Cursor Letter}
    (named : stop ∈ run (comap Letter.char (seq keyName assignment)) cursor) :
    ∃ front, cursor.after = front ++ stop.after ∧
      stop.groups = cursor.groups ∧
      (∃ name closing, front = name ++ closing ∧ closing ≠ [] ∧
        ∀ letter ∈ closing, inBlock letter.char = false) ∧
      (∀ letter ∈ front, letter.char ≠ '.') ∧
      ∃ name mark spaces quote, front = name ++ mark :: (spaces ++ quote) ∧
        (∀ letter ∈ name, isMark letter.char = false) ∧
        isMark mark.char = true ∧
        (∀ letter ∈ spaces, PyText.isSpace letter.char = true) ∧
        ∀ letter ∈ quote, isQuoting letter.char = true := by
  obtain ⟨between, names, assigns⟩ := mem_run_seq.mp named
  obtain ⟨name, consumed, dotless⟩ :=
    (over_keyName.comap Letter.char).consumed names
  obtain ⟨nameToo, consumedName, unmarked⟩ :=
    (over_keyName_unmarked.comap Letter.char).consumed names
  cases List.append_cancel_right
    (consumedName.after.symm.trans consumed.after)
  obtain ⟨closing, consumedToo, apart⟩ :=
    (over_assignment.comap Letter.char).consumed assigns
  obtain ⟨mark, spaces, quote, shape, isMark, blank, isQuote⟩ :=
    assignment_parts assigns
  have same : closing = mark :: (spaces ++ quote) :=
    List.append_cancel_right (consumedToo.after.symm.trans shape)
  refine ⟨name ++ closing, (consumed.trans consumedToo).after,
    (groupless_name.comap Letter.char).groups named,
    ⟨name, closing, rfl, by simp [same], apart⟩, fun letter among dot => ?_,
    name, mark, spaces, quote, by rw [same], unmarked, isMark, blank, isQuote⟩
  rcases List.mem_append.mp among with inName | inClosing
  · exact dotless letter inName dot
  · have apart := apart letter inClosing
    rw [dot] at apart
    cases apart

theorem key_parts {before rest text : List Letter} {groups : _}
    (first : firstMatch (comap Letter.char keyPattern.pattern)
      { before := before, after := text ++ rest } =
        some
          { before := text.reverse ++ before
            after := rest
            groups := groups }) :
    ∃ front value back, KeyParts ⟨text, groups⟩ rest front value back := by
  obtain ⟨front, _, _, rfl, rfl, ⟨closed, dotless, marked⟩, value, back, rfl,
      rfl, stops⟩ :=
    parts_of_first first front_parts value_parts rfl
  refine ⟨front, value, back, rfl, ?_, closed, dotless, marked, stops⟩
  exact (List.append_assoc ..)

end Keys

section Bearers

theorem over_bearer : Over
    (fun c => isBase64 c = true ∨ PyText.isSpace c = true)
    bearerPattern.pattern := by
  have letters : ∀ c ∈ "Bearer".toList, (foldCase c).isAlphanum = true :=
    List.all_iff_forall_prop.mp (by decide)
  exact ⟨⟨over_word fun c among other same =>
    .inl (isBase64_of_like (letters c among) same), fun c => .inr,
      fun c => .inr⟩, fun c => .inl, fun c => .inl⟩

theorem plain_bearer : Plain bearerPattern.pattern :=
  ⟨⟨plain_word _, trivial, trivial⟩, trivial, trivial⟩

/-- What a match of the Bearer pattern is made of: its front with the
whitespace, and the value as far as it goes. -/
structure BearerParts (hit : Match Letter) (rest front value : List Letter) :
    Prop where
  text : hit.text = front ++ value
  replaced : bearerPattern.replacement Letter.made hit =
    front ++ bearerPattern.marker.toList.map Letter.made
  closed : ∃ name closing, front = name ++ closing ∧ closing ≠ [] ∧
    ∀ letter ∈ closing, inBlock letter.char = false
  some : value ≠ []
  base64 : ∀ letter ∈ value, isBase64 letter.char = true
  stops : ∀ letter ∈ rest.head?, isBase64 letter.char = false

/-- The front of a match, up to its value. -/
theorem bearer_front {cursor stop : Cursor Letter}
    (named : stop ∈ run (comap Letter.char
      (seq (word "Bearer") (plus (one PyText.isSpace)))) cursor) :
    ∃ front, cursor.after = front ++ stop.after ∧
      stop.groups = cursor.groups ∧
      ∃ name closing, front = name ++ closing ∧ closing ≠ [] ∧
        ∀ letter ∈ closing, inBlock letter.char = false := by
  obtain ⟨between, names, spaces⟩ := mem_run_seq.mp named
  obtain ⟨name, consumed⟩ := exists_consumed names
  have captures : between.groups = cursor.groups :=
    ((groupless_word "Bearer").comap Letter.char).groups names
  obtain ⟨closing, left, parts, some, isSpace, rfl⟩ :=
    mem_run_plusOne.mp spaces
  refine ⟨name ++ closing, ?_, captures, name, closing, rfl, some,
    fun letter among => not_inBlock_of_isSpace (isSpace letter among)⟩
  rw [consumed.after, parts, List.append_assoc]
  rfl

/-- What comes after the front: the value as far as it goes. -/
theorem bearer_value {cursor stop : Cursor Letter}
    (head : (run (comap Letter.char (group 2 (plus (one isBase64))))
      cursor).head? = some stop) :
    ∃ value captured, cursor.after = value ++ stop.after ∧
      stop.groups = captured ++ cursor.groups ∧ captured = [(2, value)] ∧
      value ≠ [] ∧ (∀ letter ∈ value, isBase64 letter.char = true) ∧
      ∀ letter ∈ stop.after.head?, isBase64 letter.char = false := by
  change (run (group 2 (plus (one fun letter => isBase64 letter.char)))
    cursor).head? = some stop at head
  rw [head?_run_group] at head
  obtain ⟨last, headPlus, rfl⟩ := Option.map_eq_some_iff.mp head
  obtain ⟨value, remains, some, goesOn, rfl, base64, stops⟩ :=
    head?_run_plusOne headPlus
  refine ⟨value, [(2, value)], goesOn, ?_, rfl, some, base64, stops⟩
  rw [Cursor.textTo_of_append goesOn]
  rfl

theorem bearer_parts {before rest text : List Letter} {groups : _}
    (first : firstMatch (comap Letter.char bearerPattern.pattern)
      { before := before, after := text ++ rest } =
        some
          { before := text.reverse ++ before
            after := rest
            groups := groups }) :
    ∃ front value, BearerParts ⟨text, groups⟩ rest front value := by
  obtain ⟨front, value, _, rfl, rfl, closed, rfl, some, base64, stops⟩ :=
    parts_of_first first bearer_front bearer_value rfl
  exact ⟨front, value, rfl, List.append_nil _, closed, some, base64, stops⟩

end Bearers

end RedactionRules

end Integr8s
