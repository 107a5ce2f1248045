/-
Module: Integr8s.Lib.RegexSyntax
Purpose: Perl-style regular expressions as they are written: what the text of
  a pattern stands for, where it consists of characters, dots, anchors, groups,
  alternatives, simple repetition and escaped characters; and how short a text
  there is in which such a pattern is found.  The rest of the syntax (classes,
  counted repetition, escapes with a letter, options, recursion) is left open.
Trusted boundary: human-reviewed spec
Main exports: Regex.Sign, Regex.Reading, Regex.readFrom, Regex.finds,
  Regex.Regular, Regex.finds_short, Regex.read_length, Regex.isLiteral,
  Regex.finds_literal, Regex.literal_of_finds
-/
import Integr8s.Lib.RegexReplace
import Mathlib.Data.List.Forall2

universe u

namespace Regex

/-! ### Short texts decide -/

section Search

variable {Token : Type u}

/-- A pattern is found somewhere in a text. -/
def finds (pattern : Regex Token) (text : List Token) : Bool :=
  (List.range (text.length + 1)).any fun place =>
    !(run pattern
      { before := (text.take place).reverse, after := text.drop place }).isEmpty

private theorem finds_iff {pattern : Regex Token} {text : List Token} :
    finds pattern text = true ↔
      ∃ before after stop, text = before ++ after ∧
        stop ∈ run pattern { before := before.reverse, after := after } := by
  simp only [finds, List.any_eq_true, List.mem_range, Bool.not_eq_true',
    List.isEmpty_eq_false_iff_exists_mem]
  constructor
  · rintro ⟨place, -, stop, member⟩
    exact ⟨text.take place, text.drop place, stop,
      (List.take_append_drop place text).symm, member⟩
  · rintro ⟨before, after, stop, rfl, member⟩
    have inside : before.length < (before ++ after).length + 1 := by
      rw [List.length_append]
      omega
    refine ⟨before.length, inside, stop, ?_⟩
    simpa using member

/-- The number of tokens that a pattern has to match, counting every
alternative and no repetition. -/
def weight : Regex Token → Nat
  | empty | assert _ | star _ => 0
  | one _ => 1
  | seq first second | alt first second => weight first + weight second
  | atomic body | group _ body => weight body

/-- A pattern that still matches when text is left out: no part of it is
atomic, and what it asserts of the text around is still so of less text. -/
def Regular : Regex Token → Prop
  | empty | one _ | star _ => True
  | assert holds => ∀ before after fewer less,
      List.Sublist fewer before → List.Sublist less after →
        holds before after = true → holds fewer less = true
  | seq first second | alt first second => Regular first ∧ Regular second
  | atomic _ => False
  | group _ body => Regular body

/-- What a pattern matches of a text when some of what is there is left out
before it and after it. -/
def MatchesLess (pattern : Regex Token) (cursor stop : Cursor Token)
    (text : List Token) : Prop :=
  ∀ before rest groups, List.Sublist before cursor.before →
    List.Sublist rest stop.after →
      ∃ reached ∈ run pattern ⟨before, text ++ rest, groups⟩,
        reached.before = text.reverse ++ before ∧ reached.after = rest

/-- A match can be cut down to as many tokens as the pattern's weight. -/
theorem Regular.shorten {pattern : Regex Token} (regular : Regular pattern)
    {cursor stop : Cursor Token} (member : stop ∈ run pattern cursor) :
    ∃ whole text, Consumed cursor stop whole ∧ List.Sublist text whole ∧
      text.length ≤ weight pattern ∧ MatchesLess pattern cursor stop text := by
  induction pattern generalizing cursor stop with
  | empty =>
      rw [mem_run_empty.mp member]
      refine ⟨[], [], .refl cursor, .slnil, Nat.le_refl 0, ?_⟩
      intro before rest groups _ _
      exact ⟨_, mem_run_empty.mpr rfl, rfl, rfl⟩
  | one accepts =>
      obtain ⟨token, rest, starts, accepted, rfl⟩ := mem_run_one.mp member
      refine ⟨[token], [token], ⟨starts, rfl, fun _ => .inl⟩, .refl _,
        Nat.le_refl 1, ?_⟩
      intro before rest groups _ _
      exact ⟨_, mem_run_one.mpr ⟨token, rest, rfl, accepted, rfl⟩, rfl, rfl⟩
  | assert holds =>
      obtain ⟨held, rfl⟩ := mem_run_assert.mp member
      refine ⟨[], [], .refl _, .slnil, Nat.le_refl 0, ?_⟩
      intro before rest groups fewer less
      have still := regular _ _ _ _ fewer less held
      exact ⟨_, mem_run_assert.mpr ⟨still, rfl⟩, rfl, rfl⟩
  | seq first second firstHypothesis secondHypothesis =>
      obtain ⟨middle, begins, ends⟩ := mem_run_seq.mp member
      obtain ⟨whole, text, consumed, part, short, matchesFirst⟩ :=
        firstHypothesis regular.1 begins
      obtain ⟨more, moreText, consumedToo, partToo, shortToo, matchesSecond⟩ :=
        secondHypothesis regular.2 ends
      refine ⟨whole ++ more, text ++ moreText, consumed.trans consumedToo,
        part.append partToo, ?_, ?_⟩
      · rw [List.length_append, weight]
        exact Nat.add_le_add short shortToo
      intro before rest groups fewer less
      have lessMiddle : List.Sublist (moreText ++ rest) middle.after := by
        rw [consumedToo.after]
        exact partToo.append less
      obtain ⟨⟨reachedBefore, reachedAfter, reachedGroups⟩, reached, rfl,
        rfl⟩ := matchesFirst before (moreText ++ rest) groups fewer lessMiddle
      have fewerMiddle : List.Sublist (text.reverse ++ before)
          middle.before := by
        rw [consumed.before]
        exact part.reverse.append fewer
      obtain ⟨last, ended, lastBefore, lastAfter⟩ :=
        matchesSecond _ rest reachedGroups fewerMiddle less
      refine ⟨last, ?_, by simp [lastBefore], lastAfter⟩
      rw [List.append_assoc]
      exact mem_run_seq.mpr ⟨_, reached, ended⟩
  | alt first second firstHypothesis secondHypothesis =>
      rcases mem_run_alt.mp member with left | right
      · obtain ⟨whole, text, consumed, part, short, matchesLeft⟩ :=
          firstHypothesis regular.1 left
        refine ⟨whole, text, consumed, part,
          short.trans (Nat.le_add_right _ _), ?_⟩
        intro before rest groups fewer less
        obtain ⟨reached, among, ends⟩ :=
          matchesLeft before rest groups fewer less
        exact ⟨reached, mem_run_alt.mpr (.inl among), ends⟩
      · obtain ⟨whole, text, consumed, part, short, matchesRight⟩ :=
          secondHypothesis regular.2 right
        refine ⟨whole, text, consumed, part,
          short.trans (Nat.le_add_left _ _), ?_⟩
        intro before rest groups fewer less
        obtain ⟨reached, among, ends⟩ :=
          matchesRight before rest groups fewer less
        exact ⟨reached, mem_run_alt.mpr (.inr among), ends⟩
  | star body _ =>
      obtain ⟨whole, consumed⟩ := exists_consumed member
      refine ⟨whole, [], consumed, whole.nil_sublist, Nat.le_refl 0, ?_⟩
      intro before rest groups _ _
      refine ⟨⟨before, rest, groups⟩, ?_, rfl, rfl⟩
      rw [run_star]
      exact List.mem_append_right _ (List.mem_singleton.mpr rfl)
  | atomic body _ => exact regular.elim
  | group index body inductionHypothesis =>
      obtain ⟨inner, among, rfl⟩ := mem_run_group.mp member
      obtain ⟨whole, consumed⟩ := exists_consumed member
      obtain ⟨same, text, consumedInside, part, short, matchesInside⟩ :=
        inductionHypothesis regular among
      have whole_eq : whole = same :=
        List.append_cancel_right
          (consumed.after.symm.trans consumedInside.after)
      subst whole_eq
      refine ⟨whole, text, consumed, part, short, ?_⟩
      intro before rest groups fewer less
      obtain ⟨reached, inside, ends⟩ :=
        matchesInside before rest groups fewer less
      exact ⟨_, mem_run_group.mpr ⟨reached, inside, rfl⟩, ends⟩

/-- A pattern that is found at all is found in a text no longer than its
weight. -/
theorem finds_short {pattern : Regex Token} (regular : Regular pattern)
    {text : List Token} (found : finds pattern text = true) :
    ∃ short, short.length ≤ weight pattern ∧ finds pattern short = true := by
  obtain ⟨before, after, stop, -, member⟩ := finds_iff.mp found
  obtain ⟨-, short, -, -, isShort, matchesShort⟩ := regular.shorten member
  obtain ⟨reached, among, -⟩ :=
    matchesShort [] [] [] (List.nil_sublist _) (List.nil_sublist _)
  rw [List.append_nil] at among
  exact ⟨short, isShort, finds_iff.mpr ⟨[], short, reached, rfl, among⟩⟩

end Search

/-! ### Reading an expression -/

section Syntax

/-- How often an item may come. -/
inductive Times where
  | many
  | more
  | maybe
deriving DecidableEq, Repr

def Times.of : Times → Regex Char → Regex Char
  | .many => .star
  | .more => .plus
  | .maybe => .opt

/-- What a character stands for in a pattern. -/
inductive Sign where
  | itself
  | dot
  | start
  | stop
  | escape
  | opening
  | closing
  | bar
  | repeated (times : Times)
  | brace
  | reserved
deriving DecidableEq, Repr

def signOf : Char → Sign
  | '.' => .dot
  | '^' => .start
  | '$' => .stop
  | '\\' => .escape
  | '(' => .opening
  | ')' => .closing
  | '|' => .bar
  | '*' => .repeated .many
  | '+' => .repeated .more
  | '?' => .repeated .maybe
  | '{' => .brace
  | '[' | '\x00' => .reserved
  | _ => .itself

/-- What comes after a brace may make it a counted repetition. -/
def opensCount : List Char → Bool
  | [] => false
  | next :: _ =>
      next.isDigit || next == ',' || next == ' ' || next == '\t'

/-- What comes after a parenthesis makes it something else than a group. -/
def opensOption : List Char → Bool
  | [] => false
  | next :: _ => next == '?' || next == '*'

/-- What a repetition can be about: nothing, the item before, or an item that
is already repeated. -/
inductive Last where
  | nothing
  | item (pattern : Regex Char)
  | repeated

/-- A group as far as it has been read: the alternatives before, and the one
under way, its last item apart. -/
structure Branch where
  alternatives : Option (Regex Char) := none
  sequence : Regex Char := .empty
  last : Last := .nothing

namespace Branch

/-- The alternative under way with its last item. -/
def settled (branch : Branch) : Regex Char :=
  match branch.last with
  | .item pattern => .seq branch.sequence pattern
  | .nothing | .repeated => branch.sequence

/-- The group if it ended here. -/
def whole (branch : Branch) : Regex Char :=
  match branch.alternatives with
  | none => branch.settled
  | some earlier => .alt earlier branch.settled

def add (branch : Branch) (pattern : Regex Char) : Branch :=
  { branch with sequence := branch.settled, last := .item pattern }

/-- The branch after a repetition of its last item. -/
def again (branch : Branch) (pattern : Regex Char) (times : Times) :
    Branch :=
  { branch with
    sequence := .seq branch.sequence (times.of pattern)
    last := .repeated }

def anchor (branch : Branch) (holds : List Char → List Char → Bool) :
    Branch :=
  { branch with
    sequence := .seq branch.settled (.assert holds)
    last := .nothing }

end Branch

/-- What becomes of a pattern's text. -/
inductive Reading where
  | pattern (pattern : Regex Char)
  | invalid
  | reserved

/-- `$` also stands before a line break at the very end. -/
def atStop (_ after : List Char) : Bool :=
  after.isEmpty || after == ['\n']

/-- Read on inside a group, with the groups around it innermost first.  Only
letters and digits have a meaning after a backslash.  Groups may be nested 250
deep.  What a second repetition of an item means is left open. -/
def readFrom : List Char → List Branch → Branch → Reading
  | [], [], inner => .pattern inner.whole
  | [], _ :: _, _ => .invalid
  | char :: rest, outer, inner =>
      match signOf char with
      | .itself => readFrom rest outer (inner.add (.one (· == char)))
      | .dot => readFrom rest outer (inner.add (.one (· != '\n')))
      | .start =>
          readFrom rest outer (inner.anchor fun before _ => before.isEmpty)
      | .stop => readFrom rest outer (inner.anchor atStop)
      | .escape =>
          match rest with
          | [] => .invalid
          | next :: rest =>
              if next.isAlphanum || next == '\x00' then .reserved
              else readFrom rest outer (inner.add (.one (· == next)))
      | .opening =>
          if opensOption rest || 250 ≤ outer.length then .reserved
          else readFrom rest (inner :: outer) {}
      | .closing =>
          match outer with
          | [] => .invalid
          | around :: outer => readFrom rest outer (around.add inner.whole)
      | .bar => readFrom rest outer { alternatives := some inner.whole }
      | .repeated times =>
          match inner.last with
          | .nothing => .invalid
          | .item pattern => readFrom rest outer (inner.again pattern times)
          | .repeated => .reserved
      | .brace =>
          if opensCount rest then .reserved
          else readFrom rest outer (inner.add (.one (· == char)))
      | .reserved => .reserved

/-- The characters of a pattern that are neither a character of the text nor a
dot. -/
def isOperator (char : Char) : Bool :=
  match signOf char with
  | .itself | .dot | .brace => false
  | _ => true

/-! ### A pattern is no longer than its text -/

section Length

namespace Branch

def weight (branch : Branch) : Nat :=
  branch.alternatives.elim 0 Regex.weight + branch.settled.weight

/-- All that a group has so far still matches less. -/
def Regular (branch : Branch) : Prop :=
  (∀ pattern, branch.alternatives = some pattern → pattern.Regular) ∧
    branch.settled.Regular

variable {branch : Branch} {pattern : Regex Char}

private theorem regular_empty : Regular {} :=
  ⟨nofun, trivial⟩

theorem Regular.whole (regular : branch.Regular) : branch.whole.Regular := by
  unfold Branch.whole
  cases given : branch.alternatives with
  | none => exact regular.2
  | some earlier => exact ⟨regular.1 earlier given, regular.2⟩

private theorem weight_whole : branch.whole.weight = branch.weight := by
  unfold Branch.whole Branch.weight
  cases branch.alternatives with
  | none => exact (Nat.zero_add _).symm
  | some earlier => rfl

theorem Regular.add (regular : branch.Regular) (item : pattern.Regular) :
    (branch.add pattern).Regular :=
  ⟨regular.1, regular.2, item⟩

private theorem weight_add :
    (branch.add pattern).weight = branch.weight + pattern.weight :=
  (Nat.add_assoc ..).symm

theorem Regular.anchor {holds : List Char → List Char → Bool}
    (regular : branch.Regular) (anchors : (assert holds).Regular) :
    (branch.anchor holds).Regular :=
  ⟨regular.1, regular.2, anchors⟩

private theorem weight_anchor (holds : List Char → List Char → Bool) :
    (branch.anchor holds).weight = branch.weight :=
  rfl

end Branch

private theorem regular_start :
    (assert fun before (_ : List Char) => before.isEmpty).Regular := by
  intro before after fewer less part _ holds
  rw [List.isEmpty_iff] at holds ⊢
  subst holds
  exact List.sublist_nil.mp part

private theorem regular_stop : (assert atStop).Regular := by
  intro before after fewer less _ part holds
  simp only [atStop, Bool.or_eq_true, List.isEmpty_iff, beq_iff_eq] at holds ⊢
  rcases holds with rfl | rfl
  · exact .inl (List.sublist_nil.mp part)
  · exact List.sublist_singleton.mp part

theorem Times.regular {pattern : Regex Char} (times : Times)
    (regular : pattern.Regular) : (times.of pattern).Regular := by
  cases times with
  | many => trivial
  | more => exact ⟨regular, trivial⟩
  | maybe => exact ⟨regular, trivial⟩

/-- A repeated item weighs no more than the item. -/
theorem Times.weight_le (times : Times) (pattern : Regex Char) :
    (times.of pattern).weight ≤ pattern.weight := by
  cases times with
  | many => exact Nat.zero_le _
  | more => exact Nat.le_refl _
  | maybe => exact Nat.le_refl _

section Again

variable {branch : Branch} {item : Regex Char}

private theorem settled_of_item (isLast : branch.last = .item item) :
    branch.settled = .seq branch.sequence item := by
  simp only [Branch.settled, isLast]

theorem Branch.Regular.again (regular : branch.Regular)
    (isLast : branch.last = .item item) (times : Times) :
    (branch.again item times).Regular := by
  have parts := regular.2
  rw [settled_of_item isLast] at parts
  exact ⟨regular.1, parts.1, times.regular parts.2⟩

theorem Branch.weight_again_le (isLast : branch.last = .item item)
    (times : Times) :
    (branch.again item times).weight ≤ branch.weight := by
  have lighter := times.weight_le item
  rw [Branch.weight, Branch.weight, settled_of_item isLast]
  simp only [Branch.again, Branch.settled, Regex.weight]
  omega

end Again

/-- Whether a text has an operator, as a number. -/
def operators (chars : List Char) : Nat :=
  if chars.any isOperator then 1 else 0

private theorem operators_le (chars : List Char) : operators chars ≤ 1 := by
  unfold operators
  split <;> omega

private theorem operators_cons {char : Char} (rest : List Char)
    (operand : isOperator char = false) :
    operators (char :: rest) = operators rest := by
  simp [operators, operand]

/-- The weight of the groups around. -/
def outerWeight (outer : List Branch) : Nat :=
  outer.foldr (fun branch weight => branch.weight + weight) 0

/-- A pattern weighs no more than its text has characters, and less if the text
has an operator: an operator stands for no character of its own. -/
theorem read_length {chars : List Char} {outer : List Branch}
    {inner : Branch} {pattern : Regex Char}
    (reads : readFrom chars outer inner = .pattern pattern)
    (regular : inner.Regular) (around : ∀ branch ∈ outer, branch.Regular) :
    pattern.Regular ∧
      pattern.weight + operators chars ≤
        outerWeight outer + inner.weight + chars.length := by
  fun_induction readFrom chars outer inner with
  | case1 inner =>
      cases reads
      refine ⟨regular.whole, ?_⟩
      rw [Branch.weight_whole]
      simp [operators, outerWeight]
  | case2 => cases reads
  | case3 char rest outer inner sign hypothesis =>
      obtain ⟨isRegular, short⟩ := hypothesis reads (regular.add trivial)
        around
      refine ⟨isRegular, ?_⟩
      rw [operators_cons rest (by simp [isOperator, sign]), List.length_cons]
      rw [Branch.weight_add, Regex.weight] at short
      omega
  | case4 char rest outer inner sign hypothesis =>
      obtain ⟨isRegular, short⟩ := hypothesis reads (regular.add trivial)
        around
      refine ⟨isRegular, ?_⟩
      rw [operators_cons rest (by simp [isOperator, sign]), List.length_cons]
      rw [Branch.weight_add, Regex.weight] at short
      omega
  | case5 char rest outer inner sign hypothesis =>
      obtain ⟨isRegular, short⟩ := hypothesis reads
        (regular.anchor regular_start) around
      refine ⟨isRegular, ?_⟩
      have hasOperator := operators_le (char :: rest)
      rw [List.length_cons]
      rw [Branch.weight_anchor] at short
      omega
  | case6 char rest outer inner sign hypothesis =>
      obtain ⟨isRegular, short⟩ := hypothesis reads
        (regular.anchor regular_stop) around
      refine ⟨isRegular, ?_⟩
      have hasOperator := operators_le (char :: rest)
      rw [List.length_cons]
      rw [Branch.weight_anchor] at short
      omega
  | case7 => cases reads
  | case8 => cases reads
  | case9 char outer inner sign next rest plain hypothesis =>
      obtain ⟨isRegular, short⟩ := hypothesis reads (regular.add trivial)
        around
      refine ⟨isRegular, ?_⟩
      have hasOperator := operators_le (char :: next :: rest)
      rw [List.length_cons, List.length_cons]
      rw [Branch.weight_add, Regex.weight] at short
      omega
  | case10 => cases reads
  | case11 char rest outer inner sign plain hypothesis =>
      obtain ⟨isRegular, short⟩ := hypothesis reads Branch.regular_empty
        (List.forall_mem_cons.mpr ⟨regular, around⟩)
      refine ⟨isRegular, ?_⟩
      have hasOperator := operators_le (char :: rest)
      rw [List.length_cons]
      have empty : Branch.weight {} = 0 := rfl
      simp only [outerWeight, List.foldr_cons, empty] at short ⊢
      omega
  | case12 => cases reads
  | case13 char rest inner sign enclosing outer hypothesis =>
      obtain ⟨isEnclosing, isAround⟩ := List.forall_mem_cons.mp around
      obtain ⟨isRegular, short⟩ := hypothesis reads
        (isEnclosing.add regular.whole) isAround
      refine ⟨isRegular, ?_⟩
      have hasOperator := operators_le (char :: rest)
      rw [List.length_cons]
      rw [Branch.weight_add, Branch.weight_whole] at short
      simp only [outerWeight, List.foldr_cons] at short ⊢
      omega
  | case14 char rest outer inner sign hypothesis =>
      have begun : Branch.Regular { alternatives := some inner.whole } :=
        ⟨fun pattern same => Option.some.inj same ▸ regular.whole, trivial⟩
      obtain ⟨isRegular, short⟩ := hypothesis reads begun around
      refine ⟨isRegular, ?_⟩
      have hasOperator := operators_le (char :: rest)
      have heavy : Branch.weight { alternatives := some inner.whole } =
          inner.weight := Branch.weight_whole
      rw [List.length_cons]
      omega
  | case15 => cases reads
  | case16 char rest outer inner times sign item isLast hypothesis =>
      obtain ⟨isRegular, short⟩ := hypothesis reads
        (regular.again isLast times) around
      refine ⟨isRegular, ?_⟩
      have hasOperator := operators_le (char :: rest)
      have lighter := Branch.weight_again_le isLast times
      rw [List.length_cons]
      omega
  | case17 => cases reads
  | case18 => cases reads
  | case19 char rest outer inner sign literal hypothesis =>
      obtain ⟨isRegular, short⟩ := hypothesis reads (regular.add trivial)
        around
      refine ⟨isRegular, ?_⟩
      rw [operators_cons rest (by simp [isOperator, sign]), List.length_cons]
      rw [Branch.weight_add, Regex.weight] at short
      omega
  | case20 => cases reads

end Length

/-! ### Expressions that stand for themselves

An anchored expression finds exactly the texts that begin with a given one only
if it is that text without operators.  Otherwise some short text tells the two
apart. -/

section Literal

/-- A character of a pattern without operators fits a character of a text. -/
def fits (char found : Char) : Bool :=
  if signOf char = .dot then found != '\n' else found == char

/-- A text of characters and dots. -/
def isSimple : List Char → Bool
  | [] => true
  | char :: rest =>
      !isOperator char && !(signOf char == .brace && opensCount rest) &&
        isSimple rest

/-- A text of characters that have no meaning in a pattern. -/
def isLiteral (chars : List Char) : Bool :=
  isSimple chars && chars.all fun char => signOf char ≠ .dot

/-- A match goes on through text that fits. -/
def GoesOn (chars : List Char) (cursor stop : Cursor Char) : Prop :=
  ∃ text rest, cursor.after = text ++ rest ∧
    List.Forall₂ (fun char found => fits char found = true) chars text ∧
    stop = cursor.past text rest

/-- A character that is no operator is one item. -/
theorem read_item {char : Char} {rest : List Char} {inner : Branch}
    (operand : isOperator char = false)
    (uncounted : (signOf char == .brace && opensCount rest) = false) :
    readFrom (char :: rest) [] inner =
      readFrom rest [] (inner.add (.one (fits char))) := by
  cases sign : signOf char with
  | itself =>
      have same : fits char = (· == char) := by
        funext found
        simp [fits, sign]
      rw [readFrom.eq_def]
      simp only [sign, same]
  | dot =>
      have same : fits char = (· != '\n') := by
        funext found
        simp [fits, sign]
      rw [readFrom.eq_def]
      simp only [sign, same]
  | brace =>
      have same : fits char = (· == char) := by
        funext found
        simp [fits, sign]
      have literal : opensCount rest = false := by
        simpa [sign] using uncounted
      rw [readFrom.eq_def]
      simp [sign, same, literal]
  | start | stop | escape | opening | closing | bar | repeated | reserved =>
      simp [isOperator, sign] at operand

/-- A match of an item and of what follows. -/
theorem goesOn_cons {char : Char} {rest : List Char}
    {middle stop : Cursor Char} :
    GoesOn (char :: rest) middle stop ↔
      ∃ next ∈ run (.one (fits char)) middle, GoesOn rest next stop := by
  constructor
  · rintro ⟨text, tail, parts, fitting, rfl⟩
    cases fitting with
    | cons fit fitting =>
        refine ⟨_, mem_run_one.mpr ⟨_, _, parts, fit, rfl⟩, _, tail, rfl,
          fitting, ?_⟩
        exact (Cursor.past_past middle [_] _ tail _).symm
  · rintro ⟨next, among, text, tail, parts, fitting, rfl⟩
    obtain ⟨found, after, starts, fit, rfl⟩ := mem_run_one.mp among
    refine ⟨found :: text, tail, ?_, .cons fit fitting, ?_⟩
    · rw [starts, List.cons_append, ← parts]
      rfl
    · exact Cursor.past_past middle [found] text tail after

/-- A text of characters and dots is matched one after the other. -/
theorem read_simple {chars : List Char} (simple : isSimple chars = true)
    (inner : Branch) (first : inner.alternatives = none) :
    ∃ pattern, readFrom chars [] inner = .pattern pattern ∧
      ∀ cursor stop, stop ∈ run pattern cursor ↔
        ∃ middle ∈ run inner.settled cursor, GoesOn chars middle stop := by
  induction chars generalizing inner with
  | nil =>
      refine ⟨inner.whole, rfl, fun cursor stop => ?_⟩
      have whole : inner.whole = inner.settled := by
        simp only [Branch.whole, first]
      rw [whole]
      constructor
      · intro member
        exact ⟨stop, member, [], stop.after, rfl, .nil, rfl⟩
      · rintro ⟨middle, member, text, rest, parts, fitting, rfl⟩
        cases fitting
        cases parts
        exact member
  | cons char rest inductionHypothesis =>
      simp only [isSimple, Bool.and_eq_true, Bool.not_eq_true'] at simple
      obtain ⟨⟨operand, uncounted⟩, simpleRest⟩ := simple
      obtain ⟨pattern, reads, found⟩ := inductionHypothesis simpleRest
        (inner.add (.one (fits char))) first
      refine ⟨pattern, (read_item operand uncounted).trans reads,
        fun cursor stop => ?_⟩
      have settled : (inner.add (.one (fits char))).settled =
          .seq inner.settled (.one (fits char)) := rfl
      rw [found, settled]
      simp only [mem_run_seq, goesOn_cons]
      constructor
      · rintro ⟨next, ⟨middle, member, among⟩, goesOn⟩
        exact ⟨middle, member, next, among, goesOn⟩
      · rintro ⟨middle, member, next, among, goesOn⟩
        exact ⟨next, ⟨middle, member, among⟩, goesOn⟩

/-- After `^`, a text of characters and dots is found exactly in the texts with
a start that fits. -/
theorem finds_anchored {chars : List Char} (simple : isSimple chars = true) :
    ∃ pattern, readFrom ('^' :: chars) [] {} = .pattern pattern ∧
      ∀ text, finds pattern text = true ↔
        ∃ front, front <+: text ∧
          List.Forall₂ (fun char found => fits char found = true) chars
            front := by
  obtain ⟨pattern, reads, found⟩ := read_simple simple
    (Branch.anchor {} fun before _ => before.isEmpty) rfl
  refine ⟨pattern, reads, fun text => ?_⟩
  -- the anchor holds at the start of the text only
  have anchored (cursor middle : Cursor Char) : middle ∈ run
      (Branch.anchor {} fun before _ => before.isEmpty).settled cursor ↔
        cursor.before = [] ∧ middle = cursor := by
    simp [Branch.anchor, Branch.settled, run, List.isEmpty_iff]
  rw [finds_iff]
  constructor
  · rintro ⟨before, after, stop, rfl, member⟩
    obtain ⟨middle, among, front, rest, parts, fitting, -⟩ :=
      (found _ _).mp member
    obtain ⟨atStart, rfl⟩ := (anchored _ _).mp among
    cases List.reverse_eq_nil_iff.mp atStart
    exact ⟨front, ⟨rest, parts.symm⟩, fitting⟩
  · rintro ⟨front, ⟨rest, rfl⟩, fitting⟩
    refine ⟨[], front ++ rest, _, rfl, (found _ _).mpr ⟨_,
      (anchored _ _).mpr ⟨rfl, rfl⟩, front, rest, rfl, fitting, rfl⟩⟩

/-- A literal character fits itself. -/
theorem fits_literal {chars text : List Char}
    (literal : isLiteral chars = true) :
    List.Forall₂ (fun char found => fits char found = true) chars text ↔
      text = chars := by
  simp only [isLiteral, Bool.and_eq_true, List.all_eq_true,
    decide_eq_true_eq] at literal
  have plain := literal.2
  clear literal
  induction chars generalizing text with
  | nil => simp
  | cons char rest inductionHypothesis =>
      obtain ⟨itself, others⟩ := List.forall_mem_cons.mp plain
      rw [List.forall₂_cons_left_iff]
      constructor
      · rintro ⟨found, tail, fit, fitting, rfl⟩
        have same : found = char := by simpa [fits, itself] using fit
        rw [same, (inductionHypothesis others).mp fitting]
      · rintro rfl
        exact ⟨char, rest, by simp [fits, itself],
          (inductionHypothesis others).mpr rfl, rfl⟩

/-- After `^`, a literal text is found exactly in the texts that begin with
it. -/
theorem finds_literal {chars : List Char} (literal : isLiteral chars = true) :
    ∃ pattern, readFrom ('^' :: chars) [] {} = .pattern pattern ∧
      ∀ text, finds pattern text = chars.isPrefixOf text := by
  have simple := (Bool.and_eq_true_iff.mp literal).1
  obtain ⟨pattern, reads, found⟩ := finds_anchored simple
  refine ⟨pattern, reads, fun text => Bool.eq_iff_iff.mpr ?_⟩
  rw [found, List.isPrefixOf_iff_prefix]
  simp only [fits_literal literal]
  exact exists_eq_right

/-- A text without operators that can be read is one of characters and dots. -/
theorem simple_of_reads {chars : List Char} {outer : List Branch}
    {inner : Branch} {pattern : Regex Char}
    (reads : readFrom chars outer inner = .pattern pattern)
    (operand : ∀ char ∈ chars, isOperator char = false) :
    isSimple chars = true := by
  fun_induction readFrom chars outer inner with
  | case1 => rfl
  | case3 char rest outer inner sign hypothesis =>
      obtain ⟨-, others⟩ := List.forall_mem_cons.mp operand
      simp [isSimple, isOperator, sign, hypothesis reads others]
  | case4 char rest outer inner sign hypothesis =>
      obtain ⟨-, others⟩ := List.forall_mem_cons.mp operand
      simp [isSimple, isOperator, sign, hypothesis reads others]
  | case19 char rest outer inner sign literal hypothesis =>
      obtain ⟨-, others⟩ := List.forall_mem_cons.mp operand
      simp [isSimple, isOperator, sign, hypothesis reads others, literal]
  | case2 | case7 | case8 | case10 | case12 | case15 | case17 | case18
  | case20 => cases reads
  | case5 char rest outer inner sign | case6 char rest outer inner sign
  | case9 char outer inner sign | case11 char rest outer inner sign
  | case13 char rest inner sign | case14 char rest outer inner sign
  | case16 char rest outer inner times sign =>
      have plain := operand char List.mem_cons_self
      simp [isOperator, sign] at plain

/-- What is read after `^`. -/
theorem reads_anchored {chars : List Char} {pattern : Regex Char}
    (reads : readFrom ('^' :: chars) [] {} = .pattern pattern) :
    readFrom chars [] (.anchor {} fun before _ => before.isEmpty) =
      .pattern pattern :=
  reads

/-- A pattern that is found, after `^`, exactly in the texts that begin with
its own text is literal: an operator leaves it fewer characters to match than
it is long, and a dot also matches another character. -/
theorem literal_of_finds {chars : List Char} {pattern : Regex Char}
    (reads : readFrom ('^' :: chars) [] {} = .pattern pattern)
    (same : ∀ text, finds pattern text = chars.isPrefixOf text) :
    isLiteral chars = true := by
  cases hasOperator : chars.any isOperator with
  | true =>
      obtain ⟨regular, isLight⟩ := read_length (reads_anchored reads)
        (Branch.regular_empty.anchor regular_start) nofun
      have itself : finds pattern chars = true := by
        rw [same]
        exact List.isPrefixOf_iff_prefix.mpr List.prefix_rfl
      obtain ⟨short, isShort, found⟩ := finds_short regular itself
      rw [same] at found
      have long := (List.isPrefixOf_iff_prefix.mp found).length_le
      have weightless : Branch.weight
          (.anchor {} fun before _ => before.isEmpty) = 0 := rfl
      have light : pattern.weight + 1 ≤ chars.length := by
        simpa [operators, hasOperator, outerWeight, weightless] using isLight
      omega
  | false =>
      have simple : isSimple chars = true :=
        simple_of_reads (reads_anchored reads) fun char member => by
          simpa using List.any_eq_false.mp hasOperator char member
      obtain ⟨other, alsoReads, found⟩ := finds_anchored simple
      cases reads.symm.trans alsoReads
      refine Bool.and_eq_true_iff.mpr ⟨simple, ?_⟩
      -- a text with another character in the place of each dot
      let filled (char : Char) : Char :=
        if signOf char = .dot then 'x' else char
      have fitting : List.Forall₂ (fun char found => fits char found = true)
          chars (chars.map filled) := by
        rw [List.forall₂_map_right_iff, List.forall₂_same]
        intro char _
        by_cases dot : signOf char = .dot
        · simp [fits, filled, dot]
        · simp [fits, filled, dot]
      have begins := (found _).mpr ⟨_, List.prefix_rfl, fitting⟩
      rw [same] at begins
      have unchanged : chars = chars.map filled :=
        (List.isPrefixOf_iff_prefix.mp begins).eq_of_length (by simp)
      have each := List.map_inj_left.mp
        (unchanged.symm.trans (List.map_id chars).symm)
      refine List.all_eq_true.mpr fun char member =>
        decide_eq_true fun dot => ?_
      have isX : 'x' = char := by
        have kept := each char member
        simpa only [filled, dot, if_true, id] using kept
      rw [← isX] at dot
      cases dot

end Literal

end Syntax

end Regex
