/-
Module: Integr8s.Lib.Regex
Purpose: Backtracking regular expressions over any tokens: what a pattern
  matches from a place in a text, in the order in which a matcher tries it.
Trusted boundary: human-reviewed spec
Main exports: Regex, Regex.Cursor, Regex.run, Regex.matchStart,
  Regex.fullmatch, Regex.mem_run_seq, Regex.mem_run_starOne,
  Regex.mem_run_literal
-/
import Mathlib.Data.Bool.AllAny
import Mathlib.Data.List.Basic

universe u

/-- A pattern.  An assertion looks at the text before, read backwards, and at
the text after; an atomic pattern keeps its first match, as a possessive
quantifier does. -/
inductive Regex (Token : Type u) where
  | empty
  | one (accepts : Token → Bool)
  | assert (holds : List Token → List Token → Bool)
  | seq (first second : Regex Token)
  | alt (first second : Regex Token)
  | star (body : Regex Token)
  | atomic (body : Regex Token)
  | group (index : Nat) (body : Regex Token)

namespace Regex

/-- A place in a text, with the groups captured on the way; the text before is
reversed. -/
structure Cursor (Token : Type u) where
  before : List Token := []
  after : List Token
  groups : List (Nat × List Token) := []
deriving DecidableEq, Repr

variable {Token : Type u}

namespace Cursor

/-- The text between two places. -/
def textTo (start stop : Cursor Token) : List Token :=
  start.after.take (start.after.length - stop.after.length)

/-- The place after some text. -/
def past (start : Cursor Token) (text rest : List Token) : Cursor Token :=
  { start with before := text.reverse ++ start.before, after := rest }

/-- The text that a group captured last. -/
def captured (cursor : Cursor Token) (index : Nat) : Option (List Token) :=
  cursor.groups.lookup index

end Cursor

/-- Repeat what can be matched, longest first; a round that consumes nothing is
not repeated. -/
def repeatFrom (step : Cursor Token → List (Cursor Token)) :
    Nat → Cursor Token → List (Cursor Token)
  | 0, cursor => [cursor]
  | rounds + 1, cursor =>
      ((step cursor).filter fun next =>
        next.after.length < cursor.after.length).flatMap
          (repeatFrom step rounds) ++ [cursor]

/-- Where a match from a place can end, in the order of a backtracking
matcher. -/
def run : Regex Token → Cursor Token → List (Cursor Token)
  | empty, cursor => [cursor]
  | one accepts, cursor =>
      match cursor.after with
      | [] => []
      | token :: rest =>
          if accepts token then [cursor.past [token] rest] else []
  | assert holds, cursor =>
      if holds cursor.before cursor.after then [cursor] else []
  | seq first second, cursor => (run first cursor).flatMap (run second)
  | alt first second, cursor => run first cursor ++ run second cursor
  | star body, cursor => repeatFrom (run body) cursor.after.length cursor
  | atomic body, cursor => (run body cursor).take 1
  | group index body, cursor =>
      (run body cursor).map fun stop =>
        { stop with groups := (index, cursor.textTo stop) :: stop.groups }

/-- `re.match`: the first match at the start of a text. -/
def matchStart (pattern : Regex Token) (text : List Token) :
    Option (Cursor Token) :=
  (run pattern { after := text }).head?

/-- `re.fullmatch`: the first match of a whole text. -/
def fullmatch (pattern : Regex Token) (text : List Token) :
    Option (Cursor Token) :=
  (run pattern { after := text }).find? fun stop => stop.after.isEmpty

/-- One or more. -/
def plus (body : Regex Token) : Regex Token :=
  seq body (star body)

/-- Zero or one. -/
def opt (body : Regex Token) : Regex Token :=
  alt body empty

/-- A text as it stands. -/
def literal [DecidableEq Token] (text : List Token) : Regex Token :=
  text.foldr (fun token rest => seq (one (· == token)) rest) empty

/-- `^`. -/
def atStart : Regex Token :=
  assert fun before _ => before.isEmpty

/-- The first of some patterns that matches. -/
def oneOf : List (Regex Token) → Regex Token
  | [] => assert fun _ _ => false
  | [pattern] => pattern
  | pattern :: patterns => alt pattern (oneOf patterns)

/-! ### What matches there are -/

section Matches

variable {cursor stop : Cursor Token} {pattern first second : Regex Token}
  {accepts : Token → Bool}

@[simp] theorem mem_run_empty : stop ∈ run empty cursor ↔ stop = cursor := by
  simp [run]

theorem mem_run_one :
    stop ∈ run (one accepts) cursor ↔
      ∃ token rest, cursor.after = token :: rest ∧ accepts token = true ∧
        stop = cursor.past [token] rest := by
  unfold run
  cases cursor.after with
  | nil => simp
  | cons token rest =>
      by_cases accepted : accepts token
      · simp [accepted]
      · simp [accepted]

@[simp] theorem mem_run_assert {holds : List Token → List Token → Bool} :
    stop ∈ run (assert holds) cursor ↔
      holds cursor.before cursor.after = true ∧ stop = cursor := by
  by_cases held : holds cursor.before cursor.after
  · simp [run, held]
  · simp [run, held]

@[simp] theorem mem_run_seq :
    stop ∈ run (seq first second) cursor ↔
      ∃ middle ∈ run first cursor, stop ∈ run second middle :=
  List.mem_flatMap

@[simp] theorem mem_run_alt :
    stop ∈ run (alt first second) cursor ↔
      stop ∈ run first cursor ∨ stop ∈ run second cursor :=
  List.mem_append

@[simp] theorem mem_run_group {index : Nat} :
    stop ∈ run (group index pattern) cursor ↔
      ∃ inner ∈ run pattern cursor,
        { inner with groups := (index, cursor.textTo inner) :: inner.groups } =
          stop :=
  List.mem_map

theorem mem_run_oneOf {patterns : List (Regex Token)} :
    stop ∈ run (oneOf patterns) cursor ↔
      ∃ pattern ∈ patterns, stop ∈ run pattern cursor := by
  induction patterns with
  | nil => simp [oneOf]
  | cons head tail inductionHypothesis =>
      cases tail with
      | nil => simp [oneOf]
      | cons next rest => simp [oneOf, inductionHypothesis]

@[simp] theorem Cursor.past_past (cursor : Cursor Token)
    (first second rest other : List Token) :
    (cursor.past first other).past second rest =
      cursor.past (first ++ second) rest := by
  simp [past]

@[simp] theorem Cursor.past_after (cursor : Cursor Token)
    (text rest : List Token) : (cursor.past text rest).after = rest :=
  rfl

@[simp] theorem Cursor.past_before (cursor : Cursor Token)
    (text rest : List Token) :
    (cursor.past text rest).before = text.reverse ++ cursor.before :=
  rfl

@[simp] theorem Cursor.past_groups (cursor : Cursor Token)
    (text rest : List Token) :
    (cursor.past text rest).groups = cursor.groups :=
  rfl

/-- At the end of the text nothing is repeated. -/
theorem repeatFrom_nil {step : Cursor Token → List (Cursor Token)}
    (rounds : Nat) (none : cursor.after = []) :
    repeatFrom step rounds cursor = [cursor] := by
  cases rounds with
  | zero => rfl
  | succ rounds => simp [repeatFrom, none]

/-- More rounds than there is text make no difference. -/
theorem repeatFrom_enough {step : Cursor Token → List (Cursor Token)}
    {rounds more : Nat} (fits : cursor.after.length ≤ rounds)
    (fitsToo : cursor.after.length ≤ more) :
    repeatFrom step rounds cursor = repeatFrom step more cursor := by
  induction rounds generalizing more cursor with
  | zero =>
      have none := List.length_eq_zero_iff.mp (Nat.le_zero.mp fits)
      rw [repeatFrom_nil _ none, repeatFrom_nil _ none]
  | succ rounds inductionHypothesis =>
      cases more with
      | zero =>
          have none := List.length_eq_zero_iff.mp (Nat.le_zero.mp fitsToo)
          rw [repeatFrom_nil _ none, repeatFrom_nil _ none]
      | succ more =>
          unfold repeatFrom
          congr 1
          apply List.flatMap_congr
          intro next member
          have shorter := of_decide_eq_true (List.mem_filter.mp member).2
          exact inductionHypothesis (by omega) (by omega)

/-- The law of repetition: match once and repeat, or stop. -/
theorem run_star :
    run (star pattern) cursor =
      ((run pattern cursor).filter fun next =>
        next.after.length < cursor.after.length).flatMap
          (run (star pattern)) ++ [cursor] := by
  rw [run]
  cases length : cursor.after.length with
  | zero =>
      have none := List.length_eq_zero_iff.mp length
      simp [repeatFrom]
  | succ rounds =>
      unfold repeatFrom
      rw [length]
      congr 1
      apply List.flatMap_congr
      intro next member
      have shorter := of_decide_eq_true (List.mem_filter.mp member).2
      exact repeatFrom_enough (by omega) (Nat.le_refl _)

/-- Repeating one token: once more if it can be, then not. -/
theorem run_starOne :
    run (star (one accepts)) cursor =
      match cursor.after with
      | [] => [cursor]
      | token :: rest =>
          if accepts token then
            run (star (one accepts)) (cursor.past [token] rest) ++ [cursor]
          else [cursor] := by
  rw [run_star]
  cases after : cursor.after with
  | nil => simp
  | cons token rest =>
      by_cases accepted : accepts token
      · simp [run, after, accepted]
      · simp [run, after, accepted]

@[simp] theorem Cursor.past_nil (cursor : Cursor Token) :
    cursor.past [] cursor.after = cursor :=
  rfl

/-- What any number of tokens of a class matches. -/
theorem mem_run_starOne :
    stop ∈ run (star (one accepts)) cursor ↔
      ∃ text rest, cursor.after = text ++ rest ∧
        (∀ token ∈ text, accepts token = true) ∧
        stop = cursor.past text rest := by
  obtain ⟨before, after, groups⟩ := cursor
  induction after generalizing before with
  | nil =>
      rw [run_starOne, List.mem_singleton]
      constructor
      · rintro rfl
        exact ⟨[], [], rfl, nofun, rfl⟩
      · rintro ⟨text, rest, parts, -, rfl⟩
        obtain ⟨rfl, rfl⟩ := List.append_eq_nil_iff.mp parts.symm
        rfl
  | cons token tail inductionHypothesis =>
      rw [run_starOne]
      simp only
      constructor
      · intro member
        split at member
        · next accepted =>
            rcases List.mem_append.mp member with more | here
            · obtain ⟨text, rest, parts, all, rfl⟩ :=
                (inductionHypothesis _).mp more
              refine ⟨token :: text, rest, by simp_all, ?_, ?_⟩
              · simpa [accepted] using all
              · exact Cursor.past_past _ [token] text rest tail
            · rw [List.mem_singleton.mp here]
              exact ⟨[], token :: tail, rfl, nofun, rfl⟩
        · rw [List.mem_singleton.mp member]
          exact ⟨[], token :: tail, rfl, nofun, rfl⟩
      · rintro ⟨text, rest, parts, all, rfl⟩
        cases text with
        | nil =>
            cases parts
            split
            · exact List.mem_append_right _ List.mem_cons_self
            · exact List.mem_cons_self
        | cons head text =>
            cases parts
            rw [if_pos (all token List.mem_cons_self)]
            refine List.mem_append_left _ ((inductionHypothesis _).mpr
              ⟨text, rest, rfl, fun other member =>
                all other (List.mem_cons_of_mem _ member), ?_⟩)
            exact (Cursor.past_past _ [token] text rest _).symm

/-- What one or more tokens of a class match. -/
theorem mem_run_plusOne :
    stop ∈ run (plus (one accepts)) cursor ↔
      ∃ text rest, cursor.after = text ++ rest ∧ text ≠ [] ∧
        (∀ token ∈ text, accepts token = true) ∧
        stop = cursor.past text rest := by
  simp only [plus, mem_run_seq, mem_run_one, mem_run_starOne]
  constructor
  · rintro ⟨_, ⟨token, tail, starts, accepted, rfl⟩, text, rest, parts, all,
      rfl⟩
    refine ⟨token :: text, rest, ?_, by simp, ?_, ?_⟩
    · rw [starts, List.cons_append, ← parts]
      rfl
    · simpa [accepted] using all
    · exact Cursor.past_past ..
  · rintro ⟨text, rest, parts, some, all, rfl⟩
    cases text with
    | nil => exact absurd rfl some
    | cons token text =>
        refine ⟨_, ⟨token, text ++ rest, parts, all token List.mem_cons_self,
          rfl⟩, text, rest, rfl, fun other member =>
            all other (List.mem_cons_of_mem _ member), ?_⟩
        exact (Cursor.past_past cursor [token] text rest _).symm

/-- The text between two places is what was consumed. -/
theorem Cursor.textTo_of_append {start stop : Cursor Token} {text : List Token}
    (parts : start.after = text ++ stop.after) : start.textTo stop = text := by
  simp [textTo, parts]

theorem matchStart_isSome {text : List Token} :
    (matchStart pattern text).isSome = true ↔
      ∃ stop, stop ∈ run pattern { after := text } := by
  rw [matchStart, List.isSome_head?]
  exact ⟨List.exists_mem_of_ne_nil _,
    fun ⟨stop, member⟩ => List.ne_nil_of_mem member⟩

/-- A whole match is a match that ends with the text. -/
theorem fullmatch_eq_some {text : List Token}
    (found : fullmatch pattern text = some stop) :
    stop ∈ run pattern { after := text } ∧ stop.after = [] := by
  refine ⟨List.mem_of_find?_eq_some found, List.isEmpty_iff.mp ?_⟩
  have ends := List.find?_some found
  exact ends

theorem fullmatch_isSome {text : List Token}
    (member : stop ∈ run pattern { after := text }) (ends : stop.after = []) :
    ∃ found, fullmatch pattern text = some found := by
  apply Option.isSome_iff_exists.mp
  exact List.find?_isSome.mpr ⟨stop, member, List.isEmpty_iff.mpr ends⟩

/-- What a text as it stands matches. -/
@[simp] theorem mem_run_literal [DecidableEq Token] {text : List Token} :
    stop ∈ run (literal text) cursor ↔
      ∃ rest, cursor.after = text ++ rest ∧ stop = cursor.past text rest := by
  induction text generalizing cursor with
  | nil => simp [literal]
  | cons token text inductionHypothesis =>
      show stop ∈ run (seq (one (· == token)) (literal text)) cursor ↔ _
      simp only [mem_run_seq, mem_run_one, inductionHypothesis]
      constructor
      · rintro ⟨_, ⟨other, tail, starts, same, rfl⟩, rest, parts, rfl⟩
        cases eq_of_beq same
        refine ⟨rest, ?_, Cursor.past_past ..⟩
        rw [starts, List.cons_append, ← parts]
        rfl
      · rintro ⟨rest, parts, rfl⟩
        exact ⟨_, ⟨token, text ++ rest, parts, beq_self_eq_true token, rfl⟩,
          rest, rfl, (Cursor.past_past cursor [token] text rest _).symm⟩

end Matches

end Regex
