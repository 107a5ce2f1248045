/-
Module: Integr8s.Lib.RegexLanguage
Purpose: The texts that a pattern spells, and that a backtracking matcher finds
  a match wherever one of them stands.
Trusted boundary: none
Main exports: Regex.Spells, Regex.Spells.reaches, Regex.Spells.found
-/
import Integr8s.Lib.RegexReplace

universe u v

namespace Regex

variable {Token : Type u}

/-- A text is one of those that a pattern stands for. -/
inductive Spells : Regex Token → List Token → Prop where
  | empty : Spells empty []
  | one {accepts : Token → Bool} {token : Token}
      (accepted : accepts token = true) : Spells (one accepts) [token]
  | seq {first second : Regex Token} {text more : List Token}
      (begins : Spells first text) (goesOn : Spells second more) :
      Spells (seq first second) (text ++ more)
  | left {first second : Regex Token} {text : List Token}
      (spells : Spells first text) : Spells (alt first second) text
  | right {first second : Regex Token} {text : List Token}
      (spells : Spells second text) : Spells (alt first second) text
  | rest {body : Regex Token} : Spells (star body) []
  | round {body : Regex Token} {text more : List Token}
      (spells : Spells body text) (some : text ≠ [])
      (goesOn : Spells (star body) more) : Spells (star body) (text ++ more)
  | group {index : Nat} {body : Regex Token} {text : List Token}
      (spells : Spells body text) : Spells (group index body) text

section Sugar

variable {body : Regex Token} {accepts : Token → Bool} {text more : List Token}

theorem Spells.many (all : ∀ token ∈ text, accepts token = true) :
    Spells (star (Regex.one accepts)) text := by
  induction text with
  | nil => exact .rest
  | cons token text inductionHypothesis =>
      have first : Spells (Regex.one accepts) [token] :=
        .one (all token List.mem_cons_self)
      exact first.round (List.cons_ne_nil _ _) (inductionHypothesis
        fun other member => all other (List.mem_cons_of_mem _ member))

theorem Spells.join {first second : Regex Token} {whole : List Token}
    (begins : Spells first text) (goesOn : Spells second more)
    (parts : text ++ more = whole) : Spells (Regex.seq first second) whole :=
  parts ▸ .seq begins goesOn

theorem Spells.plus (first : Spells body text)
    (goesOn : Spells (star body) more) :
    Spells (Regex.plus body) (text ++ more) :=
  .seq first goesOn

theorem Spells.opt (spells : Spells body text) : Spells (Regex.opt body) text :=
  .left spells

theorem Spells.none : Spells (Regex.opt body) [] :=
  .right .empty

theorem Spells.oneOf {patterns : List (Regex Token)} {pattern : Regex Token}
    (among : pattern ∈ patterns) (spells : Spells pattern text) :
    Spells (Regex.oneOf patterns) text := by
  induction patterns with
  | nil => cases among
  | cons head tail inductionHypothesis =>
      cases tail with
      | nil => exact List.mem_singleton.mp among ▸ spells
      | cons next rest =>
          cases among with
          | head => exact .left spells
          | tail _ among => exact .right (inductionHypothesis among)

end Sugar

/-- Where a pattern spells what comes next, a match of it can end there. -/
theorem Spells.reaches {pattern : Regex Token} {text rest : List Token}
    {cursor : Cursor Token} (spells : Spells pattern text)
    (parts : cursor.after = text ++ rest) :
    ∃ stop ∈ run pattern cursor, stop.after = rest := by
  induction spells generalizing cursor rest with
  | empty => exact ⟨cursor, mem_run_empty.mpr rfl, parts⟩
  | @one accepts token accepted =>
      exact ⟨_, mem_run_one.mpr ⟨token, rest, parts, accepted, rfl⟩, rfl⟩
  | seq begins goesOn beginsHypothesis goesOnHypothesis =>
      rw [List.append_assoc] at parts
      obtain ⟨middle, among, left⟩ := beginsHypothesis parts
      obtain ⟨stop, amongToo, ends⟩ := goesOnHypothesis left
      exact ⟨stop, mem_run_seq.mpr ⟨middle, among, amongToo⟩, ends⟩
  | left spells inductionHypothesis =>
      obtain ⟨stop, among, ends⟩ := inductionHypothesis parts
      exact ⟨stop, mem_run_alt.mpr (.inl among), ends⟩
  | right spells inductionHypothesis =>
      obtain ⟨stop, among, ends⟩ := inductionHypothesis parts
      exact ⟨stop, mem_run_alt.mpr (.inr among), ends⟩
  | rest =>
      refine ⟨cursor, ?_, parts⟩
      rw [run_star]
      exact List.mem_append_right _ List.mem_cons_self
  | @round body text more spells some goesOn spellsHypothesis goesOnHypothesis =>
      rw [List.append_assoc] at parts
      obtain ⟨middle, among, left⟩ := spellsHypothesis parts
      obtain ⟨stop, amongToo, ends⟩ := goesOnHypothesis left
      refine ⟨stop, ?_, ends⟩
      have shorter : middle.after.length < cursor.after.length := by
        have positive := List.length_pos_iff.mpr some
        simp only [left, parts, List.length_append]
        omega
      rw [run_star]
      apply List.mem_append_left
      exact List.mem_flatMap.mpr
        ⟨middle, List.mem_filter.mpr ⟨among, decide_eq_true shorter⟩, amongToo⟩
  | group spells inductionHypothesis =>
      obtain ⟨inner, among, ends⟩ := inductionHypothesis parts
      exact ⟨_, mem_run_group.mpr ⟨inner, among, rfl⟩, ends⟩

/-- A pattern that always consumes something is found where it spells what
comes next. -/
theorem Spells.found {pattern : Regex Token} {text rest before : List Token}
    (spells : Spells pattern text) (needs : Needs (fun _ => True) pattern) :
    ∃ stop, firstMatch pattern { before := before, after := text ++ rest } =
      some stop := by
  obtain ⟨stop, among, -⟩ :=
    @Spells.reaches _ _ _ rest ⟨before, text ++ rest, []⟩ spells rfl
  obtain ⟨first, head⟩ := Option.isSome_iff_exists.mp
    (List.isSome_head?.mpr (List.ne_nil_of_mem among))
  refine ⟨first, Option.filter_eq_some_iff.mpr ⟨head, decide_eq_true ?_⟩⟩
  obtain ⟨consumedText, consumed, token, member, -⟩ :=
    needs.consumed (List.mem_of_head? head)
  have parts : text ++ rest = consumedText ++ first.after := consumed.after
  have some := List.length_pos_of_mem member
  change first.after.length < (text ++ rest).length
  rw [parts, List.length_append]
  omega

/-- A text that a pattern spells is spelled by what reads as it. -/
theorem Spells.comap {Other : Type v} {read : Other → Token}
    {pattern : Regex Token} {text : List Token} (spells : Spells pattern text)
    {source : List Other} (reads : source.map read = text) :
    Spells (Regex.comap read pattern) source := by
  induction spells generalizing source with
  | empty =>
      rw [List.map_eq_nil_iff.mp reads]
      exact .empty
  | one accepted =>
      obtain ⟨token, rfl, rfl⟩ := List.map_eq_singleton_iff.mp reads
      exact .one accepted
  | seq begins goesOn beginsHypothesis goesOnHypothesis =>
      obtain ⟨front, back, rfl, frontReads, backReads⟩ :=
        List.map_eq_append_iff.mp reads
      exact .seq (beginsHypothesis frontReads) (goesOnHypothesis backReads)
  | left spells inductionHypothesis => exact .left (inductionHypothesis reads)
  | right spells inductionHypothesis => exact .right (inductionHypothesis reads)
  | rest =>
      rw [List.map_eq_nil_iff.mp reads]
      exact .rest
  | round spells some goesOn spellsHypothesis goesOnHypothesis =>
      obtain ⟨front, back, rfl, frontReads, backReads⟩ :=
        List.map_eq_append_iff.mp reads
      refine .round (spellsHypothesis frontReads) ?_
        (goesOnHypothesis backReads)
      rintro rfl
      exact some frontReads.symm
  | group spells inductionHypothesis => exact .group (inductionHypothesis reads)

end Regex
