/-
Module: Integr8s.Lib.SortedSet
Purpose: A set whose members carry scores, with the commands that an in-memory
  store has for it: add a member or move it, move only an existing member,
  remove a member, drop the members up to a score, pop the least member and
  count.
Trusted boundary: none
Main exports: SortedSet, SortedSet.add, SortedSet.addExisting,
  SortedSet.remove, SortedSet.prune, SortedSet.popMin, SortedSet.rank,
  SortedSet.card
-/
import Mathlib.Data.List.AList
import Mathlib.Data.Prod.Lex

universe u

/-- Members with their scores. -/
abbrev SortedSet (Member : Type u) : Type u := AList fun _ : Member => Nat

namespace SortedSet

variable {Member : Type u}

/-- `ZCARD`. -/
def card (set : SortedSet Member) : Nat := set.entries.length

/-- `ZREMRANGEBYSCORE` from minus infinity up to a bound. -/
def prune (set : SortedSet Member) (bound : Nat) : SortedSet Member :=
  ⟨set.entries.filter fun entry => bound < entry.2,
    set.nodupKeys.sublist List.filter_sublist⟩

theorem card_prune_le (set : SortedSet Member) (bound : Nat) :
    (set.prune bound).card ≤ set.card :=
  List.length_filter_le _ _

section Commands

variable [DecidableEq Member]

/-- `ZSCORE`. -/
def score (set : SortedSet Member) (member : Member) : Option Nat :=
  set.lookup member

/-- `ZADD`: add a member, or move it when it is there. -/
def add (set : SortedSet Member) (member : Member) (score : Nat) :
    SortedSet Member :=
  set.insert member score

/-- `ZADD` with `XX`: move a member only when it is there. -/
def addExisting (set : SortedSet Member) (member : Member) (score : Nat) :
    SortedSet Member :=
  if member ∈ set then set.insert member score else set

/-- `ZREM`. -/
def remove (set : SortedSet Member) (member : Member) : SortedSet Member :=
  set.erase member

variable {set : SortedSet Member} {member other : Member} {score bound : Nat}

@[simp] theorem score_empty : (∅ : SortedSet Member).score member = none :=
  AList.lookup_empty member

private theorem score_isSome : (set.score member).isSome ↔ member ∈ set :=
  AList.lookup_isSome

theorem mem_iff_score : member ∈ set ↔ ∃ score, set.score member = some score := by
  rw [← score_isSome, Option.isSome_iff_exists]

theorem score_eq_none : set.score member = none ↔ member ∉ set :=
  AList.lookup_eq_none

@[simp] theorem score_add_self :
    (set.add member score).score member = some score :=
  AList.lookup_insert set

@[simp] theorem score_add_other (different : other ≠ member) :
    (set.add member score).score other = set.score other :=
  AList.lookup_insert_ne different

@[simp] theorem score_addExisting_self :
    (set.addExisting member score).score member =
      (set.score member).map fun _ => score := by
  by_cases present : member ∈ set
  · obtain ⟨old, stored⟩ := mem_iff_score.mp present
    rw [stored]
    simp only [addExisting, if_pos present, Option.map_some]
    exact AList.lookup_insert set
  · rw [score_eq_none.mpr present]
    simp only [addExisting, if_neg present, Option.map_none]
    exact score_eq_none.mpr present

@[simp] theorem score_addExisting_other (different : other ≠ member) :
    (set.addExisting member score).score other = set.score other := by
  unfold addExisting
  split
  · exact AList.lookup_insert_ne different
  · rfl

@[simp] theorem score_remove_self :
    (set.remove member).score member = none :=
  AList.lookup_erase member set

@[simp] theorem score_remove_other (different : other ≠ member) :
    (set.remove member).score other = set.score other :=
  AList.lookup_erase_ne different

/-- A pruned set keeps the members above the bound. -/
@[simp] theorem score_prune :
    (set.prune bound).score member =
      (set.score member).filter fun score => bound < score := by
  ext score
  rw [Option.filter_eq_some_iff]
  simp only [SortedSet.score, ← Option.mem_def, AList.mem_lookup_iff, prune,
    List.mem_filter, decide_eq_true_eq]

@[simp] theorem mem_add :
    other ∈ set.add member score ↔ other = member ∨ other ∈ set :=
  AList.mem_insert set

@[simp] theorem mem_remove :
    other ∈ set.remove member ↔ other ≠ member ∧ other ∈ set :=
  AList.mem_erase

theorem mem_addExisting :
    other ∈ set.addExisting member score ↔ other ∈ set := by
  unfold addExisting
  split
  · next present =>
      rw [AList.mem_insert]
      constructor
      · rintro (rfl | inside)
        · exact present
        · exact inside
      · exact .inr
  · rfl

theorem mem_of_mem_prune (inside : member ∈ set.prune bound) :
    member ∈ set := by
  obtain ⟨score, scored⟩ := mem_iff_score.mp inside
  rw [score_prune, Option.filter_eq_some_iff] at scored
  exact mem_iff_score.mpr ⟨score, scored.1⟩

/-- Removing what is not there changes nothing. -/
theorem remove_of_notMem (absent : member ∉ set) :
    set.remove member = set := by
  apply AList.ext
  exact List.kerase_of_notMem_keys fun present =>
    absent (AList.mem_keys.mpr present)

theorem addExisting_of_notMem (absent : member ∉ set) :
    set.addExisting member score = set :=
  if_neg absent

theorem card_add_le : (set.add member score).card ≤ set.card + 1 := by
  simp only [card, add, AList.entries_insert, List.length_cons]
  exact Nat.succ_le_succ (List.kerase_sublist _ _).length_le

private theorem card_add_of_mem (present : member ∈ set) :
    (set.add member score).card = set.card := by
  obtain ⟨value, front, back, -, whole, erased⟩ :=
    List.exists_of_kerase (AList.mem_keys.mp present)
  rw [card, add, AList.entries_insert, erased, card, whole]
  simp only [List.length_cons, List.length_append]
  omega

@[simp] theorem card_addExisting :
    (set.addExisting member score).card = set.card := by
  unfold addExisting
  split
  · next present => exact card_add_of_mem present
  · rfl

theorem card_remove_of_mem (present : member ∈ set) :
    (set.remove member).card + 1 = set.card := by
  obtain ⟨value, front, back, -, whole, erased⟩ :=
    List.exists_of_kerase (AList.mem_keys.mp present)
  show (set.entries.kerase member).length + 1 = set.entries.length
  rw [erased, whole]
  simp only [List.length_cons, List.length_append]
  omega

theorem card_remove_le : (set.remove member).card ≤ set.card :=
  (List.kerase_sublist _ _).length_le

end Commands

section Order

variable [LinearOrder Member]

/-- The order in which members are popped: by score, then by member. -/
def before (first second : Σ _ : Member, Nat) : Bool :=
  decide (first.2 < second.2) ||
    (first.2 == second.2 && decide (first.1 < second.1))

/-- The first of some members. -/
def least : List (Σ _ : Member, Nat) → Option (Σ _ : Member, Nat)
  | [] => none
  | entry :: entries =>
      match least entries with
      | none => some entry
      | some best => some (if before entry best then entry else best)

/-- `ZPOPMIN`: take out the first member. -/
def popMin (set : SortedSet Member) :
    Option ((Σ _ : Member, Nat) × SortedSet Member) :=
  (least set.entries).map fun entry => (entry, set.remove entry.1)

/-- `ZRANK`: how many members come before this one. -/
def rank (set : SortedSet Member) (member : Member) : Option Nat :=
  (set.score member).map fun score =>
    (set.entries.filter fun entry => before entry ⟨member, score⟩).length

private theorem least_mem {entries : List (Σ _ : Member, Nat)}
    {entry : Σ _ : Member, Nat} (found : least entries = some entry) :
    entry ∈ entries := by
  induction entries generalizing entry with
  | nil => cases found
  | cons head tail inductionHypothesis =>
      cases rest : least tail with
      | none =>
          simp only [least, rest, Option.some.injEq] at found
          simp [found]
      | some best =>
          simp only [least, rest, Option.some.injEq] at found
          have member := inductionHypothesis rest
          split at found <;> subst found <;> simp [member]

private theorem least_eq_none {entries : List (Σ _ : Member, Nat)} :
    least entries = none ↔ entries = [] := by
  cases entries with
  | nil => simp [least]
  | cons head tail =>
      cases rest : least tail <;> simp [least, rest]

private theorem before_iff {first second : Σ _ : Member, Nat} :
    before first second = true ↔
      toLex (first.2, first.1) < toLex (second.2, second.1) := by
  rw [Prod.Lex.toLex_lt_toLex]
  simp [before]

private theorem least_le {entries : List (Σ _ : Member, Nat)}
    {entry other : Σ _ : Member, Nat} (found : least entries = some entry)
    (member : other ∈ entries) :
    toLex (entry.2, entry.1) ≤ toLex (other.2, other.1) := by
  induction entries generalizing entry with
  | nil => cases found
  | cons head tail inductionHypothesis =>
      cases rest : least tail with
      | none =>
          simp only [least, rest, Option.some.injEq] at found
          rw [least_eq_none.mp rest, List.mem_singleton] at member
          rw [← found, member]
      | some best =>
          simp only [least, rest, Option.some.injEq] at found
          split at found
          · next first =>
              subst found
              rcases List.mem_cons.mp member with rfl | later
              · exact le_refl _
              · exact le_trans (before_iff.mp first).le
                  (inductionHypothesis rest later)
          · next notFirst =>
              subst found
              rcases List.mem_cons.mp member with rfl | later
              · exact not_lt.mp fun earlier => notFirst (before_iff.mpr earlier)
              · exact inductionHypothesis rest later

/-- A popped member was in the set, and only it is gone. -/
theorem popMin_eq_some {set rest : SortedSet Member}
    {entry : Σ _ : Member, Nat} (popped : set.popMin = some (entry, rest)) :
    set.score entry.1 = some entry.2 ∧ rest = set.remove entry.1 := by
  obtain ⟨found, first, same⟩ := Option.map_eq_some_iff.mp popped
  cases same
  exact ⟨AList.mem_lookup_iff.mpr (least_mem first), rfl⟩

/-- A popped member has the least score, and is the least of those that have
it. -/
theorem popMin_le {set rest : SortedSet Member} {entry : Σ _ : Member, Nat}
    (popped : set.popMin = some (entry, rest)) {member : Member} {score : Nat}
    (scored : set.score member = some score) :
    toLex (entry.2, entry.1) ≤ toLex (score, member) := by
  obtain ⟨found, first, same⟩ := Option.map_eq_some_iff.mp popped
  cases same
  exact least_le first (AList.mem_lookup_iff.mp scored)

theorem popMin_eq_none {set : SortedSet Member} :
    set.popMin = none ↔ set.entries = [] := by
  rw [popMin, Option.map_eq_none_iff, least_eq_none]

end Order

end SortedSet
