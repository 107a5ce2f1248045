/-
Module: Integr8s.Lib.ScoredSet
Purpose: A set whose members carry scores of any ordered type, with the
  commands that an in-memory store has for a log of moments: add a member,
  drop the members in a range of scores, count, and find the least score.
Trusted boundary: none
Main exports: ScoredSet, ScoredSet.add, ScoredSet.removeRange,
  ScoredSet.card, ScoredSet.scores, ScoredSet.least?
-/
import Mathlib.Data.List.AList
import Mathlib.Data.List.MinMax
import Mathlib.Order.Lattice

universe u v

/-- Members with their scores. -/
abbrev ScoredSet (Member : Type u) (Score : Type v) : Type (max u v) :=
  AList fun _ : Member => Score

namespace ScoredSet

variable {Member : Type u} {Score : Type v}

/-- The scores of all members. -/
def scores (set : ScoredSet Member Score) : List Score :=
  set.entries.map Sigma.snd

/-- `ZCARD`. -/
def card (set : ScoredSet Member Score) : Nat := set.entries.length

@[simp] theorem length_scores (set : ScoredSet Member Score) :
    set.scores.length = set.card :=
  List.length_map _

@[simp] theorem scores_empty :
    (∅ : ScoredSet Member Score).scores = [] := rfl

section Adding

variable [DecidableEq Member]

/-- `ZADD`: add a member, or move it when it is there. -/
def add (set : ScoredSet Member Score) (member : Member) (score : Score) :
    ScoredSet Member Score :=
  set.insert member score

/-- A new member adds its score. -/
theorem scores_add {set : ScoredSet Member Score} {member : Member}
    (fresh : member ∉ set) (score : Score) :
    (set.add member score).scores = score :: set.scores := by
  rw [add, scores, AList.entries_insert_of_notMem fresh]
  rfl

end Adding

section Ordered

variable [LinearOrder Score]

/-- `ZREMRANGEBYSCORE`: drop the members whose score is in a range. -/
def removeRange (set : ScoredSet Member Score) (low high : Score) :
    ScoredSet Member Score :=
  ⟨set.entries.filter fun entry =>
      !(decide (low ≤ entry.2) && decide (entry.2 ≤ high)),
    set.nodupKeys.sublist List.filter_sublist⟩

/-- `ZRANGE 0 0`: the least score. -/
def least? (set : ScoredSet Member Score) : Option Score :=
  set.scores.min?

theorem scores_removeRange (set : ScoredSet Member Score)
    (low high : Score) :
    (set.removeRange low high).scores =
      set.scores.filter fun score =>
        !(decide (low ≤ score) && decide (score ≤ high)) := by
  rw [removeRange, scores, scores, List.filter_map]
  rfl

theorem mem_of_mem_removeRange {set : ScoredSet Member Score}
    {low high : Score} {member : Member}
    (inside : member ∈ set.removeRange low high) : member ∈ set :=
  AList.mem_keys.mpr
    ((List.filter_sublist.map Sigma.fst).subset (AList.mem_keys.mp inside))

end Ordered

end ScoredSet
