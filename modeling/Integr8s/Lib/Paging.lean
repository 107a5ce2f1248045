/-
Module: Integr8s.Lib.Paging
Purpose: The pages of a list: a page is what a skip and a limit leave of it,
  and the pages one after the other make up the list.
Trusted boundary: none
Main exports: Paging.page, Paging.pages, Paging.pages_eq_take,
  Paging.pages_eq_self
-/
import Mathlib.Data.List.TakeDrop

universe u

namespace Paging

variable {α : Type u}

/-- What is left of a list from a position on, at most as many elements as a
limit allows; a limit of zero is none. -/
def page (skip limit : Nat) (items : List α) : List α :=
  if limit = 0 then items.drop skip else (items.drop skip).take limit

/-- The first pages of a size, one after the other. -/
def pages (size number : Nat) (items : List α) : List α :=
  (List.range number).flatMap fun index => page (index * size) size items

private theorem page_of_pos {limit : Nat} (positive : 0 < limit) (skip : Nat)
    (items : List α) :
    page skip limit items = (items.drop skip).take limit :=
  if_neg (Nat.ne_of_gt positive)

/-- The first pages are the start of the list. -/
theorem pages_eq_take {size : Nat} (positive : 0 < size) (number : Nat)
    (items : List α) :
    pages size number items = items.take (number * size) := by
  induction number with
  | zero => simp [pages]
  | succ number inductionHypothesis =>
      rw [pages] at inductionHypothesis ⊢
      rw [List.range_succ, List.flatMap_append, inductionHypothesis,
        Nat.succ_mul, List.take_add]
      simp [page_of_pos positive]

/-- Enough pages are the whole list. -/
theorem pages_eq_self {size number : Nat} (positive : 0 < size)
    {items : List α} (enough : items.length ≤ number * size) :
    pages size number items = items := by
  rw [pages_eq_take positive, List.take_of_length_le enough]

end Paging
