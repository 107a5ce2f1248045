/-
Module: Integr8s.Lib.Collection
Purpose: A document collection with a unique key, as a document database keeps
  it: find, insert, delete, and the conditional update of one document, which
  reports how many documents it modified.
Trusted boundary: none
Main exports: Collection, Collection.findOne, Collection.updateOne,
  Collection.updateOne_get, Collection.updateOne_modified
-/
import Mathlib.Logic.Function.Basic

universe u v

/-- At most one document under each key. -/
abbrev Collection (Key : Type u) (Doc : Type v) : Type (max u v) :=
  Key → Option Doc

namespace Collection

variable {Key : Type u} {Doc : Type v}

/-- The document under a key, when it passes the filter. -/
def findOne (collection : Collection Key Doc) (key : Key)
    (filter : Doc → Bool) : Option Doc :=
  (collection key).filter filter

private theorem findOne_eq_some {collection : Collection Key Doc} {key : Key}
    {filter : Doc → Bool} {doc : Doc} :
    collection.findOne key filter = some doc ↔
      collection key = some doc ∧ filter doc = true := by
  simp [findOne, Option.filter_eq_some_iff]

private theorem findOne_eq_none {collection : Collection Key Doc} {key : Key}
    {filter : Doc → Bool} :
    collection.findOne key filter = none ↔
      ∀ doc, collection key = some doc → filter doc = false := by
  simp [findOne, Option.filter_eq_none_iff]

section Stored

variable [DecidableEq Key]

/-- Store a document under its key. -/
def insert (collection : Collection Key Doc) (key : Key) (doc : Doc) :
    Collection Key Doc :=
  Function.update collection key (some doc)

/-- Remove the document under a key. -/
def delete (collection : Collection Key Doc) (key : Key) :
    Collection Key Doc :=
  Function.update collection key none

@[simp] theorem insert_self (collection : Collection Key Doc) (key : Key)
    (doc : Doc) : collection.insert key doc key = some doc := by
  simp [insert]

@[simp] theorem insert_other (collection : Collection Key Doc)
    {key other : Key} (different : other ≠ key) (doc : Doc) :
    collection.insert key doc other = collection other := by
  simp [insert, different]

@[simp] theorem delete_self (collection : Collection Key Doc) (key : Key) :
    collection.delete key key = none := by
  simp [delete]

@[simp] theorem delete_other (collection : Collection Key Doc)
    {key other : Key} (different : other ≠ key) :
    collection.delete key other = collection other := by
  simp [delete, different]

variable [DecidableEq Doc]

/-- Atomically change the document under a key when it passes the filter.
The count says whether a document was modified: a change that leaves the
document as it was counts for nothing. -/
def updateOne (collection : Collection Key Doc) (key : Key)
    (filter : Doc → Bool) (change : Doc → Doc) : Nat × Collection Key Doc :=
  match collection.findOne key filter with
  | none => (0, collection)
  | some doc =>
      (if change doc = doc then 0 else 1,
        collection.insert key (change doc))

/-- The document under any key after an update. -/
theorem updateOne_get (collection : Collection Key Doc) (key : Key)
    (filter : Doc → Bool) (change : Doc → Doc) (other : Key) :
    (collection.updateOne key filter change).2 other =
      if other = key then
        (collection key).map fun doc =>
          if filter doc then change doc else doc
      else collection other := by
  unfold updateOne findOne
  by_cases same : other = key
  · subst same
    cases stored : collection other with
    | none => simp [stored]
    | some doc =>
        by_cases passes : filter doc <;>
          simp [Option.filter, passes, stored]
  · cases (collection key).filter filter <;> simp [same]

/-- An update touches no other document. -/
theorem updateOne_other (collection : Collection Key Doc) {key other : Key}
    (different : other ≠ key) (filter : Doc → Bool) (change : Doc → Doc) :
    (collection.updateOne key filter change).2 other = collection other := by
  rw [updateOne_get, if_neg different]

/-- The document an update finds under its key. -/
theorem updateOne_self {collection : Collection Key Doc} {key : Key}
    {doc : Doc} (stored : collection key = some doc) (filter : Doc → Bool)
    (change : Doc → Doc) :
    (collection.updateOne key filter change).2 key =
      some (if filter doc then change doc else doc) := by
  rw [updateOne_get, if_pos rfl, stored]
  rfl

/-- An update invents no document. -/
theorem updateOne_none {collection : Collection Key Doc} {key : Key}
    (missing : collection key = none) (filter : Doc → Bool)
    (change : Doc → Doc) :
    collection.updateOne key filter change = (0, collection) := by
  simp [updateOne, findOne, missing]

/-- A document was modified exactly when one passed the filter and the
change made it different. -/
theorem updateOne_modified (collection : Collection Key Doc) (key : Key)
    (filter : Doc → Bool) (change : Doc → Doc) :
    (collection.updateOne key filter change).1 ≠ 0 ↔
      ∃ doc, collection key = some doc ∧ filter doc = true ∧
        change doc ≠ doc := by
  unfold updateOne
  cases found : collection.findOne key filter with
  | none =>
      simp only [ne_eq, not_true_eq_false, false_iff, not_exists, not_and]
      intro doc stored passes
      simp [findOne_eq_none.mp found doc stored] at passes
  | some doc =>
      obtain ⟨stored, passes⟩ := findOne_eq_some.mp found
      by_cases same : change doc = doc <;> simp [stored, passes, same]

end Stored

end Collection
