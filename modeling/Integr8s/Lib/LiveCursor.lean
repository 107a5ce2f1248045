/-
Module: Integr8s.Lib.LiveCursor
Purpose: A collection with what it held before, and a cursor that reads it
  while it changes: what a cursor returns was there at some time, once, and
  when it ends it has returned whatever was there all the time.
Trusted boundary: none
Main exports: Timeline, Timeline.Sometime, Timeline.Throughout,
  Timeline.Steady, Timeline.Growing, LiveCursor, LiveCursor.next,
  LiveCursor.Reading, LiveCursor.Reading.next, LiveCursor.Reading.length_le,
  LiveCursor.Reading.length_eq, LiveCursor.Reading.nodup_map
-/
import Mathlib.Data.List.Nodup
import Mathlib.Data.List.Perm.Subperm
import Mathlib.Logic.Function.Basic
import Mathlib.Order.Interval.Finset.Nat

universe u

/-! ### Collections over time -/

/-- A collection of documents, and what it held after each of its changes. -/
structure Timeline (Doc : Type u) where
  past : Nat → List Doc
  epoch : Nat := 0

namespace Timeline

variable {Doc : Type u}

/-- What the collection holds now. -/
def current (timeline : Timeline Doc) : List Doc :=
  timeline.past timeline.epoch

/-- Change the collection. -/
def change (timeline : Timeline Doc) (docs : List Doc) : Timeline Doc where
  past := Function.update timeline.past (timeline.epoch + 1) docs
  epoch := timeline.epoch + 1

/-- A document is there at some time of a period. -/
def Sometime (timeline : Timeline Doc) (since till : Nat) (doc : Doc) :
    Prop :=
  ∃ epoch ≤ till, since ≤ epoch ∧ doc ∈ timeline.past epoch

/-- A document is there at every time of a period. -/
def Throughout (timeline : Timeline Doc) (since till : Nat) (doc : Doc) :
    Prop :=
  ∀ epoch ≤ till, since ≤ epoch → doc ∈ timeline.past epoch

/-- In a period what passes a filter does not change. -/
def Steady (timeline : Timeline Doc) (selects : Doc → Bool)
    (since till : Nat) : Prop :=
  ∀ epoch ≤ till, since ≤ epoch → ∀ doc, selects doc = true →
    (doc ∈ timeline.past epoch ↔ doc ∈ timeline.past since)

/-- In a period nothing that passes a filter is removed. -/
def Growing (timeline : Timeline Doc) (selects : Doc → Bool)
    (since till : Nat) : Prop :=
  ∀ epoch ≤ till, since ≤ epoch → ∀ doc, selects doc = true →
    doc ∈ timeline.past epoch → doc ∈ timeline.past till

instance [DecidableEq Doc] (timeline : Timeline Doc) (since till : Nat)
    (doc : Doc) : Decidable (timeline.Sometime since till doc) :=
  inferInstanceAs (Decidable (∃ epoch ≤ till, _))

instance [DecidableEq Doc] (timeline : Timeline Doc) (since till : Nat)
    (doc : Doc) : Decidable (timeline.Throughout since till doc) :=
  inferInstanceAs (Decidable (∀ epoch ≤ till, _))

variable {timeline : Timeline Doc} {since till : Nat}
  {doc : Doc}

/-- A collection later: what it held before stays as it was. -/
structure Extends (timeline later : Timeline Doc) : Prop where
  epoch : timeline.epoch ≤ later.epoch
  past : ∀ epoch ≤ timeline.epoch, later.past epoch = timeline.past epoch

theorem Extends.refl (timeline : Timeline Doc) : timeline.Extends timeline :=
  ⟨Nat.le_refl _, fun _ _ => rfl⟩

/-- A change leaves the past as it was. -/
theorem extends_change (timeline : Timeline Doc) (docs : List Doc) :
    timeline.Extends (timeline.change docs) :=
  ⟨Nat.le_succ _, fun _ before =>
    Function.update_of_ne (Nat.ne_of_lt (Nat.lt_succ_of_le before)) ..⟩

@[simp] theorem past_change_self (timeline : Timeline Doc) (docs : List Doc) :
    (timeline.change docs).past (timeline.epoch + 1) = docs :=
  Function.update_self ..

theorem Extends.sometime {later : Timeline Doc}
    (extended : timeline.Extends later) (held : timeline.Sometime since till doc)
    (before : till ≤ timeline.epoch) : later.Sometime since till doc := by
  obtain ⟨epoch, low, high, there⟩ := held
  exact ⟨epoch, low, high, (extended.past epoch (low.trans before)).symm ▸ there⟩

theorem Extends.throughout {later : Timeline Doc}
    (extended : timeline.Extends later)
    (held : later.Throughout since till doc) (before : till ≤ timeline.epoch) :
    timeline.Throughout since till doc :=
  fun epoch low high =>
    extended.past epoch (low.trans before) ▸ held epoch low high

theorem Sometime.mono {earlier later : Nat}
    (held : timeline.Sometime since till doc) (begins : earlier ≤ since)
    (ends : till ≤ later) : timeline.Sometime earlier later doc := by
  obtain ⟨epoch, low, high, there⟩ := held
  exact ⟨epoch, low.trans ends, begins.trans high, there⟩

theorem Throughout.mono {earlier later : Nat}
    (held : timeline.Throughout earlier later doc) (begins : earlier ≤ since)
    (ends : till ≤ later) : timeline.Throughout since till doc :=
  fun epoch low high => held epoch (low.trans ends) (begins.trans high)

end Timeline

/-! ### A cursor over a changing collection

A cursor returns each document at most once, only documents that were there at
some time while it was open, and in the end every one that was there all the
time. -/

/-- A cursor over the documents that pass a filter, with what it has returned
so far, the last one at the end. -/
structure LiveCursor (Doc : Type u) where
  since : Nat
  selects : Doc → Bool
  returned : List Doc := []

namespace LiveCursor

variable {Doc : Type u} (key : Doc → Nat) (timeline : Timeline Doc)
  (cursor : LiveCursor Doc)

/-- A cursor has to return a document: it has been there all the time. -/
def Owes (doc : Doc) : Prop :=
  cursor.selects doc = true ∧
    timeline.Throughout cursor.since timeline.epoch doc ∧
    doc ∉ cursor.returned

/-- A cursor may return a document: it was there at some time, and it is
returned for the first time and in its order. -/
def MayReturn (doc : Doc) : Prop :=
  cursor.selects doc = true ∧
    timeline.Sometime cursor.since timeline.epoch doc ∧
    doc ∉ cursor.returned ∧
    (∀ earlier ∈ cursor.returned, key earlier ≤ key doc) ∧
    ∀ other ∈ timeline.current, cursor.Owes timeline other →
      key doc ≤ key other

/-- A cursor may end when it owes nothing. -/
def MayEnd : Prop :=
  ∀ doc ∈ timeline.current, ¬ cursor.Owes timeline doc

variable [DecidableEq Doc]

instance (doc : Doc) : Decidable (cursor.Owes timeline doc) :=
  inferInstanceAs (Decidable (_ ∧ _))

instance (doc : Doc) : Decidable (cursor.MayReturn key timeline doc) :=
  inferInstanceAs (Decidable (_ ∧ _))

instance : Decidable (cursor.MayEnd timeline) :=
  inferInstanceAs (Decidable (∀ _ ∈ _, _))

/-- What a cursor returns next: a document, or that there are no more.  The
choice is the database's, as far as it may. -/
def next : Option Doc → Option (LiveCursor Doc)
  | some doc =>
      if cursor.MayReturn key timeline doc then
        some { cursor with returned := cursor.returned ++ [doc] }
      else none
  | none => if cursor.MayEnd timeline then some cursor else none

end LiveCursor

namespace LiveCursor

variable {Doc : Type u} {key : Doc → Nat} {timeline : Timeline Doc}
  {selects : Doc → Bool} {since till : Nat} {returned : List Doc}

/-- Documents that a cursor has returned in a period. -/
structure Reading (timeline : Timeline Doc) (selects : Doc → Bool)
    (since till : Nat) (returned : List Doc) : Prop where
  distinct : returned.Nodup
  chosen : ∀ doc ∈ returned, selects doc = true
  held : ∀ doc ∈ returned, timeline.Sometime since till doc

theorem reading_nil : Reading timeline selects since till [] where
  distinct := List.nodup_nil
  chosen := by simp
  held := by simp

theorem Reading.mono {earlier later : Nat}
    (reading : Reading timeline selects since till returned)
    (begins : earlier ≤ since) (ends : till ≤ later) :
    Reading timeline selects earlier later returned where
  distinct := reading.distinct
  chosen := reading.chosen
  held doc member := (reading.held doc member).mono begins ends

theorem Reading.extends {later : Timeline Doc}
    (reading : Reading timeline selects since till returned)
    (extended : timeline.Extends later) (before : till ≤ timeline.epoch) :
    Reading later selects since till returned where
  distinct := reading.distinct
  chosen := reading.chosen
  held doc member := extended.sometime (reading.held doc member) before

/-- A cursor reads on, or has no more. -/
theorem Reading.next [DecidableEq Doc] {cursor after : LiveCursor Doc}
    {read : Option Doc}
    (reading : Reading timeline cursor.selects cursor.since timeline.epoch
      cursor.returned)
    (moved : cursor.next key timeline read = some after) :
    after = { cursor with returned := cursor.returned ++ read.toList } ∧
      Reading timeline cursor.selects cursor.since timeline.epoch
        (cursor.returned ++ read.toList) := by
  cases read with
  | none =>
      simp only [LiveCursor.next, Option.ite_none_right_eq_some,
        Option.some.injEq] at moved
      obtain ⟨-, rfl⟩ := moved
      rw [Option.toList_none, List.append_nil]
      exact ⟨rfl, reading⟩
  | some doc =>
      simp only [LiveCursor.next, Option.ite_none_right_eq_some,
        Option.some.injEq] at moved
      obtain ⟨⟨chosen, held, first, -⟩, rfl⟩ := moved
      refine ⟨rfl, ?_, ?_, ?_⟩
      · rw [Option.toList_some, ← List.concat_eq_append]
        exact reading.distinct.concat first
      · intro other member
        rcases List.mem_append.mp member with earlier | last
        · exact reading.chosen other earlier
        · cases List.mem_singleton.mp last
          exact chosen
      · intro other member
        rcases List.mem_append.mp member with earlier | last
        · exact reading.held other earlier
        · cases List.mem_singleton.mp last
          exact held

/-- A cursor that has ended has returned whatever was there all the time. -/
theorem returned_of_end [DecidableEq Doc] {cursor after : LiveCursor Doc}
    (opened : cursor.since ≤ timeline.epoch)
    (moved : cursor.next key timeline none = some after) {doc : Doc}
    (chosen : cursor.selects doc = true)
    (stays : timeline.Throughout cursor.since timeline.epoch doc) :
    doc ∈ cursor.returned := by
  simp only [LiveCursor.next, Option.ite_none_right_eq_some,
    Option.some.injEq] at moved
  obtain ⟨ended, -⟩ := moved
  by_contra missing
  exact ended doc (stays _ (Nat.le_refl _) opened) ⟨chosen, stays, missing⟩

/-- While nothing changes, a cursor returns at most what was there at first. -/
theorem Reading.length_le
    (reading : Reading timeline selects since till returned)
    (steady : timeline.Steady selects since till) :
    returned.length ≤ ((timeline.past since).filter selects).length := by
  apply List.Subperm.length_le
  apply reading.distinct.subperm
  intro doc member
  obtain ⟨epoch, low, high, held⟩ := reading.held doc member
  have chosen := reading.chosen doc member
  exact List.mem_filter.mpr ⟨(steady epoch low high doc chosen).mp held, chosen⟩

/-- While nothing changes, a cursor that has ended has returned just what was
there at first. -/
theorem Reading.length_eq
    (reading : Reading timeline selects since till returned)
    (steady : timeline.Steady selects since till)
    (distinct : (timeline.past since).Nodup)
    (complete : ∀ doc, selects doc = true →
      timeline.Throughout since till doc → doc ∈ returned) :
    returned.length = ((timeline.past since).filter selects).length := by
  apply Nat.le_antisymm (reading.length_le steady)
  apply List.Subperm.length_le
  apply (distinct.filter _).subperm
  intro doc member
  obtain ⟨held, chosen⟩ := List.mem_filter.mp member
  exact complete doc chosen fun epoch low high =>
    (steady epoch low high doc chosen).mpr held

/-- While nothing is removed, documents with different names are told apart by
them. -/
theorem Reading.nodup_map {Name : Type*} {name : Doc → Name}
    (reading : Reading timeline selects since till returned)
    (growing : timeline.Growing selects since till)
    (named : ((timeline.past till).map name).Nodup) :
    (returned.map name).Nodup := by
  have here : ∀ doc ∈ returned, doc ∈ timeline.past till := by
    intro doc member
    obtain ⟨epoch, low, high, held⟩ := reading.held doc member
    exact growing epoch low high doc (reading.chosen doc member) held
  apply List.Nodup.map_on _ reading.distinct
  intro first firstIn second secondIn same
  exact List.inj_on_of_nodup_map named (here first firstIn)
    (here second secondIn) same

end LiveCursor
