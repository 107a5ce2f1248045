/-
Module: Integr8s.Lib.ExpiringStore
Purpose: A key-value store whose keys expire, with the atomic commands of an
  in-memory store: read, set if absent with a lifetime, overwrite an existing
  key and keep its expiry, set with a lifetime, and delete.
Trusted boundary: none
Main exports: Expiring, ExpiringStore, ExpiringStore.live,
  ExpiringStore.setIfAbsent, ExpiringStore.setIfPresent, ExpiringStore.delete
-/
import Mathlib.Logic.Function.Basic
import Mathlib.Data.Option.Basic

universe u v

/-- A value that is gone once the clock is past its expiry. -/
structure Expiring (Value : Type v) where
  value : Value
  expiresAt : Nat
deriving DecidableEq, Repr

/-- What is stored under each key, expired or not. -/
abbrev ExpiringStore (Key : Type u) (Value : Type v) : Type (max u v) :=
  Key → Option (Expiring Value)

namespace ExpiringStore

variable {Key : Type u} {Value : Type v}

/-- The entry a reader finds at a time. -/
def live (store : ExpiringStore Key Value) (clock : Nat) (key : Key) :
    Option (Expiring Value) :=
  (store key).filter fun entry => clock ≤ entry.expiresAt

/-- The value a reader finds at a time. -/
def get (store : ExpiringStore Key Value) (clock : Nat) (key : Key) :
    Option Value :=
  (store.live clock key).map Expiring.value

theorem live_eq_some {store : ExpiringStore Key Value} {clock : Nat}
    {key : Key} {entry : Expiring Value} :
    store.live clock key = some entry ↔
      store key = some entry ∧ clock ≤ entry.expiresAt := by
  simp [live, Option.filter_eq_some_iff]

theorem live_eq_none {store : ExpiringStore Key Value} {clock : Nat}
    {key : Key} :
    store.live clock key = none ↔
      ∀ entry, store key = some entry → entry.expiresAt < clock := by
  simp [live, Option.filter_eq_none_iff]

/-- An entry that is found was found before, since entries only expire. -/
theorem live_earlier {store : ExpiringStore Key Value}
    {earlier later : Nat} {key : Key} {entry : Expiring Value}
    (ordered : earlier ≤ later)
    (found : store.live later key = some entry) :
    store.live earlier key = some entry := by
  obtain ⟨stored, alive⟩ := live_eq_some.mp found
  exact live_eq_some.mpr ⟨stored, by omega⟩

variable [DecidableEq Key]

/-- Set a key that must not exist, with a lifetime; the answer says whether it
was set. -/
def setIfAbsent (store : ExpiringStore Key Value) (clock : Nat) (key : Key)
    (value : Value) (lifetime : Nat) : Bool × ExpiringStore Key Value :=
  match store.live clock key with
  | some _ => (false, store)
  | none =>
      (true, Function.update store key (some ⟨value, clock + lifetime⟩))

/-- Overwrite a key that must exist and keep its expiry; the answer says
whether it was written. -/
def setIfPresent (store : ExpiringStore Key Value) (clock : Nat) (key : Key)
    (value : Value) : Bool × ExpiringStore Key Value :=
  match store.live clock key with
  | none => (false, store)
  | some entry =>
      (true, Function.update store key (some ⟨value, entry.expiresAt⟩))

/-- Set a key with a lifetime, whatever it held. -/
def set (store : ExpiringStore Key Value) (clock : Nat) (key : Key)
    (value : Value) (lifetime : Nat) : ExpiringStore Key Value :=
  Function.update store key (some ⟨value, clock + lifetime⟩)

/-- Delete a key; the answer counts the keys that existed. -/
def delete (store : ExpiringStore Key Value) (clock : Nat) (key : Key) :
    Nat × ExpiringStore Key Value :=
  ((store.live clock key).toList.length, Function.update store key none)

section Reads

variable {store : ExpiringStore Key Value} {clock lifetime : Nat}
  {key other : Key} {value : Value}

/-- What a reader finds after a key was set. -/
theorem get_set :
    (store.set clock key value lifetime).get clock other =
      if other = key then some value else store.get clock other := by
  by_cases same : other = key
  · subst same
    simp [get, live, set, Option.filter]
  · simp [get, live, set, same]

/-- What a reader finds after an existing key was overwritten. -/
theorem get_setIfPresent :
    (store.setIfPresent clock key value).2.get clock other =
      if other = key then (store.get clock key).map fun _ => value
      else store.get clock other := by
  unfold setIfPresent
  cases found : store.live clock key with
  | none =>
      by_cases same : other = key
      · subst same
        simp [get, found]
      · simp [same]
  | some entry =>
      by_cases same : other = key
      · subst same
        have alive := (live_eq_some.mp found).2
        have before : store.get clock other = some entry.value := by
          simp [get, found]
        rw [if_pos rfl, before]
        simp [get, live, Option.filter, alive]
      · simp [get, live, same]

end Reads

end ExpiringStore
