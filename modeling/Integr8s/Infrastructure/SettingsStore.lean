/-
Module: Integr8s.Infrastructure.SettingsStore
Purpose: The snapshots and the expiring events that users' settings are
  rebuilt from, the commands that the settings service awaits, and how a
  command may go.
Trusted boundary: human-reviewed spec
Main exports: SettingsStore, SettingsCommand, SettingsStore.effect,
  settingsBackend, SettingsProgram
-/
import Integr8s.Domain.UserSettings
import Integr8s.Infrastructure.World
import Integr8s.Lib.Replay

namespace Integr8s

/-- A settings event in the event store, with its expiry and the call that
stored it. -/
structure StoredSettingsEvent where
  event : DomainUserSettingsChangedEvent
  expiresAt : Nat
  storedBy : Caller
deriving DecidableEq

/-- How the settings are rebuilt: the events apply in the order of their
timestamps, those with equal ones in the order they were stored. -/
def settingsReplay : Replay UserSettings StoredSettingsEvent where
  stamp stored := stored.event.timestamp
  apply settings stored :=
    settings.apply stored.event.toUserSettingsChanges

/-- A call's reading of a user's settings: how many events were stored when it
read settings for the first time and when it last did, and the time of the
snapshot it found then. -/
structure Reading where
  userId : UserId
  first : Nat
  last : Nat
  base : Option Nat
deriving DecidableEq, Repr

/-- The snapshots, the events in the order they were stored, expired or not,
and what each call has read, which no command reads.  The clock counts
milliseconds, which is what the database keeps of a time. -/
structure SettingsStore where
  clock : Nat := 0
  snapshots : Collection UserId UserSettingsDocument := fun _ => none
  events : List StoredSettingsEvent := []
  readings : Caller → Option Reading := fun _ => none

/-- What the settings service awaits. -/
inductive SettingsCommand where
  | now
  | findSnapshot (userId : UserId)
  | findEvents (userId : UserId) (since notAfter : Option Nat)
  | countEvents (userId : UserId) (since : Option Nat)
  | saveSnapshot (settings : UserSettingsDocument)
  | storeEvent (event : DomainUserSettingsChangedEvent)
  | publish (event : DomainUserSettingsChangedEvent)

abbrev SettingsReply : SettingsCommand → Type
  | .now => Nat
  | .findSnapshot _ => Option UserSettingsDocument
  | .findEvents .. => List DomainUserSettingsChangedEvent
  | .countEvents .. => Nat
  | .saveSnapshot _ => Unit
  | .storeEvent _ => Unit
  | .publish _ => Unit

namespace SettingsStore

/-- A number of days as a duration. -/
def days (number : Nat) : Nat := number * 24 * 3600 * 1000

/-- Stored events expire after 30 days. -/
def eventLifetime : Nat := days 30

/-- The events of a user, expired or not. -/
def history (store : SettingsStore) (userId : UserId) :
    List StoredSettingsEvent :=
  store.events.filter fun stored => stored.event.userId == userId

/-- Whether an event still exists, and is in the asked-for time. -/
def found (store : SettingsStore) (since notAfter : Option Nat)
    (stored : StoredSettingsEvent) : Bool :=
  decide (store.clock < stored.expiresAt) &&
    (match since with
      | some bound => decide (bound < stored.event.timestamp)
      | none => true) &&
    (match notAfter with
      | some bound => decide (stored.event.timestamp ≤ bound)
      | none => true)

/-- The events that a query finds, in the order of their timestamps. -/
def findEvents (store : SettingsStore) (userId : UserId)
    (since notAfter : Option Nat) : List DomainUserSettingsChangedEvent :=
  (settingsReplay.inOrder ((store.history userId).filter
    (store.found since notAfter))).map StoredSettingsEvent.event

/-- The store after a call read a snapshot.  Once its own event is stored, it
only counts. -/
def noteReading (store : SettingsStore) (caller : Caller) (userId : UserId) :
    SettingsStore :=
  if store.events.any fun stored => stored.storedBy == caller then store
  else
    { store with
      readings := Function.update store.readings caller (some
        { userId := userId
          first := ((store.readings caller).map Reading.first).getD
            store.events.length
          last := store.events.length
          base := (store.snapshots userId).map
            UserSettingsDocument.updatedAt }) }

/-- The store after a call wrote a snapshot, from which it goes on. -/
def writeSnapshot (store : SettingsStore) (caller : Caller) (fresh : String)
    (settings : UserSettingsDocument) : SettingsStore :=
  { store with
    snapshots := store.snapshots.insert settings.userId
      { settings with id := some (settings.id.getD fresh) }
    readings := Function.update store.readings caller
      ((store.readings caller).map fun reading =>
        { reading with base := some settings.updatedAt }) }

/-- Write a document under its id; a user has at most one. -/
def saveSnapshot (store : SettingsStore) (caller : Caller) (fresh : String)
    (settings : UserSettingsDocument) :
    Except PyException Unit × SettingsStore :=
  let saved := store.writeSnapshot caller fresh settings
  match store.snapshots settings.userId with
  | none => (.ok (), saved)
  | some existing =>
      if settings.id = existing.id then (.ok (), saved)
      else (.error .duplicateKeyError, store)

/-- The store after an event was stored. -/
def storeEvent (store : SettingsStore) (caller : Caller)
    (event : DomainUserSettingsChangedEvent) : SettingsStore :=
  { store with
    events := store.events ++
      [{ event := event
         expiresAt := store.clock + eventLifetime
         storedBy := caller }] }

/-- A command that goes through. -/
def effect (caller : Caller) (choice : Choice) (store : SettingsStore) :
    (command : SettingsCommand) →
      Except PyException (SettingsReply command) × SettingsStore
  | .now => (.ok store.clock, store)
  | .findSnapshot userId =>
      (.ok (store.snapshots userId), store.noteReading caller userId)
  | .findEvents userId since notAfter =>
      (.ok (store.findEvents userId since notAfter), store)
  | .countEvents userId since =>
      (.ok (store.findEvents userId since none).length, store)
  | .saveSnapshot settings =>
      store.saveSnapshot caller choice.fresh settings
  | .storeEvent event => (.ok (), store.storeEvent caller event)
  | .publish _ => (.ok (), store)

/-- Whether a command that goes wrong may raise this.  Only Kafka raises the
errors of a failed publication. -/
def mayRaise : SettingsCommand → PyException → Bool
  | .now, _ => false
  | .publish _, _ => true
  | _, error => !error.isPublishError

/-- What becomes of a command: it goes through, fails without an effect, or
takes effect without its answer. -/
def perform (caller : Caller) (store : SettingsStore)
    (command : SettingsCommand) (choice : Choice) :
    Option (Except PyException (SettingsReply command) × SettingsStore) :=
  match choice.outcome with
  | .succeeds => some (store.effect caller choice command)
  | .fails error =>
      if mayRaise command error then some (.error error, store) else none
  | .unacknowledged error =>
      if mayRaise command error then
        some (.error error, (store.effect caller choice command).2)
      else none

/-- The three ways in which a command can go. -/
theorem perform_cases {caller : Caller} {store next : SettingsStore}
    {command : SettingsCommand} {choice : Choice}
    {reply : Except PyException (SettingsReply command)}
    (performed : store.perform caller command choice = some (reply, next)) :
    (choice.outcome = .succeeds ∧
      store.effect caller choice command = (reply, next)) ∨
    ∃ error, reply = .error error ∧ mayRaise command error = true ∧
      (choice.outcome = .fails error ∧ next = store ∨
        choice.outcome = .unacknowledged error ∧
          next = (store.effect caller choice command).2) := by
  unfold perform at performed
  cases outcome : choice.outcome with
  | succeeds =>
      simp only [outcome, Option.some.injEq] at performed
      exact .inl ⟨rfl, performed⟩
  | fails error =>
      simp only [outcome, Option.ite_none_right_eq_some, Option.some.injEq,
        Prod.mk.injEq] at performed
      obtain ⟨may, sameReply, sameStore⟩ := performed
      exact .inr ⟨error, sameReply.symm, may, .inl ⟨rfl, sameStore.symm⟩⟩
  | unacknowledged error =>
      simp only [outcome, Option.ite_none_right_eq_some, Option.some.injEq,
        Prod.mk.injEq] at performed
      obtain ⟨may, sameReply, sameStore⟩ := performed
      exact .inr ⟨error, sameReply.symm, may, .inr ⟨rfl, sameStore.symm⟩⟩

end SettingsStore

/-- The calls of the settings service over one store.  Of the environment only
time matters, and a killed call leaves the store as it is. -/
def settingsBackend : System Caller SettingsStore SettingsCommand
    SettingsReply PyException Choice Nat where
  perform := SettingsStore.perform
  environment store duration :=
    some { store with clock := store.clock + duration }
  kill store _ := some store

/-- A coroutine of the settings service. -/
abbrev SettingsProgram (α : Type) : Type 1 :=
  Coroutine SettingsCommand SettingsReply PyException α

/-- Await a command of the settings service. -/
abbrev askStore (command : SettingsCommand) :
    SettingsProgram (SettingsReply command) :=
  Coroutine.call command

end Integr8s
