/-
Module: Integr8s.Infrastructure.AdminSettingsStore
Purpose: The stored system settings and one process's cache of them, the
  commands that the settings services await, and how a command may go.
Trusted boundary: human-reviewed spec
Main exports: AdminSettingsStore, AdminSettingsCommand,
  AdminSettingsStore.effect, adminSettingsBackend, AdminSettingsProgram
-/
import Integr8s.Domain.Settings
import Integr8s.Infrastructure.Outcomes

namespace Integr8s

/-- The one settings document, with the id that the database gave it. -/
structure SystemSettingsDocument where
  id : Nat
  config : SystemSettings
deriving DecidableEq, Repr

/-- The cached settings, when they were cached, and as of which change of the
document they are, which nothing reads. -/
structure CachedSettings where
  settings : SystemSettings
  time : Nat
  revision : Nat
deriving DecidableEq, Repr

/-- The document, and the cache of a process.  The clock counts microseconds.
Besides, what no command reads: how often the document changed and what it was
after each change, the change as of which a call got its settings, the change
that an update or a reset made, and the last one whose caller has invalidated
the cache. -/
structure AdminSettingsStore where
  clock : Nat := 0
  document : Option SystemSettingsDocument := none
  cache : Option CachedSettings := none
  revision : Nat := 0
  versions : Nat → Option SystemSettings := fun _ => none
  obtained : Caller → Option Nat := fun _ => none
  wrote : Caller → Option Nat := fun _ => none
  invalidated : Nat := 0

/-- What an admin did. -/
inductive AuditAction where
  | systemSettingsUpdated
  | systemSettingsReset
deriving DecidableEq, Repr

/-- What the settings services do in one go: check, fill or drop the cache, or
await the database. -/
inductive AdminSettingsCommand where
  | checkCache
  | storeCache (settings : SystemSettings)
  | invalidateCache
  | findOrInsert (defaults : SystemSettings)
  | upsert (settings : SystemSettings)
  | findOne
  | delete (id : Nat)
  | insertAudit (action : AuditAction)

abbrev AdminSettingsReply : AdminSettingsCommand → Type
  | .checkCache => Option SystemSettings
  | .storeCache _ => Unit
  | .invalidateCache => Unit
  | .findOrInsert _ => Option SystemSettings
  | .upsert _ => Unit
  | .findOne => Option SystemSettingsDocument
  | .delete _ => Unit
  | .insertAudit _ => Unit

/-- Only the database fails; what it stores may not validate. -/
def AdminSettingsCommand.mayRaise :
    AdminSettingsCommand → PyException → Bool
  | .checkCache, _ | .storeCache _, _ | .invalidateCache, _ => false
  | _, _ => true

namespace AdminSettingsStore

/-- `_cache_ttl`: 60 seconds. -/
def cacheTtl : Nat := seconds 60

/-- Change the document. -/
def write (store : AdminSettingsStore)
    (document : Option SystemSettingsDocument) : AdminSettingsStore :=
  { store with
    document := document
    revision := store.revision + 1
    versions := Function.update store.versions (store.revision + 1)
      (document.map SystemSettingsDocument.config) }

/-- The store after a call got its settings as of a change. -/
def noteObtained (store : AdminSettingsStore) (caller : Caller)
    (revision : Nat) : AdminSettingsStore :=
  { store with
    obtained := Function.update store.obtained caller (some revision) }

/-- The store after an update or a reset made its change, or found it made. -/
def noteWrite (store : AdminSettingsStore) (caller : Caller) :
    AdminSettingsStore :=
  { store with
    wrote := Function.update store.wrote caller (some store.revision) }

/-- The cached settings, unless there are none or they are too old. -/
def fresh (store : AdminSettingsStore) : Option CachedSettings :=
  store.cache.filter fun cached => decide (store.clock - cached.time < cacheTtl)

/-- A command that goes through. -/
def effect (caller : Caller) (store : AdminSettingsStore) :
    (command : AdminSettingsCommand) →
      AdminSettingsReply command × AdminSettingsStore
  | .checkCache =>
      match store.fresh with
      | none => (none, store)
      | some cached =>
          (some cached.settings, store.noteObtained caller cached.revision)
  | .storeCache settings =>
      ((), { store with
        cache := some
          { settings := settings
            time := store.clock
            revision := (store.obtained caller).getD 0 } })
  | .invalidateCache =>
      ((), { store with
        cache := none
        invalidated := max store.invalidated ((store.wrote caller).getD 0) })
  | .findOrInsert defaults =>
      match store.document with
      | some document =>
          (some document.config, store.noteObtained caller store.revision)
      | none =>
          let inserted := store.write
            (some { id := store.revision + 1, config := defaults })
          (none, inserted.noteObtained caller inserted.revision)
  | .upsert settings =>
      let id := (store.document.map SystemSettingsDocument.id).getD
        (store.revision + 1)
      ((), (store.write (some { id := id, config := settings })).noteWrite
        caller)
  | .findOne =>
      (store.document,
        if store.document = none then store.noteWrite caller else store)
  | .delete id =>
      ((), (if store.document.any fun document => document.id == id
        then store.write none else store).noteWrite caller)
  | .insertAudit _ => ((), store)

/-- A failed load leaves its caller with what it falls back on, now. -/
def failure (caller : Caller) (store : AdminSettingsStore) :
    AdminSettingsCommand → AdminSettingsStore
  | .findOrInsert _ => store.noteObtained caller store.revision
  | _ => store

end AdminSettingsStore

/-- The calls of the settings services in one process.  Of the environment
only time matters, and a killed call leaves the store as it is. -/
def adminSettingsBackend : System Caller AdminSettingsStore
    AdminSettingsCommand AdminSettingsReply PyException Outcome Nat where
  perform caller store command outcome :=
    let (answer, next) := store.effect caller command
    outcome.perform command.mayRaise (store.failure caller command)
      (.ok answer, next)
  environment store duration :=
    some { store with clock := store.clock + duration }
  kill store _ := some store

/-- A coroutine of the settings services. -/
abbrev AdminSettingsProgram (α : Type) : Type 1 :=
  Coroutine AdminSettingsCommand AdminSettingsReply PyException α

/-- Await a command of the settings services. -/
abbrev askSettings (command : AdminSettingsCommand) :
    AdminSettingsProgram (AdminSettingsReply command) :=
  Coroutine.call command

/-- The state of a run: the store and the calls that still live. -/
abbrev AdminSettingsState := Callers Caller AdminSettingsStore
  AdminSettingsCommand AdminSettingsReply PyException SystemSettings

end Integr8s
