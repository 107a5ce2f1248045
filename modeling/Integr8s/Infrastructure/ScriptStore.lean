/-
Module: Integr8s.Infrastructure.ScriptStore
Purpose: The saved scripts in the database, the commands that the saved script
  service awaits, and how a command may go.
Trusted boundary: human-reviewed spec
Main exports: ScriptStore, ScriptCommand, ScriptStore.effect, ScriptChoice,
  ScriptEvent, scriptBackend, ScriptProgram
-/
import Integr8s.Domain.SavedScripts
import Integr8s.Infrastructure.Outcomes

namespace Integr8s

/-- The scripts in the order in which they were stored, and which call drew an
id, if one did.  The clock counts microseconds. -/
structure ScriptStore where
  clock : Nat := 0
  scripts : List SavedScriptDocument := []
  drawn : ScriptId → Option Caller := fun _ => none

/-- What the saved script service awaits.  A stored script is named by its id
and its owner, which never change. -/
inductive ScriptCommand where
  | now
  | uuid
  | insert (doc : SavedScriptDocument)
  | findOne (scriptId : ScriptId) (userId : UserId)
  | find (userId : UserId)
  | set (scriptId : ScriptId) (userId : UserId)
      (changes : SavedScriptChanges) (updatedAt : Nat)
  | delete (scriptId : ScriptId) (userId : UserId)

abbrev ScriptReply : ScriptCommand → Type
  | .now => Nat
  | .uuid => ScriptId
  | .insert _ => Unit
  | .findOne .. => Option SavedScriptDocument
  | .find _ => List SavedScriptDocument
  | .set .. => SavedScriptDocument
  | .delete .. => Unit

/-- Only the database fails. -/
def ScriptCommand.mayRaise : ScriptCommand → PyException → Bool
  | .now, _ | .uuid, _ => false
  | _, _ => true

/-- Whether a command draws an id. -/
def ScriptCommand.draws : ScriptCommand → Bool
  | .uuid => true
  | _ => false

namespace ScriptStore

/-- A script of this id and this owner. -/
def names (scriptId : ScriptId) (userId : UserId)
    (doc : SavedScriptDocument) : Bool :=
  doc.scriptId == scriptId && doc.userId == userId

/-- A command that reached the database.  An id that is taken by anybody's
script is refused, and a script that was removed since it was read fails its
update. -/
def effect (caller : Caller) (store : ScriptStore) (uuid : ScriptId) :
    (command : ScriptCommand) →
      Except PyException (ScriptReply command) × ScriptStore
  | .now => (.ok store.clock, store)
  | .uuid =>
      (.ok uuid, { store with
        drawn := Function.update store.drawn uuid (some caller) })
  | .insert doc =>
      if store.scripts.any fun other => other.scriptId == doc.scriptId then
        (.error .duplicateKeyError, store)
      else (.ok (), { store with scripts := store.scripts ++ [doc] })
  | .findOne scriptId userId =>
      (.ok (store.scripts.find? (names scriptId userId)), store)
  | .find userId =>
      (.ok (store.scripts.filter fun doc => doc.userId == userId), store)
  | .set scriptId userId changes updatedAt =>
      match store.scripts.find? (names scriptId userId) with
      | none => (.error (.otherError "The script is gone"), store)
      | some doc =>
          (.ok (doc.set changes updatedAt),
            { store with
              scripts := store.scripts.map fun other =>
                if names scriptId userId other then
                  other.set changes updatedAt
                else other })
  | .delete scriptId userId =>
      (.ok (), { store with
        scripts := store.scripts.filter fun doc =>
          !names scriptId userId doc })

end ScriptStore

/-- What the environment decides when a command runs: how it goes, and a new
id. -/
structure ScriptChoice where
  outcome : Outcome := .succeeds
  uuid : ScriptId := ""
deriving DecidableEq

/-- Time passes, or an admin deletes a user with all that is the user's. -/
inductive ScriptEvent where
  | tick (duration : Nat)
  | deleteUser (userId : UserId)
deriving DecidableEq

/-- The calls of the saved script service over one store.  An id is never drawn
twice, and a killed call leaves the store as it is. -/
def scriptBackend : System Caller ScriptStore ScriptCommand ScriptReply
    PyException ScriptChoice ScriptEvent where
  perform caller store command choice :=
    if command.draws && (store.drawn choice.uuid).isSome then none
    else
      choice.outcome.perform command.mayRaise store
        (store.effect caller choice.uuid command)
  environment
    | store, .tick duration =>
        some { store with clock := store.clock + duration }
    | store, .deleteUser userId =>
        some { store with
          scripts := store.scripts.filter fun doc => doc.userId != userId }
  kill store _ := some store

/-- A coroutine of the saved script service. -/
abbrev ScriptProgram (α : Type) : Type 1 :=
  Coroutine ScriptCommand ScriptReply PyException α

/-- Await a command of the saved script service. -/
abbrev scripts (command : ScriptCommand) :
    ScriptProgram (ScriptReply command) :=
  Coroutine.call command

end Integr8s
