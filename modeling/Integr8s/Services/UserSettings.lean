/-
Module: Integr8s.Services.UserSettings
Purpose: The settings service: rebuild a user's settings from the latest
  snapshot and the events after it, update them, and restore them.
Trusted boundary: human-reviewed spec
Main exports: UserSettingsService.getUserSettings,
  UserSettingsService.updateUserSettings,
  UserSettingsService.updateCustomSetting,
  UserSettingsService.restoreSettingsToPoint, SettingsCall
-/
import Integr8s.Infrastructure.SettingsStore

namespace Integr8s

namespace UserSettingsRepository

def getSnapshot (userId : UserId) :
    SettingsProgram (Option UserSettingsDocument) :=
  askStore (.findSnapshot userId)

/-- Store the settings in place of the user's snapshot. -/
def createSnapshot (settings : UserSettingsDocument) :
    SettingsProgram Unit := do
  let existing ← askStore (.findSnapshot settings.userId)
  match existing with
  | some existing =>
      askStore (.saveSnapshot { settings with id := existing.id })
  | none => askStore (.saveSnapshot settings)

def getSettingsEvents (userId : UserId) (since notAfter : Option Nat) :
    SettingsProgram (List DomainUserSettingsChangedEvent) :=
  askStore (.findEvents userId since notAfter)

def countEventsSinceSnapshot (userId : UserId) : SettingsProgram Nat := do
  match ← getSnapshot userId with
  | none => askStore (.countEvents userId none)
  | some snapshot => askStore (.countEvents userId (some snapshot.updatedAt))

end UserSettingsRepository

namespace UserSettingsService

open UserSettingsRepository

/-- Store the event, then publish it, logging a Kafka error instead of raising
it. -/
def produceOrLog (event : DomainUserSettingsChangedEvent) :
    SettingsProgram Unit := do
  let produce : SettingsProgram Unit := do
    askStore (.storeEvent event)
    askStore (.publish event)
  produce.attempt fun error =>
    if error.isPublishError then pure () else Coroutine.raise error

/-- Rebuild settings from the latest snapshot and the events after it. -/
def getUserSettings (userId : UserId) :
    SettingsProgram UserSettingsDocument := do
  match ← getSnapshot userId with
  | some snapshot => do
      let events ← getSettingsEvents userId (some snapshot.updatedAt) none
      pure (events.foldl UserSettingsDocument.applyEvent snapshot)
  | none => do
      let now ← askStore .now
      let events ← getSettingsEvents userId none none
      pure (events.foldl UserSettingsDocument.applyEvent
        { userId := userId, updatedAt := now })

/-- Publish the changed fields as one event and apply it to the current
settings. -/
def updateUserSettings (userId : UserId) (changes : UserSettingsChanges) :
    SettingsProgram UserSettingsDocument := do
  let current ← getUserSettings userId
  if changes = {} then pure current
  else do
    let now ← askStore .now
    let event : DomainUserSettingsChangedEvent :=
      { toUserSettingsChanges := changes, timestamp := now, userId := userId }
    produceOrLog event
    let current := current.applyEvent event
    let current := { current with version := current.version + 1 }
    let count ← countEventsSinceSnapshot userId
    if 10 ≤ count then do
      createSnapshot current
      pure current
    else pure current

/-- Update a custom setting. -/
def updateCustomSetting (userId : UserId) (key : String) (value : AnyValue) :
    SettingsProgram UserSettingsDocument := do
  let current ← getUserSettings userId
  updateUserSettings userId
    { customSettings := some (current.customSettings.insert key value) }

/-- Restore settings to a specific point in time.  Rebuilds replay events after
`updatedAt`, so the snapshot carries the restore time. -/
def restoreSettingsToPoint (userId : UserId) (timestamp : Nat) :
    SettingsProgram UserSettingsDocument := do
  let events ← getSettingsEvents userId none (some timestamp)
  let created ← askStore .now
  let settings := events.foldl UserSettingsDocument.applyEvent
    { userId := userId, updatedAt := created }
  let now ← askStore .now
  let settings := { settings with updatedAt := now }
  createSnapshot settings
  produceOrLog { timestamp := now, userId := userId }
  pure settings

end UserSettingsService

/-- An update of a user's settings: some fields as a whole, or one custom
key. -/
inductive SettingsCall where
  | updateUserSettings (userId : UserId) (changes : UserSettingsChanges)
  | updateCustomSetting (userId : UserId) (key : String) (value : AnyValue)

namespace SettingsCall

def userId : SettingsCall → UserId
  | updateUserSettings userId _ => userId
  | updateCustomSetting userId _ _ => userId

def program : SettingsCall → SettingsProgram UserSettingsDocument
  | updateUserSettings userId changes =>
      UserSettingsService.updateUserSettings userId changes
  | updateCustomSetting userId key value =>
      UserSettingsService.updateCustomSetting userId key value

end SettingsCall

end Integr8s
