/-
Module: Integr8s.Domain.UserSettings
Purpose: A user's settings, the changes that an update makes to them, the
  event that carries the changes, and the document that a snapshot stores.
Trusted boundary: human-reviewed spec
Main exports: UserSettings, UserSettingsChanges, UserSettingsDocument,
  DomainUserSettingsChangedEvent, UserSettingsDocument.applyEvent,
  SettingsField
-/
import Integr8s.Domain.Execution
import Mathlib.Data.List.AList

namespace Integr8s

/-- Available UI themes. -/
inductive Theme where
  | light
  | dark
  | system
deriving DecidableEq, Repr

structure DomainNotificationSettings where
  executionCompleted : Bool := true
  executionFailed : Bool := true
deriving DecidableEq, Repr

structure DomainEditorSettings where
  fontSize : Int := 14
  tabSize : Int := 4
  useTabs : Bool := false
  wordWrap : Bool := true
  showLineNumbers : Bool := true
deriving DecidableEq, Repr

/-- Any value that the client stores, as the JSON text of it. -/
abbrev AnyValue := String

/-- The custom settings, a dict. -/
abbrev CustomSettings := AList fun _ : String => AnyValue

/-- The fields of a user's settings. -/
structure UserSettings where
  theme : Theme := .system
  timezone : String := "UTC"
  dateFormat : String := "YYYY-MM-DD"
  timeFormat : String := "24h"
  notifications : DomainNotificationSettings := {}
  editor : DomainEditorSettings := {}
  customSettings : CustomSettings := ∅
deriving DecidableEq

/-- Fields an update sets on a user's settings; a missing key keeps the
current value. -/
structure UserSettingsChanges where
  theme : Option Theme := none
  timezone : Option String := none
  dateFormat : Option String := none
  timeFormat : Option String := none
  notifications : Option DomainNotificationSettings := none
  editor : Option DomainEditorSettings := none
  customSettings : Option CustomSettings := none
deriving DecidableEq

/-- A settings event as it is read back: the time, the user and the changed
fields. -/
structure DomainUserSettingsChangedEvent extends UserSettingsChanges where
  timestamp : Nat
  userId : UserId
deriving DecidableEq

/-- A user's settings snapshot; the settings events after `updatedAt` apply on
top of it. -/
structure UserSettingsDocument extends UserSettings where
  id : Option String := none
  userId : UserId
  version : Nat := 1
  updatedAt : Nat
deriving DecidableEq

/-- Set the fields that changes carry. -/
def UserSettings.apply (settings : UserSettings)
    (changes : UserSettingsChanges) : UserSettings where
  theme := changes.theme.getD settings.theme
  timezone := changes.timezone.getD settings.timezone
  dateFormat := changes.dateFormat.getD settings.dateFormat
  timeFormat := changes.timeFormat.getD settings.timeFormat
  notifications := changes.notifications.getD settings.notifications
  editor := changes.editor.getD settings.editor
  customSettings := changes.customSettings.getD settings.customSettings

/-- Set the fields a settings update event carries. -/
def UserSettingsDocument.applyEvent (settings : UserSettingsDocument)
    (event : DomainUserSettingsChangedEvent) : UserSettingsDocument :=
  { settings with
    toUserSettings :=
      settings.toUserSettings.apply event.toUserSettingsChanges
    updatedAt := event.timestamp }

/-- The names of the fields. -/
inductive SettingsField where
  | theme
  | timezone
  | dateFormat
  | timeFormat
  | notifications
  | editor
  | customSettings
deriving DecidableEq, Repr

/-- What a field holds. -/
abbrev SettingsField.Value : SettingsField → Type
  | .theme => Theme
  | .timezone | .dateFormat | .timeFormat => String
  | .notifications => DomainNotificationSettings
  | .editor => DomainEditorSettings
  | .customSettings => CustomSettings

/-- The value of a field. -/
def UserSettings.field (settings : UserSettings) :
    (field : SettingsField) → field.Value
  | .theme => settings.theme
  | .timezone => settings.timezone
  | .dateFormat => settings.dateFormat
  | .timeFormat => settings.timeFormat
  | .notifications => settings.notifications
  | .editor => settings.editor
  | .customSettings => settings.customSettings

/-- The value that changes set a field to, if they set it. -/
def UserSettingsChanges.field? (changes : UserSettingsChanges) :
    (field : SettingsField) → Option field.Value
  | .theme => changes.theme
  | .timezone => changes.timezone
  | .dateFormat => changes.dateFormat
  | .timeFormat => changes.timeFormat
  | .notifications => changes.notifications
  | .editor => changes.editor
  | .customSettings => changes.customSettings

/-- Changes set the fields they carry and keep the others. -/
theorem UserSettings.field_apply (settings : UserSettings)
    (changes : UserSettingsChanges) (field : SettingsField) :
    (settings.apply changes).field field =
      (changes.field? field).getD (settings.field field) := by
  cases field <;> rfl

/-- Settings with the same fields are the same. -/
theorem UserSettings.eq_of_fields {first second : UserSettings}
    (same : ∀ field, first.field field = second.field field) :
    first = second := by
  have theme := same .theme
  have timezone := same .timezone
  have dateFormat := same .dateFormat
  have timeFormat := same .timeFormat
  have notifications := same .notifications
  have editor := same .editor
  have customSettings := same .customSettings
  cases first
  cases second
  simp only [field] at *
  simp [*]

end Integr8s
