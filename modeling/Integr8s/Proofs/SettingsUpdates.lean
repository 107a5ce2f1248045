/-
Module: Integr8s.Proofs.SettingsUpdates
Purpose: When every acknowledged settings update shows in the settings: over
  all runs of concurrent updates, with snapshots and expiring events, and over
  the sequential ones among them.
Trusted boundary: none
Main exports: SettingsUpdates.Orderly, SettingsUpdates.contract,
  SettingsUpdates.Consistent, SettingsUpdates.FieldShown,
  SettingsUpdates.KeyShown, SettingsUpdates.updates_shown_when_orderly,
  SettingsUpdates.settings_survive_while_covered
-/
import Integr8s.Services.UserSettings

namespace Integr8s

namespace SettingsUpdates

/-- The calls of the settings service in a run. -/
abbrev SettingsState := Callers Caller SettingsStore SettingsCommand
  SettingsReply PyException UserSettingsDocument

/-- A step of the settings service. -/
abbrev SettingsMove := Move Caller Choice Nat

/-- Any calls over an empty store. -/
def start (clock : Nat) (calls : Caller → SettingsCall) : SettingsState where
  shared := { clock := clock }
  running caller := some (calls caller).program

/-- What a field is set to by a call that has returned. -/
def setTo (call : SettingsCall) (returned : UserSettingsDocument)
    (field : SettingsField) : Option field.Value :=
  match call with
  | .updateUserSettings _ changes => changes.field? field
  | .updateCustomSetting .. =>
      ({ customSettings := some returned.customSettings } :
        UserSettingsChanges).field? field

/-- Whether a call sets one custom key. -/
def isByKey : SettingsCall → Bool
  | .updateUserSettings .. => false
  | .updateCustomSetting .. => true

/-- The custom settings of a user are changed only one key at a time. -/
def OnlyByKey (calls : Caller → SettingsCall) (userId : UserId) : Prop :=
  ∀ caller changes, calls caller = .updateUserSettings userId changes →
    changes.customSettings = none

section Law

variable (calls : Caller → SettingsCall)

/-- The call has stored its event. -/
def HasStored (caller : Caller) (store : SettingsStore) : Prop :=
  ∃ stored ∈ store.events, stored.storedBy = caller

/-- The user's snapshot has the event in it. -/
def Covered (store : SettingsStore) (stored : StoredSettingsEvent) : Prop :=
  ∃ snapshot, store.snapshots stored.event.userId = some snapshot ∧
    stored.event.timestamp ≤ snapshot.updatedAt

/-- The snapshot that a call has read, if it read any, has the event in it. -/
def CoveredByBase (reading : Reading) (stored : StoredSettingsEvent) : Prop :=
  ∃ base, reading.base = some base ∧ stored.event.timestamp ≤ base

/-- An event is stored under a time of its own that the snapshot doesn't
cover, and one for a custom key while no other change of the custom settings
was stored since its call read them. -/
structure StoredInOrder (store : SettingsStore) (caller : Caller)
    (event : DomainUserSettingsChangedEvent) : Prop where
  distinct : ∀ stored ∈ store.history event.userId,
    stored.event.timestamp ≠ event.timestamp
  uncovered : ∀ snapshot, store.snapshots event.userId = some snapshot →
    snapshot.updatedAt < event.timestamp
  alone : isByKey (calls caller) = true →
    ∀ reading, store.readings caller = some reading →
      ∀ stored ∈ store.events.drop reading.first,
        stored.event.userId = event.userId →
          stored.event.customSettings = none

/-- A snapshot doesn't find another one in its place, and since its call read
the settings no event of an earlier time was stored. -/
structure SavedInOrder (store : SettingsStore) (caller : Caller)
    (settings : UserSettingsDocument) : Prop where
  expected : ∀ existing, store.snapshots settings.userId = some existing →
    settings.id = existing.id
  complete : ∀ reading, store.readings caller = some reading →
    ∀ stored ∈ store.events.drop reading.last,
      stored.event.userId = settings.userId →
        settings.updatedAt ≤ stored.event.timestamp

/-- How a command of a call may go.  Until its event is stored it may fail in
any way, after that it may only fail to be published. -/
def Allowed (caller : Caller) (store : SettingsStore)
    (command : SettingsCommand) (choice : Choice) : Prop :=
  match command with
  | .storeEvent event =>
      match choice.outcome with
      | .succeeds => StoredInOrder calls store caller event
      | .fails _ => True
      | .unacknowledged _ => False
  | .saveSnapshot settings =>
      choice.outcome = .succeeds ∧ SavedInOrder store caller settings
  | .publish _ =>
      match choice.outcome with
      | .succeeds => True
      | .fails error | .unacknowledged error => error.isPublishError = true
  | _ => HasStored caller store → choice.outcome = .succeeds

/-- An event expires only when the snapshot covers it, and every snapshot that
a call at work has read. -/
def ExpiresCovered (atWork : Caller → Prop) (store : SettingsStore)
    (duration : Nat) : Prop :=
  ∀ stored ∈ store.events, store.clock < stored.expiresAt →
    stored.expiresAt ≤ store.clock + duration →
      Covered store stored ∧
        ∀ caller, atWork caller → ∀ reading,
          store.readings caller = some reading →
            reading.userId = stored.event.userId →
              CoveredByBase reading stored

/-- The orders of steps in which no acknowledged update is lost. -/
def Orderly (state : SettingsState) : SettingsMove → Prop
  | .caller caller choice => ∀ command,
      state.awaited caller = some command →
        Allowed calls caller state.shared command choice
  | .environment duration =>
      ExpiresCovered state.atWork state.shared duration
  | .kill caller => ¬ HasStored caller state.shared

/-- No call has begun without having ended. -/
def Quiet (state : SettingsState) : Prop :=
  ∀ caller, state.atWork caller → state.shared.readings caller = none

/-- A call has returned. -/
def Acknowledged (state : SettingsState) (caller : Caller)
    (returned : UserSettingsDocument) : Prop :=
  state.running caller = some (.done (.ok returned))

/-- A field shows what the latest acknowledged update of it has set, or its
default when there is none. -/
def FieldShown (state : SettingsState) (userId : UserId)
    (shown : UserSettings) (field : SettingsField) : Prop :=
  (∃ caller returned, Acknowledged state caller returned ∧
    (calls caller).userId = userId ∧
    setTo (calls caller) returned field = some (shown.field field) ∧
    ∀ other otherReturned, Acknowledged state other otherReturned →
      (calls other).userId = userId →
        setTo (calls other) otherReturned field ≠ none →
          otherReturned.updatedAt ≤ returned.updatedAt) ∨
  (∀ caller returned, Acknowledged state caller returned →
    (calls caller).userId = userId →
      setTo (calls caller) returned field = none) ∧
    shown.field field = ({} : UserSettings).field field

/-- A custom key shows the value of the latest acknowledged update of it, or
none when there is none. -/
def KeyShown (state : SettingsState) (userId : UserId)
    (shown : UserSettings) (key : String) : Prop :=
  (∃ caller returned value, Acknowledged state caller returned ∧
    calls caller = .updateCustomSetting userId key value ∧
    shown.customSettings.lookup key = some value ∧
    ∀ other otherReturned otherValue,
      Acknowledged state other otherReturned →
        calls other = .updateCustomSetting userId key otherValue →
          otherReturned.updatedAt ≤ returned.updatedAt) ∨
  (∀ caller returned value, Acknowledged state caller returned →
    calls caller ≠ .updateCustomSetting userId key value) ∧
    shown.customSettings.lookup key = none

/-- What a reader is shown when nobody else moves. -/
def shownTo (reader : Caller) (userId : UserId) (store : SettingsStore) :
    Option (Except PyException UserSettingsDocument) :=
  ((UserSettingsService.getUserSettings userId).alone
    (SettingsStore.effect reader {}) store).map Prod.fst

/-- Every acknowledged update shows. -/
def UpdatesShown (state : SettingsState) : Prop :=
  ∀ reader userId, ∃ shown,
    shownTo reader userId state.shared = some (.ok shown) ∧
      (∀ field, FieldShown calls state userId shown.toUserSettings field) ∧
      (OnlyByKey calls userId →
        ∀ key, KeyShown calls state userId shown.toUserSettings key)

/-! ### Registers -/

/-- A field is set by the events that carry it. -/
def fieldRegister (field : SettingsField) :
    Register settingsReplay field.Value where
  read settings := settings.field field
  write stored := stored.event.field? field
  read_apply settings _ := UserSettings.field_apply settings _ field

/-- The dict after the call of an event has set its key. -/
def setKey (custom : CustomSettings) : SettingsCall → CustomSettings
  | .updateUserSettings .. => custom
  | .updateCustomSetting _ key value => custom.insert key value

/-- The value that a call sets a key to. -/
def keySetTo (key : String) : SettingsCall → Option (Option AnyValue)
  | .updateUserSettings .. => none
  | .updateCustomSetting _ setKey value =>
      if setKey = key then some (some value) else none

/-- The custom settings as the calls set them, one key at a time. -/
def customReplay : Replay CustomSettings StoredSettingsEvent where
  stamp stored := stored.event.timestamp
  apply custom stored := setKey custom (calls stored.storedBy)

/-- A custom key is set by the calls for it. -/
def keyRegister (key : String) :
    Register (customReplay calls) (Option AnyValue) where
  read custom := custom.lookup key
  write stored := keySetTo key (calls stored.storedBy)
  read_apply custom stored := by
    simp only [customReplay]
    cases calls stored.storedBy with
    | updateUserSettings userId changes => rfl
    | updateCustomSetting userId other value =>
        by_cases same : other = key
        · subst same
          simp [setKey, keySetTo]
        · have different : key ≠ other := fun equal => same equal.symm
          simp [setKey, keySetTo, same, AList.lookup_insert_ne different]

/-- The events of a user that set the custom settings. -/
def customHistory (store : SettingsStore) (userId : UserId) :
    List StoredSettingsEvent :=
  (store.history userId).filter fun stored =>
    stored.event.customSettings.isSome

/-- The settings that all events of a user make up, expired or not. -/
def rebuilt (store : SettingsStore) (userId : UserId) : UserSettings :=
  settingsReplay.rebuild {} (store.history userId)

/-! ### The invariant -/

/-- The snapshots say what the events up to their time make up, an event that
has expired is covered, and the events are those of their calls. -/
structure Consistent (store : SettingsStore) : Prop where
  owner : ∀ userId snapshot, store.snapshots userId = some snapshot →
    snapshot.userId = userId
  snapshot : ∀ userId snapshot, store.snapshots userId = some snapshot →
    snapshot.toUserSettings = settingsReplay.rebuild {}
      (settingsReplay.upTo snapshot.updatedAt (store.history userId))
  ofEvent : ∀ userId snapshot, store.snapshots userId = some snapshot →
    ∃ stored ∈ store.history userId,
      stored.event.timestamp = snapshot.updatedAt
  expired : ∀ stored ∈ store.events, stored.expiresAt ≤ store.clock →
    Covered store stored
  stamped : ∀ stored ∈ store.events,
    stored.event.timestamp ≤ store.clock
  distinct : ∀ userId, settingsReplay.Distinct (store.history userId)
  begun : ∀ stored ∈ store.events,
    store.readings stored.storedBy ≠ none
  once : store.events.Pairwise fun first second =>
    first.storedBy ≠ second.storedBy
  owned : ∀ stored ∈ store.events,
    stored.event.userId = (calls stored.storedBy).userId
  byChanges : ∀ stored ∈ store.events, ∀ userId changes,
    calls stored.storedBy = .updateUserSettings userId changes →
      stored.event.toUserSettingsChanges = changes
  byKey : ∀ stored ∈ store.events, isByKey (calls stored.storedBy) = true →
    stored.event.customSettings.isSome = true
  keys : ∀ userId, OnlyByKey calls userId →
    (rebuilt store userId).customSettings =
      (customReplay calls).rebuild ∅ (customHistory store userId)
  reads : ∀ caller reading, store.readings caller = some reading →
    reading.first ≤ reading.last ∧ reading.last ≤ store.events.length

variable {calls} {caller : Caller} {store before after : SettingsStore}
  {userId : UserId}

private theorem mem_history {stored : StoredSettingsEvent} :
    stored ∈ store.history userId ↔
      stored ∈ store.events ∧ stored.event.userId = userId := by
  simp [SettingsStore.history]

private theorem mem_customHistory {stored : StoredSettingsEvent} :
    stored ∈ customHistory store userId ↔
      stored ∈ store.history userId ∧
        stored.event.customSettings.isSome = true := by
  simp [customHistory]

/-- The event that a call stores. -/
def storedNow (store : SettingsStore) (caller : Caller)
    (event : DomainUserSettingsChangedEvent) : StoredSettingsEvent where
  event := event
  expiresAt := store.clock + SettingsStore.eventLifetime
  storedBy := caller

private theorem storeEvent_events (event : DomainUserSettingsChangedEvent) :
    (store.storeEvent caller event).events =
      store.events ++ [storedNow store caller event] :=
  rfl

/-- The history of the user of a stored event, and of another user. -/
theorem storeEvent_history (event : DomainUserSettingsChangedEvent)
    (userId : UserId) :
    (store.storeEvent caller event).history userId =
      store.history userId ++
        (if event.userId = userId then [storedNow store caller event]
          else []) := by
  rw [SettingsStore.history, storeEvent_events, List.filter_append]
  by_cases same : event.userId = userId
  · simp [SettingsStore.history, storedNow, same]
  · simp [SettingsStore.history, storedNow, same]

/-- A call knows of the events that were stored when it first read, up to some
time, and what the custom settings were then. -/
def KnowsCustom (caller : Caller) (userId : UserId) (custom : CustomSettings)
    (time : Nat) (store : SettingsStore) : Prop :=
  ∃ reading known, store.readings caller = some reading ∧
    (∀ stored ∈ known, stored ∈ store.history userId ∧
      stored.event.timestamp ≤ time) ∧
    settingsReplay.Distinct known ∧
    (∀ stored ∈ store.events.take reading.first,
      stored.event.userId = userId → stored ∈ known) ∧
    (settingsReplay.rebuild {} known).customSettings = custom

/-- An event carries what its call sets. -/
def CarriesCall (call : SettingsCall) (caller : Caller)
    (event : DomainUserSettingsChangedEvent) (store : SettingsStore) : Prop :=
  match call with
  | .updateUserSettings _ changes => event.toUserSettingsChanges = changes
  | .updateCustomSetting userId key value => ∃ custom,
      KnowsCustom caller userId custom event.timestamp store ∧
        event.toUserSettingsChanges =
          { customSettings := some (custom.insert key value) }

/-- The custom settings after a whole history, when an event that sets them
is stored last. -/
theorem rebuilt_custom_stored {event : DomainUserSettingsChangedEvent}
    {custom : CustomSettings}
    (distinct : settingsReplay.Distinct
      ((store.storeEvent caller event).history event.userId))
    (latest : ∀ stored ∈ store.history event.userId,
      stored.event.customSettings ≠ none →
        stored.event.timestamp ≤ event.timestamp)
    (carries : event.customSettings = some custom) :
    (rebuilt (store.storeEvent caller event) event.userId).customSettings =
      custom := by
  have decides : (fieldRegister .customSettings).Decides
      ((store.storeEvent caller event).history event.userId)
      (storedNow store caller event) custom := by
    refine ⟨?_, carries, ?_⟩
    · rw [storeEvent_history, if_pos rfl]
      simp
    · intro other member writes
      rw [storeEvent_history, if_pos rfl] at member
      rcases List.mem_append.mp member with old | new
      · exact latest other old writes
      · rw [List.mem_singleton.mp new]
  exact Register.read_rebuild_decided distinct decides

section Custom

variable {custom : CustomSettings} {time : Nat}

/-- Every event that sets the custom settings is known to a call that nobody
has come before. -/
theorem KnowsCustom.all_known
    (knows : KnowsCustom caller userId custom time store)
    (alone : ∀ reading, store.readings caller = some reading →
      ∀ stored ∈ store.events.drop reading.first,
        stored.event.userId = userId → stored.event.customSettings = none) :
    ∃ known, (∀ stored ∈ known, stored ∈ store.history userId ∧
        stored.event.timestamp ≤ time) ∧
      settingsReplay.Distinct known ∧
      (settingsReplay.rebuild {} known).customSettings = custom ∧
      ∀ stored ∈ store.history userId, stored.event.customSettings ≠ none →
        stored ∈ known := by
  obtain ⟨reading, known, reads, inHistory, distinct, complete, same⟩ := knows
  refine ⟨known, inHistory, distinct, same, ?_⟩
  intro stored member writes
  obtain ⟨inEvents, ofUser⟩ := mem_history.mp member
  rw [← List.take_append_drop reading.first store.events] at inEvents
  rcases List.mem_append.mp inEvents with early | late
  · exact complete stored early ofUser
  · exact absurd (alone reading reads stored late ofUser) writes

/-- What such a call knew of the custom settings is what they are, and none of
their events is later than it knows. -/
theorem KnowsCustom.current (consistent : Consistent calls store)
    (knows : KnowsCustom caller userId custom time store)
    (alone : ∀ reading, store.readings caller = some reading →
      ∀ stored ∈ store.events.drop reading.first,
        stored.event.userId = userId → stored.event.customSettings = none) :
    (rebuilt store userId).customSettings = custom ∧
      ∀ stored ∈ store.history userId, stored.event.customSettings ≠ none →
        stored.event.timestamp ≤ time := by
  obtain ⟨known, inHistory, distinct, rfl, complete⟩ := knows.all_known alone
  constructor
  · apply (fieldRegister .customSettings).read_rebuild_congr
      (consistent.distinct userId) distinct
    intro stored writes
    constructor
    · intro member
      exact complete stored member writes
    · intro member
      exact (inHistory stored member).1
  · intro stored member writes
    exact (inHistory stored (complete stored member writes)).2

end Custom

section Storing

variable {event : DomainUserSettingsChangedEvent}

private theorem distinct_stored (consistent : Consistent calls store)
    (inOrder : StoredInOrder calls store caller event) (userId : UserId) :
    settingsReplay.Distinct
      ((store.storeEvent caller event).history userId) := by
  rw [storeEvent_history]
  by_cases same : event.userId = userId
  · rw [if_pos same]
    apply List.pairwise_append.mpr
    refine ⟨consistent.distinct userId, List.pairwise_singleton _ _, ?_⟩
    intro stored member new isNew
    rw [List.mem_singleton.mp isNew]
    exact inOrder.distinct stored (same ▸ member)
  · rw [if_neg same, List.append_nil]
    exact consistent.distinct userId

/-- The custom settings after an event that leaves them alone. -/
theorem rebuilt_custom_kept (consistent : Consistent calls store)
    (inOrder : StoredInOrder calls store caller event)
    (silent : event.customSettings = none) (userId : UserId) :
    (rebuilt (store.storeEvent caller event) userId).customSettings =
      (rebuilt store userId).customSettings := by
  apply (fieldRegister .customSettings).read_rebuild_congr
    (distinct_stored consistent inOrder userId) (consistent.distinct userId)
  intro stored writes
  rw [storeEvent_history, List.mem_append]
  constructor
  · intro member
    rcases member with old | new
    · exact old
    · split at new
      · rw [List.mem_singleton.mp new] at writes
        exact absurd silent writes
      · cases new
  · exact Or.inl

/-- The keys still make up the custom settings after a call's event. -/
theorem keys_stored (consistent : Consistent calls store)
    (inOrder : StoredInOrder calls store caller event)
    (owned : event.userId = (calls caller).userId)
    (carries : CarriesCall (calls caller) caller event store)
    (onlyByKey : OnlyByKey calls userId) :
    (rebuilt (store.storeEvent caller event) userId).customSettings =
      (customReplay calls).rebuild ∅
        (customHistory (store.storeEvent caller event) userId) := by
  have before := consistent.keys userId onlyByKey
  rw [customHistory, storeEvent_history, List.filter_append]
  cases sets : event.customSettings with
  | none =>
      have nothing : (if event.userId = userId then
          [storedNow store caller event] else []).filter
            (fun stored => stored.event.customSettings.isSome) = [] := by
        split
        · simp [storedNow, sets]
        · rfl
      rw [rebuilt_custom_kept consistent inOrder sets, before, nothing,
        List.append_nil]
      rfl
  | some custom =>
      by_cases same : event.userId = userId
      · subst same
        rw [if_pos rfl]
        cases call : calls caller with
        | updateUserSettings userId changes =>
            rw [call] at carries owned
            have untouched := onlyByKey caller changes (owned ▸ call)
            rw [← show event.toUserSettingsChanges = changes from carries,
              sets] at untouched
            cases untouched
        | updateCustomSetting userId key value =>
            rw [call] at carries owned
            obtain ⟨known, knows, carried⟩ := carries
            have ofUser : event.userId = userId := owned
            subst ofUser
            have isKey : isByKey (calls caller) = true := by
              rw [call]
              rfl
            obtain ⟨current, latest⟩ :=
              knows.current consistent (inOrder.alone isKey)
            have same : custom = known.insert key value := by
              have both := sets.symm.trans
                (congrArg UserSettingsChanges.customSettings carried)
              simpa using both
            have one : [storedNow store caller event].filter
                (fun stored => stored.event.customSettings.isSome) =
                  [storedNow store caller event] := by
              simp [storedNow, sets]
            rw [one, Replay.rebuild_latest, rebuilt_custom_stored
              (distinct_stored consistent inOrder _) latest sets]
            · rw [← customHistory, ← before, current, same]
              simp [customReplay, storedNow, call, setKey]
            · intro other member
              obtain ⟨inHistory, writes⟩ := mem_customHistory.mp member
              have early := latest other inHistory (by
                rw [← Option.isSome_iff_ne_none]
                exact writes)
              have apart := inOrder.distinct other inHistory
              exact Nat.lt_of_le_of_ne early apart
      · rw [if_neg same]
        have unchanged : rebuilt (store.storeEvent caller event) userId =
            rebuilt store userId := by
          rw [rebuilt, storeEvent_history, if_neg same, List.append_nil]
          rfl
        rw [unchanged, before]
        simp [customHistory]

/-- An event stored in order keeps the invariant. -/
theorem Consistent.storeEvent (consistent : Consistent calls store)
    (inOrder : StoredInOrder calls store caller event)
    (fresh : ¬ HasStored caller store)
    (begun : store.readings caller ≠ none)
    (past : event.timestamp ≤ store.clock)
    (owned : event.userId = (calls caller).userId)
    (carries : CarriesCall (calls caller) caller event store) :
    Consistent calls (store.storeEvent caller event) := by
  have either {property : StoredSettingsEvent → Prop}
      (old : ∀ stored ∈ store.events, property stored)
      (new : property (storedNow store caller event)) :
      ∀ stored ∈ (store.storeEvent caller event).events,
        property stored := by
    intro stored member
    rw [storeEvent_events] at member
    rcases List.mem_append.mp member with isOld | isNew
    · exact old stored isOld
    · rw [List.mem_singleton.mp isNew]
      exact new
  constructor
  · exact consistent.owner
  · intro userId snapshot present
    rw [consistent.snapshot userId snapshot present, storeEvent_history,
      Replay.upTo, Replay.upTo, List.filter_append]
    by_cases same : event.userId = userId
    · have late : ¬ event.timestamp ≤ snapshot.updatedAt := by
        have := inOrder.uncovered snapshot (same ▸ present)
        omega
      simp [same, storedNow, settingsReplay, late]
    · simp [same]
  · intro userId snapshot present
    obtain ⟨stored, member, dated⟩ :=
      consistent.ofEvent userId snapshot present
    refine ⟨stored, ?_, dated⟩
    rw [storeEvent_history]
    exact List.mem_append_left _ member
  · apply either consistent.expired
    intro expired
    have lives : 0 < SettingsStore.eventLifetime := by decide
    have later : store.clock + SettingsStore.eventLifetime ≤ store.clock :=
      expired
    omega
  · exact either consistent.stamped past
  · exact distinct_stored consistent inOrder
  · exact either consistent.begun begun
  · rw [storeEvent_events]
    apply List.pairwise_append.mpr
    refine ⟨consistent.once, List.pairwise_singleton _ _, ?_⟩
    intro stored member new isNew same
    rw [List.mem_singleton.mp isNew] at same
    exact fresh ⟨stored, member, same⟩
  · exact either consistent.owned owned
  · apply either consistent.byChanges
    intro userId changes call
    rw [show (storedNow store caller event).storedBy = caller from rfl]
      at call
    rw [call] at carries
    exact carries
  · apply either consistent.byKey
    intro isKey
    rw [show (storedNow store caller event).storedBy = caller from rfl]
      at isKey
    cases call : calls caller with
    | updateUserSettings userId changes =>
        rw [call] at isKey
        cases isKey
    | updateCustomSetting userId key value =>
        rw [call] at carries
        obtain ⟨custom, -, carried⟩ := carries
        simp [storedNow, carried]
  · intro userId onlyByKey
    exact keys_stored consistent inOrder owned carries onlyByKey
  · intro other reading reads
    obtain ⟨ordered, bounded⟩ := consistent.reads other reading reads
    refine ⟨ordered, ?_⟩
    rw [storeEvent_events, List.length_append]
    omega

end Storing

/-! ### Reading and saving -/

/-- What a call knows after it read the settings: they are made up of stored
events, among which is every one that was stored when it began to read. -/
structure Knows (caller : Caller) (userId : UserId) (settings : UserSettings)
    (reading : Reading) (known : List StoredSettingsEvent)
    (store : SettingsStore) : Prop where
  reads : store.readings caller = some reading
  ofUser : reading.userId = userId
  inHistory : ∀ stored ∈ known, stored ∈ store.history userId
  distinct : settingsReplay.Distinct known
  complete : ∀ stored ∈ store.events.take reading.last,
    stored.event.userId = userId → stored ∈ known
  bounded : reading.last ≤ store.events.length
  covers : ∀ stored ∈ store.history userId, stored.expiresAt ≤ store.clock →
    CoveredByBase reading stored
  settings_eq : settings = settingsReplay.rebuild {} known

/-- The call's own event is the latest one that its settings are made up
of. -/
structure Latest (caller : Caller) (reading : Reading)
    (known : List StoredSettingsEvent) (own : StoredSettingsEvent) :
    Prop where
  storedBy : own.storedBy = caller
  member : own ∈ known
  latest : ∀ stored ∈ known, stored.event.timestamp ≤ own.event.timestamp
  afterBase : ∀ base, reading.base = some base → base ≤ own.event.timestamp

/-- A snapshot saved in order keeps the invariant. -/
theorem Consistent.writeSnapshot {settings : UserSettingsDocument}
    {reading : Reading} {known : List StoredSettingsEvent}
    {own : StoredSettingsEvent} (consistent : Consistent calls store)
    (inOrder : SavedInOrder store caller settings)
    (knows : Knows caller settings.userId settings.toUserSettings reading
      known store)
    (latest : Latest caller reading known own)
    (dated : own.event.timestamp = settings.updatedAt) (fresh : String) :
    Consistent calls (store.writeSnapshot caller fresh settings) := by
  have ownInHistory := knows.inHistory own latest.member
  have snapshots (userId : UserId) (snapshot : UserSettingsDocument)
      (present : (store.writeSnapshot caller fresh settings).snapshots
        userId = some snapshot) :
      userId = settings.userId ∧
          snapshot = { settings with id := some (settings.id.getD fresh) } ∨
        userId ≠ settings.userId ∧
          store.snapshots userId = some snapshot := by
    by_cases same : userId = settings.userId
    · subst same
      left
      simpa [SettingsStore.writeSnapshot, eq_comm] using present
    · right
      simpa [SettingsStore.writeSnapshot, same] using present
  constructor
  · intro userId snapshot present
    rcases snapshots userId snapshot present with
      ⟨rfl, rfl⟩ | ⟨-, before⟩
    · rfl
    · exact consistent.owner userId snapshot before
  · intro userId snapshot present
    rcases snapshots userId snapshot present with
      ⟨rfl, rfl⟩ | ⟨-, before⟩
    · show settings.toUserSettings = _
      rw [knows.settings_eq]
      apply Replay.rebuild_congr knows.distinct
      · exact (consistent.distinct settings.userId).filter _
      · intro stored
        rw [Replay.mem_upTo]
        constructor
        · intro member
          have early := latest.latest stored member
          rw [dated] at early
          exact ⟨knows.inHistory stored member, early⟩
        · intro member
          have inHistory : stored ∈ store.history settings.userId :=
            member.1
          have early : stored.event.timestamp ≤ settings.updatedAt :=
            member.2
          obtain ⟨inEvents, ofUser⟩ := mem_history.mp inHistory
          rw [← List.take_append_drop reading.last store.events] at inEvents
          rcases List.mem_append.mp inEvents with isEarly | isLate
          · exact knows.complete stored isEarly ofUser
          · have late := inOrder.complete reading knows.reads stored isLate
              ofUser
            have sameTime : stored.event.timestamp = own.event.timestamp := by
              omega
            have same : stored = own :=
              (consistent.distinct settings.userId).unique inHistory
                ownInHistory sameTime
            rw [same]
            exact latest.member
    · exact consistent.snapshot userId snapshot before
  · intro userId snapshot present
    rcases snapshots userId snapshot present with
      ⟨rfl, rfl⟩ | ⟨-, before⟩
    · exact ⟨own, ownInHistory, dated⟩
    · exact consistent.ofEvent userId snapshot before
  · intro stored member expired
    by_cases same : stored.event.userId = settings.userId
    · obtain ⟨base, isBase, early⟩ := knows.covers stored
        (mem_history.mpr ⟨member, same⟩) expired
      have late := latest.afterBase base isBase
      refine ⟨{ settings with id := some (settings.id.getD fresh) }, ?_, ?_⟩
      · simp [SettingsStore.writeSnapshot, same]
      · exact dated ▸ Nat.le_trans early late
    · obtain ⟨snapshot, present, covers⟩ :=
        consistent.expired stored member expired
      refine ⟨snapshot, ?_, covers⟩
      simpa [SettingsStore.writeSnapshot, same] using present
  · exact consistent.stamped
  · exact consistent.distinct
  · intro stored member
    have begun := consistent.begun stored member
    by_cases own : stored.storedBy = caller
    · subst own
      simpa [SettingsStore.writeSnapshot] using begun
    · simpa [SettingsStore.writeSnapshot, own] using begun
  · exact consistent.once
  · exact consistent.owned
  · exact consistent.byChanges
  · exact consistent.byKey
  · exact consistent.keys
  · intro other reading reads
    by_cases same : other = caller
    · subst same
      simp only [SettingsStore.writeSnapshot, Function.update_self,
        Option.map_eq_some_iff] at reads
      obtain ⟨readBefore, stored, rfl⟩ := reads
      exact consistent.reads other readBefore stored
    · apply consistent.reads other reading
      simpa [SettingsStore.writeSnapshot, same] using reads

/-- What a call notes of its reading. -/
def readingNow (store : SettingsStore) (caller : Caller) (userId : UserId) :
    Reading where
  userId := userId
  first := ((store.readings caller).map Reading.first).getD
    store.events.length
  last := store.events.length
  base := (store.snapshots userId).map UserSettingsDocument.updatedAt

private theorem noteReading_fresh (fresh : ¬ HasStored caller store) :
    store.noteReading caller userId =
      { store with
        readings := Function.update store.readings caller
          (some (readingNow store caller userId)) } := by
  have none : store.events.any
      (fun stored => stored.storedBy == caller) = false := by
    rw [List.any_eq_false]
    intro stored member same
    exact fresh ⟨stored, member, by simpa using same⟩
  rw [SettingsStore.noteReading, none]
  rfl

private theorem noteReading_stored (stored : HasStored caller store) :
    store.noteReading caller userId = store := by
  obtain ⟨own, member, storedBy⟩ := stored
  have some : store.events.any
      (fun stored => stored.storedBy == caller) = true :=
    List.any_eq_true.mpr ⟨own, member, by simpa using storedBy⟩
  rw [SettingsStore.noteReading, some]
  rfl

theorem Consistent.noteReading (consistent : Consistent calls store)
    (caller : Caller) (userId : UserId) :
    Consistent calls (store.noteReading caller userId) := by
  by_cases stored : HasStored caller store
  · rw [noteReading_stored stored]
    exact consistent
  · rw [noteReading_fresh stored]
    refine ⟨consistent.owner, consistent.snapshot, consistent.ofEvent,
      consistent.expired, consistent.stamped, consistent.distinct, ?_,
      consistent.once, consistent.owned, consistent.byChanges,
      consistent.byKey, consistent.keys, ?_⟩
    · intro event member
      have begun := consistent.begun event member
      by_cases same : event.storedBy = caller
      · simp [same]
      · simpa [same] using begun
    · intro other reading reads
      by_cases same : other = caller
      · subst same
        simp only [Function.update_self, Option.some.injEq] at reads
        subst reads
        refine ⟨?_, Nat.le_refl _⟩
        simp only [readingNow]
        cases earlier : store.readings other with
        | none => simp
        | some earlier =>
            obtain ⟨ordered, bounded⟩ := consistent.reads other _ ‹_›
            simp only [Option.map_some, Option.getD_some]
            omega
      · apply consistent.reads other reading
        simpa [same] using reads

/-- Time may pass while the expiring events are covered. -/
theorem Consistent.tick {atWork : Caller → Prop} {duration : Nat}
    (consistent : Consistent calls store)
    (covered : ExpiresCovered atWork store duration) :
    Consistent calls { store with clock := store.clock + duration } := by
  refine ⟨consistent.owner, consistent.snapshot, consistent.ofEvent, ?_, ?_,
    consistent.distinct, consistent.begun, consistent.once,
    consistent.owned, consistent.byChanges, consistent.byKey,
    consistent.keys, consistent.reads⟩
  · intro stored member expired
    by_cases already : stored.expiresAt ≤ store.clock
    · exact consistent.expired stored member already
    · exact (covered stored member (by omega) expired).1
  · intro stored member
    exact Nat.le_trans (consistent.stamped stored member)
      (Nat.le_add_right _ _)

/-! ### The contract -/

/-- A step of a call stores events of its own only, and leaves the clock and
the readings of others alone. -/
structure Guarantee (caller : Caller) (before after : SettingsStore) :
    Prop where
  clock : after.clock = before.clock
  events : ∃ added, after.events = before.events ++ added ∧
    ∀ stored ∈ added, stored.storedBy = caller ∧
      before.clock < stored.expiresAt
  readings : ∀ other, other ≠ caller →
    after.readings other = before.readings other

/-- What a call relies on: nobody stores an event in its name, its reading is
its own, and the events that expire are in the snapshot it has read. -/
structure Rely (caller : Caller) (before after : SettingsStore) : Prop where
  clock : before.clock ≤ after.clock
  events : ∃ added, after.events = before.events ++ added ∧
    ∀ stored ∈ added, stored.storedBy ≠ caller
  reading : after.readings caller = before.readings caller
  covers : ∀ reading, before.readings caller = some reading →
    (∀ stored ∈ before.history reading.userId,
      stored.expiresAt ≤ before.clock → CoveredByBase reading stored) →
    ∀ stored ∈ after.history reading.userId,
      stored.expiresAt ≤ after.clock → CoveredByBase reading stored

variable (calls) in
def contract :
    Contract Caller SettingsStore SettingsCommand Choice Nat where
  invariant := Consistent calls
  guarantee := Guarantee
  rely := Rely
  claims caller command store :=
    match command with
    | .storeEvent _ => ¬ HasStored caller store
    | .saveSnapshot settings =>
        (∃ reading, store.readings caller = some reading ∧
          reading.userId = settings.userId) ∧
        ∀ stored ∈ store.events, stored.storedBy = caller →
          settings.updatedAt ≤ stored.event.timestamp
    | _ => True
  gone caller store := ¬ HasStored caller store
  allows := Allowed calls
  permits := ExpiresCovered
  mayKill store caller := ¬ HasStored caller store

theorem Rely.refl (caller : Caller) (store : SettingsStore) :
    Rely caller store store :=
  ⟨Nat.le_refl _, ⟨[], by simp, by simp⟩, rfl, fun _ _ covers => covers⟩

theorem Rely.trans {first second third : SettingsStore}
    (earlier : Rely caller first second) (later : Rely caller second third) :
    Rely caller first third := by
  obtain ⟨added, addedEq, others⟩ := earlier.events
  obtain ⟨addedLater, addedLaterEq, othersLater⟩ := later.events
  refine ⟨Nat.le_trans earlier.clock later.clock,
    ⟨added ++ addedLater, by rw [addedLaterEq, addedEq, List.append_assoc],
      ?_⟩, later.reading.trans earlier.reading, ?_⟩
  · intro stored member
    rcases List.mem_append.mp member with here | there
    · exact others stored here
    · exact othersLater stored there
  · intro reading reads covers
    exact later.covers reading (earlier.reading.trans reads)
      (earlier.covers reading reads covers)

/-- What a step of another call does is relied on. -/
theorem Guarantee.relied {other : Caller} (different : other ≠ caller)
    (promised : Guarantee caller before after) : Rely other before after := by
  obtain ⟨added, addedEq, own⟩ := promised.events
  refine ⟨Nat.le_of_eq promised.clock.symm, ⟨added, addedEq, ?_⟩,
    promised.readings other different, ?_⟩
  · intro stored member same
    exact different (same.symm.trans (own stored member).1)
  · intro reading reads covers stored member expired
    obtain ⟨inEvents, ofUser⟩ := mem_history.mp member
    rw [promised.clock] at expired
    rw [addedEq] at inEvents
    rcases List.mem_append.mp inEvents with old | new
    · exact covers stored (mem_history.mpr ⟨old, ofUser⟩) expired
    · have alive := (own stored new).2
      omega

theorem HasStored.stable (relied : Rely caller before after)
    (stored : HasStored caller before) : HasStored caller after := by
  obtain ⟨own, member, storedBy⟩ := stored
  obtain ⟨added, addedEq, -⟩ := relied.events
  exact ⟨own, addedEq ▸ List.mem_append_left _ member, storedBy⟩

private theorem fresh_stable (relied : Rely caller before after)
    (fresh : ¬ HasStored caller before) : ¬ HasStored caller after := by
  rintro ⟨own, member, storedBy⟩
  obtain ⟨added, addedEq, others⟩ := relied.events
  rw [addedEq] at member
  rcases List.mem_append.mp member with old | new
  · exact fresh ⟨own, old, storedBy⟩
  · exact others own new storedBy

theorem sound : (contract calls).Sound settingsBackend := by
  constructor
  · exact Rely.refl
  · intro caller first second third earlier later
    exact earlier.trans later
  · intro store
    trivial
  · intro caller other before after different _ _ promised
    exact promised.relied different
  · intros
    trivial
  · intro atWork store duration next consistent covered happened
    cases happened
    refine ⟨consistent.tick covered, trivial, ?_, fun _ fresh => fresh⟩
    intro caller works
    refine ⟨Nat.le_add_right _ _, ⟨[], by simp, by simp⟩, rfl, ?_⟩
    intro reading reads covers stored member expired
    by_cases already : stored.expiresAt ≤ store.clock
    · exact covers stored member already
    · obtain ⟨inEvents, ofUser⟩ := mem_history.mp member
      exact (covered stored inEvents (by omega) expired).2 caller works
        reading reads ofUser.symm
  · intro store caller next consistent may killed
    cases killed
    exact ⟨consistent, trivial, may, fun other _ => Rely.refl other store⟩
  · intro caller before after relied fresh
    exact fresh_stable relied fresh

/-! ### The programs -/

theorem Knows.stable {settings : UserSettings} {reading : Reading}
    {known : List StoredSettingsEvent}
    (knows : Knows caller userId settings reading known before)
    (relied : Rely caller before after) :
    Knows caller userId settings reading known after := by
  obtain ⟨added, addedEq, -⟩ := relied.events
  refine ⟨relied.reading.trans knows.reads, knows.ofUser, ?_,
    knows.distinct, ?_, ?_, ?_, knows.settings_eq⟩
  · intro stored member
    obtain ⟨inEvents, ofUser⟩ :=
      mem_history.mp (knows.inHistory stored member)
    rw [mem_history, addedEq]
    exact ⟨List.mem_append_left _ inEvents, ofUser⟩
  · rw [addedEq, List.take_append_of_le_length knows.bounded]
    exact knows.complete
  · rw [addedEq, List.length_append]
    exact Nat.le_trans knows.bounded (Nat.le_add_right _ _)
  · rw [← knows.ofUser]
    apply relied.covers reading knows.reads
    rw [knows.ofUser]
    exact knows.covers

theorem KnowsCustom.stable {custom : CustomSettings} {time : Nat}
    (consistent : Consistent calls before)
    (knows : KnowsCustom caller userId custom time before)
    (relied : Rely caller before after) :
    KnowsCustom caller userId custom time after := by
  obtain ⟨added, addedEq, -⟩ := relied.events
  obtain ⟨reading, known, reads, inHistory, distinct, complete, same⟩ := knows
  obtain ⟨ordered, bounded⟩ := consistent.reads caller reading reads
  refine ⟨reading, known, relied.reading.trans reads, ?_, distinct, ?_, same⟩
  · intro stored member
    obtain ⟨wasThere, early⟩ := inHistory stored member
    obtain ⟨inEvents, ofUser⟩ := mem_history.mp wasThere
    rw [mem_history, addedEq]
    exact ⟨⟨List.mem_append_left _ inEvents, ofUser⟩, early⟩
  · rw [addedEq, List.take_append_of_le_length (by omega)]
    exact complete

/-- Folding read events into a document replays them on its settings. -/
theorem foldl_applyEvent (events : List StoredSettingsEvent)
    (document : UserSettingsDocument) :
    ((events.map StoredSettingsEvent.event).foldl
        UserSettingsDocument.applyEvent document).toUserSettings =
      events.foldl settingsReplay.apply document.toUserSettings ∧
    ((events.map StoredSettingsEvent.event).foldl
        UserSettingsDocument.applyEvent document).userId =
      document.userId := by
  induction events generalizing document with
  | nil => exact ⟨rfl, rfl⟩
  | cons stored events inductionHypothesis =>
      exact inductionHypothesis (document.applyEvent stored.event)

/-- A query after the snapshot finds all events after it, when those that have
expired are in the snapshot. -/
theorem findEvents_since {bound : Nat}
    (covers : ∀ stored ∈ store.history userId,
      stored.expiresAt ≤ store.clock → stored.event.timestamp ≤ bound) :
    store.findEvents userId (some bound) none =
      (settingsReplay.inOrder (settingsReplay.since bound
        (store.history userId))).map StoredSettingsEvent.event := by
  rw [SettingsStore.findEvents, Replay.since]
  congr 2
  apply List.filter_congr
  intro stored member
  by_cases late : bound < stored.event.timestamp
  · have alive : store.clock < stored.expiresAt := by
      by_contra expired
      have := covers stored member (by omega)
      omega
    simp [SettingsStore.found, settingsReplay, late, alive]
  · simp [SettingsStore.found, settingsReplay, late]

/-- Without a snapshot a query finds all events, when none has expired. -/
theorem findEvents_all
    (alive : ∀ stored ∈ store.history userId,
      store.clock < stored.expiresAt) :
    store.findEvents userId none none =
      (settingsReplay.inOrder (store.history userId)).map
        StoredSettingsEvent.event := by
  have all : (store.history userId).filter (store.found none none) =
      store.history userId := by
    apply List.filter_eq_self.mpr
    intro stored member
    simp [SettingsStore.found, alive stored member]
  rw [SettingsStore.findEvents, all]

/-- The replay after the snapshot of an earlier time makes up the settings of
the events up to its bound then and those after it now. -/
theorem rebuild_since {bound : Nat} {early late : List StoredSettingsEvent} :
    (settingsReplay.inOrder (settingsReplay.since bound late)).foldl
        settingsReplay.apply
        (settingsReplay.rebuild {} (settingsReplay.upTo bound early)) =
      settingsReplay.rebuild {} (settingsReplay.upTo bound early ++
        settingsReplay.since bound late) := by
  have split := @Replay.rebuild_split _ _ settingsReplay bound {}
    (settingsReplay.upTo bound early ++ settingsReplay.since bound late)
  rw [split]
  have firsts : settingsReplay.upTo bound (settingsReplay.upTo bound early ++
      settingsReplay.since bound late) = settingsReplay.upTo bound early := by
    rw [Replay.upTo, List.filter_append, Replay.since, List.filter_filter,
      Replay.upTo, List.filter_filter]
    simp
  have seconds : settingsReplay.since bound
      (settingsReplay.upTo bound early ++ settingsReplay.since bound late) =
        settingsReplay.since bound late := by
    rw [Replay.since, List.filter_append, Replay.since, List.filter_filter,
      Replay.upTo, List.filter_filter]
    simp
  rw [firsts, seconds]
  rfl

section Programs

variable {α : Type}

/-- Whether a call's event is stored has to do with its failures. -/
theorem Guarantee.unchanged (caller : Caller) (store : SettingsStore) :
    Guarantee caller store store :=
  ⟨rfl, ⟨[], by simp, by simp⟩, fun _ _ => rfl⟩

/-- A command that leaves the store alone. -/
theorem wp_read {command : SettingsCommand}
    {post : Except PyException (SettingsReply command) → SettingsStore → Prop}
    (consistent : Consistent calls store)
    (claim : (contract calls).claims caller command store)
    (unchanged : ∀ choice, (store.effect caller choice command).2 = store)
    (succeeds : ∀ choice later, Rely caller store later →
      Consistent calls later → post (store.effect caller choice command).1 later)
    (fails : ∀ choice error later,
      Allowed calls caller store command choice →
      choice.outcome = .fails error ∨ choice.outcome = .unacknowledged error →
      SettingsStore.mayRaise command error = true →
        Rely caller store later → Consistent calls later →
          post (.error error) later) :
    (contract calls).wp settingsBackend caller (askStore command) post
      store := by
  apply Contract.wp_call claim
  intro choice reply next allowed performed
  rcases SettingsStore.perform_cases performed with
    ⟨-, went⟩ | ⟨error, rfl, may, outcome⟩
  · have same : next = store := by
      rw [← unchanged choice, went]
    subst same
    refine ⟨consistent, Guarantee.unchanged caller _, ?_⟩
    intro later reached
    have posted := succeeds choice later reached.1 reached.2
    rw [went] at posted
    exact posted
  · have same : next = store := by
      rcases outcome with ⟨-, same⟩ | ⟨-, same⟩
      · exact same
      · exact same.trans (unchanged choice)
    subst same
    refine ⟨consistent, Guarantee.unchanged caller _, ?_⟩
    intro later reached
    exact fails choice error later allowed
      (outcome.imp And.left And.left) may reached.1 reached.2

/-- The commands that only read, and note nothing. -/
inductive Plain : SettingsCommand → Prop where
  | now : Plain .now
  | findEvents (userId : UserId) (since notAfter : Option Nat) :
      Plain (.findEvents userId since notAfter)
  | countEvents (userId : UserId) (since : Option Nat) :
      Plain (.countEvents userId since)

theorem Plain.unchanged {command : SettingsCommand} (plain : Plain command)
    (choice : Choice) : (store.effect caller choice command).2 = store := by
  cases plain <;> rfl

theorem Plain.claim {command : SettingsCommand} (plain : Plain command) :
    (contract calls).claims caller command store := by
  cases plain <;> trivial

theorem Plain.allowed {command : SettingsCommand} {choice : Choice}
    (plain : Plain command)
    (allowed : Allowed calls caller store command choice) :
    HasStored caller store → choice.outcome = .succeeds := by
  cases plain <;> exact allowed

/-- A plain command before the event is stored. -/
theorem wp_plain {command : SettingsCommand}
    {post : Except PyException (SettingsReply command) → SettingsStore → Prop}
    (plain : Plain command) (consistent : Consistent calls store)
    (fresh : ¬ HasStored caller store)
    (succeeds : ∀ choice later, Rely caller store later →
      Consistent calls later → ¬ HasStored caller later →
        post (store.effect caller choice command).1 later)
    (raises : ∀ error later, ¬ HasStored caller later →
      post (.error error) later) :
    (contract calls).wp settingsBackend caller (askStore command) post
      store := by
  apply wp_read consistent plain.claim plain.unchanged
  · intro choice later relied kept
    exact succeeds choice later relied kept (fresh_stable relied fresh)
  · intro choice error later _ _ _ relied _
    exact raises error later (fresh_stable relied fresh)

/-- A plain command after the event is stored does not fail. -/
theorem wp_plain_stored {command : SettingsCommand}
    {post : Except PyException (SettingsReply command) → SettingsStore → Prop}
    (plain : Plain command) (consistent : Consistent calls store)
    (stored : HasStored caller store)
    (succeeds : ∀ choice later, Rely caller store later →
      Consistent calls later →
        post (store.effect caller choice command).1 later) :
    (contract calls).wp settingsBackend caller (askStore command) post
      store := by
  apply wp_read consistent plain.claim plain.unchanged succeeds
  intro choice error later allowed outcome
  have succeeded := plain.allowed allowed stored
  rcases outcome with outcome | outcome <;> simp [succeeded] at outcome

/-- The first reading of a snapshot. -/
theorem wp_findSnapshot
    {post : Except PyException (Option UserSettingsDocument) →
      SettingsStore → Prop}
    (consistent : Consistent calls store)
    (fresh : ¬ HasStored caller store)
    (succeeds : ∀ later,
      Rely caller (store.noteReading caller userId) later →
        Consistent calls later → ¬ HasStored caller later →
          post (.ok (store.snapshots userId)) later)
    (raises : ∀ error later, ¬ HasStored caller later →
      post (.error error) later) :
    (contract calls).wp settingsBackend caller
      (askStore (.findSnapshot userId)) post store := by
  have freshNoted : ¬ HasStored caller (store.noteReading caller userId) := by
    rw [noteReading_fresh fresh]
    exact fresh
  have noted : Guarantee caller store (store.noteReading caller userId) := by
    rw [noteReading_fresh fresh]
    refine ⟨rfl, ⟨[], by simp, by simp⟩, ?_⟩
    intro other different
    exact Function.update_of_ne different _ _
  have kept := consistent.noteReading caller userId
  apply Contract.wp_call trivial
  intro choice reply next allowed performed
  rcases SettingsStore.perform_cases performed with
    ⟨-, went⟩ | ⟨error, rfl, may, ⟨-, rfl⟩ | ⟨-, rfl⟩⟩
  · cases went
    refine ⟨kept, noted, ?_⟩
    intro later reached
    exact succeeds later reached.1 reached.2
      (fresh_stable reached.1 freshNoted)
  · refine ⟨consistent, Guarantee.unchanged caller _, ?_⟩
    intro later reached
    exact raises error later (fresh_stable reached.1 fresh)
  · refine ⟨kept, noted, ?_⟩
    intro later reached
    exact raises error later (fresh_stable reached.1 freshNoted)

/-- What a call has after it read a snapshot and before it reads the
events. -/
structure Began (caller : Caller) (userId : UserId) (store : SettingsStore)
    (later : SettingsStore) : Prop where
  relied : Rely caller (store.noteReading caller userId) later
  reads : later.readings caller = some (readingNow store caller userId)
  covers : ∀ stored ∈ later.history userId, stored.expiresAt ≤ later.clock →
    CoveredByBase (readingNow store caller userId) stored

theorem Began.of_rely {later : SettingsStore}
    (consistent : Consistent calls store)
    (fresh : ¬ HasStored caller store)
    (relied : Rely caller (store.noteReading caller userId) later) :
    Began caller userId store later := by
  have noted : store.noteReading caller userId = _ :=
    noteReading_fresh fresh
  have reads : (store.noteReading caller userId).readings caller =
      some (readingNow store caller userId) := by
    rw [noted]
    simp
  refine ⟨relied, relied.reading.trans reads, ?_⟩
  apply relied.covers _ reads
  intro stored member expired
  rw [noted] at member expired
  obtain ⟨inEvents, ofUser⟩ := mem_history.mp member
  obtain ⟨snapshot, present, early⟩ :=
    consistent.expired stored inEvents expired
  refine ⟨snapshot.updatedAt, ?_, early⟩
  have ofUser : stored.event.userId = userId := ofUser
  simp [readingNow, ← ofUser, present]

/-- What the events after the snapshot make of it. -/
theorem Began.knows_since {later : SettingsStore}
    {snapshot : UserSettingsDocument}
    (consistent : Consistent calls store) (kept : Consistent calls later)
    (fresh : ¬ HasStored caller store)
    (began : Began caller userId store later)
    (present : store.snapshots userId = some snapshot) :
    later.findEvents userId (some snapshot.updatedAt) none =
      (settingsReplay.inOrder (settingsReplay.since snapshot.updatedAt
        (later.history userId))).map StoredSettingsEvent.event ∧
    Knows caller userId
      ((settingsReplay.inOrder (settingsReplay.since snapshot.updatedAt
        (later.history userId))).foldl settingsReplay.apply
          snapshot.toUserSettings)
      (readingNow store caller userId)
      (settingsReplay.upTo snapshot.updatedAt (store.history userId) ++
        settingsReplay.since snapshot.updatedAt (later.history userId))
      later := by
  obtain ⟨added, addedEq, -⟩ := began.relied.events
  rw [noteReading_fresh fresh] at addedEq
  have older : ∀ stored ∈ store.history userId,
      stored ∈ later.history userId := by
    intro stored member
    obtain ⟨inEvents, ofUser⟩ := mem_history.mp member
    exact mem_history.mpr
      ⟨addedEq ▸ List.mem_append_left _ inEvents, ofUser⟩
  constructor
  · apply findEvents_since
    intro stored member expired
    obtain ⟨base, isBase, early⟩ := began.covers stored member expired
    simp only [readingNow, present, Option.map_some,
      Option.some.injEq] at isBase
    omega
  · refine ⟨began.reads, rfl, ?_, ?_, ?_, ?_, began.covers, ?_⟩
    · intro stored member
      rcases List.mem_append.mp member with early | late
      · exact older stored (Replay.mem_upTo.mp early).1
      · exact (Replay.mem_since.mp late).1
    · apply List.pairwise_append.mpr
      refine ⟨(consistent.distinct userId).filter _,
        (kept.distinct userId).filter _, ?_⟩
      intro first isEarly second isLate
      have := (Replay.mem_upTo.mp isEarly).2
      have := (Replay.mem_since.mp isLate).2
      omega
    · intro stored member ofUser
      simp only [readingNow, addedEq, List.take_left] at member
      have inHistory := mem_history.mpr ⟨member, ofUser⟩
      by_cases early : stored.event.timestamp ≤ snapshot.updatedAt
      · exact List.mem_append_left _
          (Replay.mem_upTo.mpr ⟨inHistory, early⟩)
      · apply List.mem_append_right
        apply Replay.mem_since.mpr
        refine ⟨older stored inHistory, ?_⟩
        simp only [settingsReplay]
        omega
    · simp only [readingNow, addedEq, List.length_append]
      omega
    · rw [consistent.snapshot userId snapshot present]
      exact rebuild_since

/-- What all events make up when there is no snapshot. -/
theorem Began.knows_all {later : SettingsStore}
    (kept : Consistent calls later)
    (fresh : ¬ HasStored caller store)
    (began : Began caller userId store later)
    (missing : store.snapshots userId = none) :
    later.findEvents userId none none =
      (settingsReplay.inOrder (later.history userId)).map
        StoredSettingsEvent.event ∧
    Knows caller userId (rebuilt later userId)
      (readingNow store caller userId) (later.history userId) later := by
  obtain ⟨added, addedEq, -⟩ := began.relied.events
  rw [noteReading_fresh fresh] at addedEq
  constructor
  · apply findEvents_all
    intro stored member
    by_contra expired
    obtain ⟨base, isBase, -⟩ := began.covers stored member (by omega)
    simp [readingNow, missing] at isBase
  · refine ⟨began.reads, rfl, fun _ member => member, kept.distinct userId,
      ?_, ?_, began.covers, rfl⟩
    · intro stored member ofUser
      exact mem_history.mpr ⟨List.mem_of_mem_take member, ofUser⟩
    · simp only [readingNow, addedEq, List.length_append]
      omega

/-- Reading the settings: a call ends up knowing them, or has stored nothing
when it raises. -/
theorem wp_getUserSettings
    {post : Except PyException UserSettingsDocument → SettingsStore → Prop}
    (frame : SettingsStore → Prop)
    (consistent : Consistent calls store)
    (fresh : ¬ HasStored caller store)
    (entered : frame (store.noteReading caller userId))
    (stable : ∀ first second, Consistent calls first →
      Rely caller first second → frame first → frame second)
    (returns : ∀ settings reading known later, Consistent calls later →
      ¬ HasStored caller later → frame later → settings.userId = userId →
        Knows caller userId settings.toUserSettings reading known later →
        (∀ base, reading.base = some base → base ≤ later.clock) →
          post (.ok settings) later)
    (raises : ∀ error later, ¬ HasStored caller later →
      post (.error error) later) :
    (contract calls).wp settingsBackend caller
      (UserSettingsService.getUserSettings userId) post store := by
  have keptNoted := consistent.noteReading caller userId
  rw [UserSettingsService.getUserSettings,
    UserSettingsRepository.getSnapshot, Contract.wp_bind]
  apply wp_findSnapshot consistent fresh _ raises
  intro middle relied kept freshMiddle
  have framed := stable _ _ keptNoted relied entered
  have began := Began.of_rely consistent fresh relied
  cases present : store.snapshots userId with
  | some snapshot =>
      dsimp only
      rw [UserSettingsRepository.getSettingsEvents, Contract.wp_bind]
      apply wp_plain (.findEvents _ _ _) kept freshMiddle _ raises
      intro choice later reliedLater keptLater freshLater
      obtain ⟨read, knows⟩ :=
        began.knows_since consistent kept fresh present
      simp only [SettingsStore.effect, read, Contract.wp_pure]
      obtain ⟨sameSettings, sameUser⟩ := foldl_applyEvent
        (settingsReplay.inOrder (settingsReplay.since snapshot.updatedAt
          (middle.history userId))) snapshot
      apply returns _ _ _ later keptLater freshLater
        (stable _ _ kept reliedLater framed)
        (sameUser.trans (consistent.owner userId snapshot present))
        (sameSettings ▸ knows.stable reliedLater)
      intro base isBase
      obtain ⟨stored, member, dated⟩ :=
        consistent.ofEvent userId snapshot present
      have past := consistent.stamped stored (mem_history.mp member).1
      have clock := relied.clock
      have clockLater := reliedLater.clock
      rw [noteReading_fresh fresh] at clock
      simp only [readingNow, present, Option.map_some,
        Option.some.injEq] at isBase
      simp only at clock
      omega
  | none =>
      dsimp only
      rw [Contract.wp_bind]
      apply wp_plain .now kept freshMiddle _ raises
      intro choice timed reliedTimed keptTimed freshTimed
      simp only [SettingsStore.effect]
      have beganTimed := Began.of_rely consistent fresh
        (relied.trans reliedTimed)
      rw [UserSettingsRepository.getSettingsEvents, Contract.wp_bind]
      apply wp_plain (.findEvents _ _ _) keptTimed freshTimed _ raises
      intro choice later reliedLater keptLater freshLater
      obtain ⟨read, knows⟩ := beganTimed.knows_all keptTimed fresh present
      simp only [SettingsStore.effect, read, Contract.wp_pure]
      obtain ⟨sameSettings, sameUser⟩ := foldl_applyEvent
        (settingsReplay.inOrder (timed.history userId))
        { userId := userId, updatedAt := middle.clock }
      have knowsLater := knows.stable reliedLater
      rw [rebuilt, Replay.rebuild, ← sameSettings] at knowsLater
      apply returns _ _ _ later keptLater freshLater
        (stable _ _ keptTimed reliedLater
          (stable _ _ kept reliedTimed framed)) sameUser knowsLater
      intro base isBase
      simp [readingNow, present] at isBase

/-- What a call ends with: its event is stored as it has returned, or it has
none. -/
def Ended (calls : Caller → SettingsCall) (caller : Caller) :
    Except PyException UserSettingsDocument → SettingsStore → Prop
  | .ok returned, store =>
      (¬ HasStored caller store ∧
        ∀ field, setTo (calls caller) returned field = none) ∨
      ∃ stored ∈ store.events, stored.storedBy = caller ∧
        stored.event.timestamp = returned.updatedAt ∧
        ∀ field, stored.event.field? field =
          setTo (calls caller) returned field
  | .error _, store => ¬ HasStored caller store

private theorem ended_stable (result : Except PyException UserSettingsDocument)
    (relied : Rely caller before after)
    (ended : Ended calls caller result before) :
    Ended calls caller result after := by
  cases result with
  | error error => exact fresh_stable relied ended
  | ok returned =>
      rcases ended with ⟨fresh, nothing⟩ | ⟨stored, member, rest⟩
      · exact .inl ⟨fresh_stable relied fresh, nothing⟩
      · obtain ⟨added, addedEq, -⟩ := relied.events
        exact .inr ⟨stored, addedEq ▸ List.mem_append_left _ member, rest⟩

private theorem stable_ended :
    (contract calls).Stable settingsBackend (Ended calls) := by
  constructor
  · intro caller result before after _ _ relied ended
    exact ended_stable result relied ended
  · intro atWork store duration next _ _ happened caller result ended
    cases happened
    cases result <;> exact ended

/-- The caller's event, as it was stored. -/
theorem wp_storeEvent {event : DomainUserSettingsChangedEvent}
    {post : Except PyException Unit → SettingsStore → Prop}
    (consistent : Consistent calls store)
    (fresh : ¬ HasStored caller store)
    (begun : store.readings caller ≠ none)
    (past : event.timestamp ≤ store.clock)
    (owned : event.userId = (calls caller).userId)
    (carries : CarriesCall (calls caller) caller event store)
    (succeeds : ∀ later, Rely caller (store.storeEvent caller event) later →
      Consistent calls (store.storeEvent caller event) →
        (∀ stored ∈ store.history event.userId,
          stored.event.timestamp ≠ event.timestamp) →
        Consistent calls later → post (.ok ()) later)
    (raises : ∀ error later, ¬ HasStored caller later →
      error.isPublishError = false → post (.error error) later) :
    (contract calls).wp settingsBackend caller
      (askStore (.storeEvent event)) post store := by
  apply Contract.wp_call fresh
  intro choice reply next allowed performed
  rcases SettingsStore.perform_cases performed with
    ⟨succeeded, went⟩ | ⟨error, rfl, may, ⟨-, rfl⟩ | ⟨lost, -⟩⟩
  · cases went
    have inOrder : StoredInOrder calls store caller event := by
      simpa [contract, Allowed, succeeded] using allowed
    have kept := consistent.storeEvent inOrder fresh begun past owned carries
    refine ⟨kept, ⟨rfl, ⟨_, storeEvent_events event, ?_⟩, fun _ _ => rfl⟩, ?_⟩
    · intro stored member
      rw [List.mem_singleton.mp member]
      have lives : 0 < SettingsStore.eventLifetime := by decide
      exact ⟨rfl, Nat.lt_add_of_pos_right lives⟩
    · intro later reached
      exact succeeds later reached.1 kept inOrder.distinct reached.2
  · refine ⟨consistent, Guarantee.unchanged caller _, ?_⟩
    intro later reached
    apply raises error later (fresh_stable reached.1 fresh)
    simpa [SettingsStore.mayRaise] using may
  · simp [contract, Allowed, lost] at allowed

/-- A call that has stored its event knows the settings with it. -/
structure Settled (caller : Caller) (settings : UserSettingsDocument)
    (store : SettingsStore) : Prop where
  knows : ∃ reading known own,
    Knows caller settings.userId settings.toUserSettings reading known store ∧
      Latest caller reading known own ∧
      own.event.timestamp = settings.updatedAt

theorem Settled.stable {settings : UserSettingsDocument}
    (settled : Settled caller settings before)
    (relied : Rely caller before after) : Settled caller settings after := by
  obtain ⟨reading, known, own, knows, rest⟩ := settled.knows
  exact ⟨reading, known, own, knows.stable relied, rest⟩

theorem Settled.hasStored {settings : UserSettingsDocument}
    (settled : Settled caller settings store) : HasStored caller store := by
  obtain ⟨reading, known, own, knows, latest, -⟩ := settled.knows
  exact ⟨own, (mem_history.mp (knows.inHistory own latest.member)).1,
    latest.storedBy⟩

/-- The settings with the event that was just stored. -/
theorem Knows.settled {event : DomainUserSettingsChangedEvent}
    {settings : UserSettingsDocument} {reading : Reading}
    {known : List StoredSettingsEvent} {version : Nat}
    (knows : Knows caller settings.userId settings.toUserSettings reading
      known store)
    (ofUser : event.userId = settings.userId)
    (apart : ∀ stored ∈ store.history event.userId,
      stored.event.timestamp ≠ event.timestamp)
    (early : ∀ stored ∈ known, stored.event.timestamp ≤ event.timestamp)
    (afterBase : ∀ base, reading.base = some base → base ≤ event.timestamp) :
    Settled caller { settings.applyEvent event with version := version }
      (store.storeEvent caller event) := by
  have before : ∀ stored ∈ known,
      stored.event.timestamp < event.timestamp := by
    intro stored member
    have different := apart stored
      (ofUser ▸ knows.inHistory stored member)
    exact Nat.lt_of_le_of_ne (early stored member) different
  have grown : ∀ stored ∈ store.history settings.userId,
      stored ∈ (store.storeEvent caller event).history settings.userId := by
    intro stored member
    rw [storeEvent_history]
    exact List.mem_append_left _ member
  have ownThere : storedNow store caller event ∈
      (store.storeEvent caller event).history settings.userId := by
    rw [storeEvent_history, if_pos ofUser]
    simp
  refine ⟨reading, known ++ [storedNow store caller event],
    storedNow store caller event, ⟨knows.reads, knows.ofUser, ?_, ?_, ?_, ?_,
      ?_, ?_⟩, ⟨rfl, by simp, ?_, afterBase⟩, rfl⟩
  · intro stored member
    rcases List.mem_append.mp member with old | new
    · exact grown stored (knows.inHistory stored old)
    · rw [List.mem_singleton.mp new]
      exact ownThere
  · apply List.pairwise_append.mpr
    refine ⟨knows.distinct, List.pairwise_singleton _ _, ?_⟩
    intro stored member new isNew
    rw [List.mem_singleton.mp isNew]
    exact Nat.ne_of_lt (before stored member)
  · intro stored member user
    rw [storeEvent_events,
      List.take_append_of_le_length knows.bounded] at member
    exact List.mem_append_left _ (knows.complete stored member user)
  · rw [storeEvent_events, List.length_append]
    exact Nat.le_trans knows.bounded (Nat.le_add_right _ _)
  · intro stored member expired
    have inHistory : stored ∈
        (store.storeEvent caller event).history settings.userId := member
    rw [storeEvent_history] at inHistory
    rcases List.mem_append.mp inHistory with old | new
    · exact knows.covers stored old expired
    · rw [if_pos ofUser] at new
      rw [List.mem_singleton.mp new] at expired
      have lives : 0 < SettingsStore.eventLifetime := by decide
      have later : store.clock + SettingsStore.eventLifetime ≤ store.clock :=
        expired
      omega
  · rw [Replay.rebuild_latest before, ← knows.settings_eq]
    rfl
  · intro stored member
    rcases List.mem_append.mp member with old | new
    · exact early stored old
    · rw [List.mem_singleton.mp new]

/-- Reading a snapshot again, once the event is stored, notes nothing and does
not fail. -/
theorem wp_findSnapshot_stored
    {post : Except PyException (Option UserSettingsDocument) →
      SettingsStore → Prop}
    (consistent : Consistent calls store)
    (stored : HasStored caller store)
    (succeeds : ∀ later, Rely caller store later → Consistent calls later →
      post (.ok (store.snapshots userId)) later) :
    (contract calls).wp settingsBackend caller
      (askStore (.findSnapshot userId)) post store := by
  have claim : (contract calls).claims caller (.findSnapshot userId) store :=
    trivial
  apply wp_read consistent claim
  · intro choice
    exact noteReading_stored stored
  · intro choice later relied kept
    exact succeeds later relied kept
  · intro choice error later allowed outcome
    have succeeded : choice.outcome = .succeeds := allowed stored
    rcases outcome with outcome | outcome <;> simp [succeeded] at outcome

/-- Counting does not fail once the event is stored. -/
theorem wp_countEventsSinceSnapshot
    {post : Except PyException Nat → SettingsStore → Prop}
    (consistent : Consistent calls store)
    (stored : HasStored caller store)
    (continues : ∀ count later, Rely caller store later →
      Consistent calls later → post (.ok count) later) :
    (contract calls).wp settingsBackend caller
      (UserSettingsRepository.countEventsSinceSnapshot userId) post store := by
  rw [UserSettingsRepository.countEventsSinceSnapshot,
    UserSettingsRepository.getSnapshot, Contract.wp_bind]
  apply wp_findSnapshot_stored consistent stored
  intro found relied kept
  cases store.snapshots userId with
  | none =>
      apply wp_plain_stored (.countEvents _ _) kept (stored.stable relied)
      intro choice later reliedLater keptLater
      exact continues _ later (relied.trans reliedLater) keptLater
  | some snapshot =>
      apply wp_plain_stored (.countEvents _ _) kept (stored.stable relied)
      intro choice later reliedLater keptLater
      exact continues _ later (relied.trans reliedLater) keptLater

/-- A call that has stored its event saves what it knows. -/
theorem wp_saveSnapshot
    {post : Except PyException Unit → SettingsStore → Prop}
    {settings saved : UserSettingsDocument}
    (consistent : Consistent calls store)
    (settled : Settled caller settings store)
    (same : ∃ id, saved = { settings with id := id })
    (continues : ∀ later, Consistent calls later →
      (∀ stored ∈ store.events, stored ∈ later.events) →
        post (.ok ()) later) :
    (contract calls).wp settingsBackend caller
      (askStore (.saveSnapshot saved)) post store := by
  obtain ⟨id, rfl⟩ := same
  obtain ⟨reading, known, own, knows, latest, dated⟩ := settled.knows
  apply Contract.wp_call
  · refine ⟨⟨reading, knows.reads, knows.ofUser⟩, ?_⟩
    intro stored member storedBy
    -- The call has stored one event only
    have same : stored = own := by
      by_contra different
      have symmetric : Std.Symm fun first second : StoredSettingsEvent =>
          first.storedBy ≠ second.storedBy :=
        ⟨fun _ _ apart => apart.symm⟩
      have ownThere :=
        (mem_history.mp (knows.inHistory own latest.member)).1
      exact consistent.once.forall member ownThere different
        (storedBy.trans latest.storedBy.symm)
    rw [same, dated]
  · intro choice reply next allowed performed
    obtain ⟨succeeded, inOrder⟩ : choice.outcome = .succeeds ∧
      SavedInOrder store caller { settings with id := id } := allowed
    rcases SettingsStore.perform_cases performed with
      ⟨-, went⟩ | ⟨error, -, -, ⟨failed, -⟩ | ⟨lost, -⟩⟩
    · have written : store.saveSnapshot caller choice.fresh
          { settings with id := id } =
            (.ok (), store.writeSnapshot caller choice.fresh
              { settings with id := id }) := by
        unfold SettingsStore.saveSnapshot
        cases present : store.snapshots settings.userId with
        | none => simp
        | some existing =>
            have expected := inOrder.expected existing present
            dsimp only at expected ⊢
            rw [if_pos expected]
      have done : ((Except.ok (), store.writeSnapshot caller choice.fresh
          { settings with id := id }) : Except PyException Unit ×
            SettingsStore) = (reply, next) := written.symm.trans went
      cases done
      have kept := consistent.writeSnapshot inOrder
        (knows : Knows caller settings.userId settings.toUserSettings reading
          known store) latest dated choice.fresh
      refine ⟨kept, ⟨rfl, ⟨[], by simp [SettingsStore.writeSnapshot],
        by simp⟩, fun other different => Function.update_of_ne different _ _⟩,
        ?_⟩
      intro later reached
      apply continues later reached.2
      intro stored member
      obtain ⟨added, addedEq, -⟩ := reached.1.events
      rw [addedEq]
      exact List.mem_append_left _ member
    · rw [succeeded] at failed
      cases failed
    · rw [succeeded] at lost
      cases lost

private theorem wp_createSnapshot
    {post : Except PyException Unit → SettingsStore → Prop}
    {settings : UserSettingsDocument}
    (consistent : Consistent calls store)
    (settled : Settled caller settings store)
    (continues : ∀ later, Consistent calls later →
      (∀ stored ∈ store.events, stored ∈ later.events) →
        post (.ok ()) later) :
    (contract calls).wp settingsBackend caller
      (UserSettingsRepository.createSnapshot settings) post store := by
  rw [UserSettingsRepository.createSnapshot, Contract.wp_bind]
  apply wp_findSnapshot_stored consistent settled.hasStored
  intro found relied kept
  have settledFound := settled.stable relied
  have grown : ∀ stored ∈ store.events, stored ∈ found.events := by
    intro stored member
    obtain ⟨added, addedEq, -⟩ := relied.events
    rw [addedEq]
    exact List.mem_append_left _ member
  cases store.snapshots settings.userId with
  | none =>
      apply wp_saveSnapshot kept settledFound ⟨settings.id, rfl⟩
      intro later keptLater grownLater
      exact continues later keptLater fun stored member =>
        grownLater stored (grown stored member)
  | some existing =>
      apply wp_saveSnapshot kept settledFound ⟨existing.id, rfl⟩
      intro later keptLater grownLater
      exact continues later keptLater fun stored member =>
        grownLater stored (grown stored member)

/-- Storing and publishing: a call that has stored its event goes on, whether
or not it was published. -/
theorem wp_produceOrLog {event : DomainUserSettingsChangedEvent}
    {post : Except PyException Unit → SettingsStore → Prop}
    (consistent : Consistent calls store)
    (fresh : ¬ HasStored caller store)
    (begun : store.readings caller ≠ none)
    (past : event.timestamp ≤ store.clock)
    (owned : event.userId = (calls caller).userId)
    (carries : CarriesCall (calls caller) caller event store)
    (succeeds : ∀ later, Rely caller (store.storeEvent caller event) later →
      (∀ stored ∈ store.history event.userId,
          stored.event.timestamp ≠ event.timestamp) →
        Consistent calls later → post (.ok ()) later)
    (raises : ∀ error later, ¬ HasStored caller later →
      post (.error error) later) :
    (contract calls).wp settingsBackend caller
      (UserSettingsService.produceOrLog event) post store := by
  rw [UserSettingsService.produceOrLog, Contract.wp_attempt, Contract.wp_bind]
  apply wp_storeEvent consistent fresh begun past owned carries
  · intro stored relied _ apart kept
    have claim : (contract calls).claims caller (.publish event) stored :=
      trivial
    apply wp_read kept claim (fun _ => rfl)
    · intro choice later reliedLater keptLater
      exact succeeds later (relied.trans reliedLater) apart keptLater
    · intro choice error later allowed outcome _ reliedLater keptLater
      have publishError : error.isPublishError = true := by
        rcases outcome with outcome | outcome
        · simpa [Allowed, outcome] using allowed
        · simpa [Allowed, outcome] using allowed
      dsimp only
      rw [if_pos publishError]
      exact succeeds later (relied.trans reliedLater) apart keptLater
  · intro error later freshLater notPublish
    dsimp only
    rw [notPublish, if_neg Bool.false_ne_true]
    exact raises error later freshLater

/-- What a call returns when its settings are settled. -/
def Returns (calls : Caller → SettingsCall) (caller : Caller)
    (changes : UserSettingsChanges) (settings : UserSettingsDocument)
    (store : SettingsStore) : Prop :=
  ∃ stored ∈ store.events, stored.storedBy = caller ∧
    stored.event.timestamp = settings.updatedAt ∧
    stored.event.toUserSettingsChanges = changes ∧
    ∀ field, changes.field? field = setTo (calls caller) settings field

theorem Returns.grown {changes : UserSettingsChanges}
    {settings : UserSettingsDocument}
    (returns : Returns calls caller changes settings before)
    (grown : ∀ stored ∈ before.events, stored ∈ after.events) :
    Returns calls caller changes settings after := by
  obtain ⟨stored, member, rest⟩ := returns
  exact ⟨stored, grown stored member, rest⟩

theorem Returns.ended {changes : UserSettingsChanges}
    {settings : UserSettingsDocument}
    (returns : Returns calls caller changes settings store) :
    Ended calls caller (.ok settings) store := by
  obtain ⟨stored, member, storedBy, dated, rfl, sets⟩ := returns
  exact .inr ⟨stored, member, storedBy, dated, sets⟩

private theorem grown_of_rely (relied : Rely caller before after) :
    ∀ stored ∈ before.events, stored ∈ after.events := by
  intro stored member
  obtain ⟨added, addedEq, -⟩ := relied.events
  rw [addedEq]
  exact List.mem_append_left _ member

theorem KnowsCustom.mono {custom : CustomSettings} {early late : Nat}
    (knows : KnowsCustom caller userId custom early store)
    (ordered : early ≤ late) :
    KnowsCustom caller userId custom late store := by
  obtain ⟨reading, known, reads, inHistory, rest⟩ := knows
  refine ⟨reading, known, reads, fun stored member => ?_, rest⟩
  obtain ⟨wasThere, isEarly⟩ := inHistory stored member
  exact ⟨wasThere, Nat.le_trans isEarly ordered⟩

theorem CarriesCall.stable {event : DomainUserSettingsChangedEvent}
    (consistent : Consistent calls before)
    (relied : Rely caller before after)
    (carries : CarriesCall (calls caller) caller event before) :
    CarriesCall (calls caller) caller event after := by
  cases call : calls caller with
  | updateUserSettings userId changes =>
      rw [call] at carries
      exact carries
  | updateCustomSetting userId key value =>
      rw [call] at carries
      obtain ⟨custom, knows, carried⟩ := carries
      exact ⟨custom, knows.stable consistent relied, carried⟩

/-- Once the event is stored and published, a snapshot may follow, and the
settings are returned. -/
theorem wp_snapshotWhenDue {changes : UserSettingsChanges}
    {settings : UserSettingsDocument}
    (consistent : Consistent calls store)
    (settled : Settled caller settings store)
    (returns : Returns calls caller changes settings store) :
    (contract calls).wp settingsBackend caller
      (do
        let count ← UserSettingsRepository.countEventsSinceSnapshot
          settings.userId
        if 10 ≤ count then do
          UserSettingsRepository.createSnapshot settings
          pure settings
        else pure settings)
      (Ended calls caller) store := by
  rw [Contract.wp_bind]
  apply wp_countEventsSinceSnapshot consistent settled.hasStored
  intro count counted relied kept
  have settledCounted := settled.stable relied
  have returnsCounted := returns.grown (grown_of_rely relied)
  dsimp only
  split
  · rw [Contract.wp_bind]
    apply wp_createSnapshot kept settledCounted
    intro later keptLater grown
    exact (returnsCounted.grown grown).ended
  · exact returnsCounted.ended

/-- A call that knows the settings updates them. -/
theorem wp_updateUserSettings {changes : UserSettingsChanges}
    (frame : SettingsStore → Prop)
    (consistent : Consistent calls store)
    (fresh : ¬ HasStored caller store)
    (owned : userId = (calls caller).userId)
    (entered : frame (store.noteReading caller userId))
    (stable : ∀ first second, Consistent calls first →
      Rely caller first second → frame first → frame second)
    (carries : ∀ event later, frame later →
      event.toUserSettingsChanges = changes →
        later.clock ≤ event.timestamp →
          CarriesCall (calls caller) caller event later)
    (sets : ∀ settings : UserSettingsDocument,
      (∃ earlier : UserSettings,
        settings.toUserSettings = earlier.apply changes) →
          ∀ field, changes.field? field = setTo (calls caller) settings field)
    (empty : changes = {} → ∀ settings field,
      setTo (calls caller) settings field = none) :
    (contract calls).wp settingsBackend caller
      (UserSettingsService.updateUserSettings userId changes)
      (Ended calls caller) store := by
  rw [UserSettingsService.updateUserSettings, Contract.wp_bind]
  apply wp_getUserSettings frame consistent fresh entered stable
  · intro current reading known later kept freshLater framed ofUser knows
      dated
    dsimp only
    by_cases nothing : changes = {}
    · rw [if_pos nothing]
      exact .inl ⟨freshLater, empty nothing current⟩
    · rw [if_neg nothing, Contract.wp_bind]
      apply wp_plain .now kept freshLater
      · intro choice timed relied keptTimed freshTimed
        simp only [SettingsStore.effect]
        -- The event is stamped with the time at which it was made
        generalize made : ({ toUserSettingsChanges := changes
                             timestamp := later.clock
                             userId := userId } :
          DomainUserSettingsChangedEvent) = event
        have stamp : event.timestamp = later.clock := by rw [← made]
        have eventUser : event.userId = userId := by rw [← made]
        have eventChanges : event.toUserSettingsChanges = changes := by
          rw [← made]
        have knowsTimed := knows.stable relied
        rw [Contract.wp_bind]
        apply wp_produceOrLog keptTimed freshTimed
        · simp [knowsTimed.reads]
        · have := relied.clock
          omega
        · exact eventUser.trans owned
        · exact (carries event later framed eventChanges
            (Nat.le_of_eq stamp.symm)).stable kept relied
        · intro stored reliedStored apart keptStored
          have early : ∀ other ∈ known,
              other.event.timestamp ≤ event.timestamp := by
            intro other member
            rw [stamp]
            exact kept.stamped other
              (mem_history.mp (knows.inHistory other member)).1
          have afterBase : ∀ base, reading.base = some base →
              base ≤ event.timestamp := by
            intro base isBase
            rw [stamp]
            exact dated base isBase
          have settled : Settled caller { current.applyEvent event with
              version := (current.applyEvent event).version + 1 }
                (timed.storeEvent caller event) := by
            apply Knows.settled (ofUser ▸ knowsTimed)
              (eventUser.trans ofUser.symm) apart early afterBase
          have returns : Returns calls caller changes
              { current.applyEvent event with
                version := (current.applyEvent event).version + 1 }
                (timed.storeEvent caller event) := by
            refine ⟨storedNow timed caller event, by simp [storeEvent_events],
              rfl, rfl, eventChanges, ?_⟩
            apply sets
            exact ⟨current.toUserSettings, by rw [← eventChanges]; rfl⟩
          have later := wp_snapshotWhenDue keptStored
            (settled.stable reliedStored)
            (returns.grown (grown_of_rely reliedStored))
          have sameUser : ({ current.applyEvent event with
              version := (current.applyEvent event).version + 1 } :
                UserSettingsDocument).userId = userId := ofUser
          rw [sameUser] at later
          exact later
        · intro error final freshFinal
          exact freshFinal
      · intro error final freshFinal
        exact freshFinal
  · intro error final freshFinal
    exact freshFinal

/-- An update of some fields. -/
theorem wp_updateFields {changes : UserSettingsChanges}
    (consistent : Consistent calls store)
    (fresh : ¬ HasStored caller store)
    (call : calls caller = .updateUserSettings userId changes) :
    (contract calls).wp settingsBackend caller
      (UserSettingsService.updateUserSettings userId changes)
      (Ended calls caller) store := by
  apply wp_updateUserSettings (fun _ => True) consistent fresh
  · rw [call]
    rfl
  · trivial
  · intros
    trivial
  · intro event later _ carried _
    rw [call]
    exact carried
  · intro settings _ field
    rw [call]
    rfl
  · intro nothing settings field
    rw [call, nothing]
    cases field <;> rfl

/-- An update of one custom key. -/
theorem wp_updateCustomSetting {key : String} {value : AnyValue}
    (consistent : Consistent calls store)
    (fresh : ¬ HasStored caller store)
    (outside : store.readings caller = none)
    (call : calls caller = .updateCustomSetting userId key value) :
    (contract calls).wp settingsBackend caller
      (UserSettingsService.updateCustomSetting userId key value)
      (Ended calls caller) store := by
  rw [UserSettingsService.updateCustomSetting, Contract.wp_bind]
  apply wp_getUserSettings (fun later => ∃ reading,
    later.readings caller = some reading ∧ reading.first = reading.last)
    consistent fresh
  · refine ⟨readingNow store caller userId, ?_, ?_⟩
    · rw [noteReading_fresh fresh]
      simp
    · simp [readingNow, outside]
  · intro first second _ relied framed
    obtain ⟨reading, reads, same⟩ := framed
    exact ⟨reading, relied.reading.trans reads, same⟩
  · intro current reading known later kept freshLater framed ofUser knows _
    obtain ⟨other, reads, same⟩ := framed
    cases reads.symm.trans knows.reads
    have knowsCustom : KnowsCustom caller userId current.customSettings
        later.clock later := by
      refine ⟨reading, known, knows.reads, ?_, knows.distinct, ?_, ?_⟩
      · intro stored member
        have inHistory := knows.inHistory stored member
        exact ⟨inHistory, kept.stamped stored (mem_history.mp inHistory).1⟩
      · rw [same]
        exact knows.complete
      · rw [← knows.settings_eq]
    dsimp only
    apply wp_updateUserSettings (fun later => ∃ time,
      time ≤ later.clock ∧
        KnowsCustom caller userId current.customSettings time later)
      kept freshLater
    · rw [call]
      rfl
    · obtain ⟨reading, known, reads, inHistory, distinct, complete, sameCustom⟩
        := knowsCustom
      rw [noteReading_fresh freshLater]
      refine ⟨later.clock, Nat.le_refl _, readingNow later caller userId,
        known, by simp, inHistory, distinct, ?_, sameCustom⟩
      simpa [readingNow, reads] using complete
    · intro first second keptFirst relied framed
      obtain ⟨time, early, knowsFirst⟩ := framed
      exact ⟨time, Nat.le_trans early relied.clock,
        knowsFirst.stable keptFirst relied⟩
    · intro event stamped framed carried late
      obtain ⟨time, early, knowsStamped⟩ := framed
      rw [call]
      exact ⟨current.customSettings,
        knowsStamped.mono (Nat.le_trans early late), carried⟩
    · intro settings made field
      obtain ⟨earlier, applied⟩ := made
      have custom : settings.customSettings =
          current.customSettings.insert key value := by
        rw [applied]
        rfl
      rw [call, setTo, custom]
    · intro nothing
      have impossible := congrArg UserSettingsChanges.customSettings nothing
      cases impossible
  · intro error later freshLater
    exact freshLater

/-- Every call keeps the contract. -/
theorem wp_program (consistent : Consistent calls store)
    (fresh : ¬ HasStored caller store)
    (outside : store.readings caller = none) :
    (contract calls).wp settingsBackend caller (calls caller).program
      (Ended calls caller) store := by
  cases call : calls caller with
  | updateUserSettings userId changes =>
      exact wp_updateFields consistent fresh call
  | updateCustomSetting userId key value =>
      exact wp_updateCustomSetting consistent fresh outside call

private theorem start_consistent (clock : Nat) :
    Consistent calls (start clock calls).shared := by
  have none {property : StoredSettingsEvent → Prop} :
      ∀ stored ∈ (start clock calls).shared.events, property stored := by
    intro stored member
    cases member
  exact
    { owner := fun _ _ present => nomatch present
      snapshot := fun _ _ present => nomatch present
      ofEvent := fun _ _ present => nomatch present
      expired := none
      stamped := none
      distinct := fun _ => List.Pairwise.nil
      begun := none
      once := List.Pairwise.nil
      owned := none
      byChanges := none
      byKey := none
      keys := fun _ _ => rfl
      reads := fun _ _ reads => nomatch reads }

theorem start_safe (clock : Nat) :
    (contract calls).Safe settingsBackend (Ended calls)
      (start clock calls) := by
  apply Contract.Safe.start sound (start_consistent clock)
  · intro caller dead
    cases dead
  · intro caller coroutine runs later reached
    cases runs
    apply wp_program reached.2
    · apply fresh_stable reached.1
      rintro ⟨stored, member, -⟩
      cases member
    · rw [reached.1.reading]
      rfl

theorem guard_of_orderly (state : SettingsState) (move : SettingsMove)
    (orderly : Orderly calls state move) :
    (contract calls).guard state move := by
  cases move <;> exact orderly

end Programs

/-! ### What is shown in the end -/

/-- A reader that nobody disturbs is shown what all events make up. -/
theorem shownTo_eq (consistent : Consistent calls store) (reader : Caller)
    (userId : UserId) :
    ∃ shown, shownTo reader userId store = some (.ok shown) ∧
      shown.toUserSettings = rebuilt store userId := by
  have sameHistory (noted : SettingsStore)
      (is_noted : store.noteReading reader userId = noted) :
      noted.clock = store.clock ∧ noted.history userId =
        store.history userId := by
    subst is_noted
    rw [SettingsStore.noteReading]
    split <;> exact ⟨rfl, rfl⟩
  obtain ⟨clock, history⟩ := sameHistory _ rfl
  cases present : store.snapshots userId with
  | some snapshot =>
      refine ⟨((store.noteReading reader userId).findEvents userId
        (some snapshot.updatedAt) none).foldl
          UserSettingsDocument.applyEvent snapshot, ?_, ?_⟩
      · simp only [shownTo, UserSettingsService.getUserSettings,
          UserSettingsRepository.getSnapshot, Coroutine.bind_eq,
          Coroutine.bind, askStore, Coroutine.call, Coroutine.andThen,
          Coroutine.alone, SettingsStore.effect, present,
          UserSettingsRepository.getSettingsEvents, Coroutine.pure_eq,
          Option.map_some]
      · have split := @Replay.rebuild_split _ _ settingsReplay
          snapshot.updatedAt {} (store.history userId)
        rw [findEvents_since, history, (foldl_applyEvent _ _).1,
          consistent.snapshot userId snapshot present, rebuilt, split]
        · rfl
        · intro stored member expired
          rw [history] at member
          rw [clock] at expired
          obtain ⟨inEvents, ofUser⟩ := mem_history.mp member
          obtain ⟨covering, isSnapshot, early⟩ :=
            consistent.expired stored inEvents expired
          rw [ofUser, present] at isSnapshot
          cases isSnapshot
          exact early
  | none =>
      refine ⟨((store.noteReading reader userId).findEvents userId none
        none).foldl UserSettingsDocument.applyEvent
          { userId := userId
            updatedAt := (store.noteReading reader userId).clock }, ?_, ?_⟩
      · simp only [shownTo, UserSettingsService.getUserSettings,
          UserSettingsRepository.getSnapshot, Coroutine.bind_eq,
          Coroutine.bind, askStore, Coroutine.call, Coroutine.andThen,
          Coroutine.alone, SettingsStore.effect, present,
          UserSettingsRepository.getSettingsEvents, Coroutine.pure_eq,
          Option.map_some]
      · rw [findEvents_all, history, (foldl_applyEvent _ _).1]
        · rfl
        · intro stored member
          rw [history] at member
          rw [clock]
          by_contra expired
          obtain ⟨inEvents, ofUser⟩ := mem_history.mp member
          obtain ⟨covering, isSnapshot, -⟩ :=
            consistent.expired stored inEvents (by omega)
          rw [ofUser, present] at isSnapshot
          cases isSnapshot

section Shown

variable {state : SettingsState}

/-- In a quiet state every stored event is that of an acknowledged call. -/
theorem acknowledged_of_stored {stored : StoredSettingsEvent}
    (safe : (contract calls).Safe settingsBackend (Ended calls) state)
    (quiet : Quiet state) (member : stored ∈ state.shared.events) :
    ∃ returned, Acknowledged state stored.storedBy returned ∧
      stored.event.timestamp = returned.updatedAt ∧
      ∀ field, stored.event.field? field =
        setTo (calls stored.storedBy) returned field := by
  have has : HasStored stored.storedBy state.shared := ⟨stored, member, rfl⟩
  cases runs : state.running stored.storedBy with
  | none => exact absurd has (safe.gone stored.storedBy runs)
  | some coroutine =>
      cases ended : coroutine.result? with
      | none =>
          have idle := quiet stored.storedBy ⟨coroutine, runs, ended⟩
          exact absurd idle (safe.invariant.begun stored member)
      | some result =>
          have done := Coroutine.result_eq_some ended
          subst done
          have post := safe.ended stored.storedBy result runs
          cases result with
          | error error => exact absurd has post
          | ok returned =>
              rcases post with ⟨fresh, -⟩ | ⟨own, inEvents, storedBy, rest⟩
              · exact absurd has fresh
              · -- A call stores one event only
                have same : own = stored := by
                  by_contra different
                  have symmetric : Std.Symm
                      fun first second : StoredSettingsEvent =>
                        first.storedBy ≠ second.storedBy :=
                    ⟨fun _ _ apart => apart.symm⟩
                  exact safe.invariant.once.forall inEvents member different
                    storedBy
                subst same
                exact ⟨returned, runs, rest⟩

/-- The event of an acknowledged call that sets something is stored. -/
theorem stored_of_acknowledged {returned : UserSettingsDocument}
    (safe : (contract calls).Safe settingsBackend (Ended calls) state)
    (acknowledged : Acknowledged state caller returned)
    {field : SettingsField}
    (sets : setTo (calls caller) returned field ≠ none) :
    ∃ stored ∈ state.shared.history (calls caller).userId,
      stored.storedBy = caller ∧
      stored.event.timestamp = returned.updatedAt ∧
      stored.event.field? field = setTo (calls caller) returned field := by
  rcases safe.ended caller _ acknowledged with
    ⟨-, nothing⟩ | ⟨stored, member, storedBy, dated, same⟩
  · exact absurd (nothing field) sets
  · have owned := safe.invariant.owned stored member
    rw [storedBy] at owned
    exact ⟨stored, mem_history.mpr ⟨member, owned⟩, storedBy, dated,
      same field⟩

private theorem fieldShown
    (safe : (contract calls).Safe settingsBackend (Ended calls) state)
    (quiet : Quiet state) (userId : UserId) (field : SettingsField) :
    FieldShown calls state userId (rebuilt state.shared userId) field := by
  have distinct := safe.invariant.distinct userId
  by_cases written : ∃ stored ∈ state.shared.history userId,
      (fieldRegister field).write stored ≠ none
  · left
    obtain ⟨writer, member, writes⟩ := written
    obtain ⟨stored, value, decides⟩ := Register.exists_decides member writes
    have shown : (rebuilt state.shared userId).field field = value :=
      Register.read_rebuild_decided distinct decides
    obtain ⟨inEvents, ofUser⟩ := mem_history.mp decides.member
    obtain ⟨returned, acknowledged, dated, sets⟩ :=
      acknowledged_of_stored safe quiet inEvents
    refine ⟨stored.storedBy, returned, acknowledged,
      (safe.invariant.owned stored inEvents).symm.trans ofUser, ?_, ?_⟩
    · rw [← sets field, shown]
      exact decides.writes
    · intro other otherReturned otherAcknowledged otherUser otherSets
      obtain ⟨event, inHistory, -, eventDated, eventSets⟩ :=
        stored_of_acknowledged safe otherAcknowledged otherSets
      rw [← dated, ← eventDated]
      apply decides.latest event (otherUser ▸ inHistory)
      intro silent
      exact otherSets (eventSets.symm.trans silent)
  · right
    have silent : ∀ stored ∈ state.shared.history userId,
        (fieldRegister field).write stored = none := by
      intro stored member
      by_contra writes
      exact written ⟨stored, member, writes⟩
    refine ⟨?_, Register.read_rebuild_untouched silent⟩
    intro caller returned acknowledged ofUser
    by_contra sets
    obtain ⟨stored, inHistory, -, -, same⟩ :=
      stored_of_acknowledged safe acknowledged sets
    exact sets (same.symm.trans (silent stored (ofUser ▸ inHistory)))

/-- The calls that set a key. -/
theorem keySetTo_eq {key : String} {call : SettingsCall}
    {value : Option AnyValue} (sets : keySetTo key call = some value) :
    ∃ userId given, call = .updateCustomSetting userId key given ∧
      value = some given := by
  cases call with
  | updateUserSettings userId changes => cases sets
  | updateCustomSetting userId other given =>
      simp only [keySetTo, Option.ite_none_right_eq_some,
        Option.some.injEq] at sets
      obtain ⟨rfl, rfl⟩ := sets
      exact ⟨userId, given, rfl, rfl⟩

private theorem keyShown
    (safe : (contract calls).Safe settingsBackend (Ended calls) state)
    (quiet : Quiet state) (userId : UserId)
    (onlyByKey : OnlyByKey calls userId) (key : String) :
    KeyShown calls state userId (rebuilt state.shared userId) key := by
  have distinct : (customReplay calls).Distinct
      (customHistory state.shared userId) :=
    (safe.invariant.distinct userId).filter _
  have keys := safe.invariant.keys userId onlyByKey
  -- The event of an acknowledged call for the key is one of those events
  have stored_of_key {other : Caller} {otherReturned : UserSettingsDocument}
      {otherValue : AnyValue}
      (acknowledged : Acknowledged state other otherReturned)
      (call : calls other = .updateCustomSetting userId key otherValue) :
      ∃ stored ∈ customHistory state.shared userId,
        stored.event.timestamp = otherReturned.updatedAt ∧
          (keyRegister calls key).write stored ≠ none := by
    have sets : setTo (calls other) otherReturned .customSettings ≠ none := by
      rw [call]
      exact Option.some_ne_none _
    obtain ⟨stored, inHistory, storedBy, dated, same⟩ :=
      stored_of_acknowledged safe acknowledged sets
    rw [call] at inHistory
    refine ⟨stored, mem_customHistory.mpr ⟨inHistory, ?_⟩, dated, ?_⟩
    · apply safe.invariant.byKey stored (mem_history.mp inHistory).1
      rw [storedBy, call]
      rfl
    · simp [keyRegister, storedBy, call, keySetTo]
  by_cases written : ∃ stored ∈ customHistory state.shared userId,
      (keyRegister calls key).write stored ≠ none
  · left
    obtain ⟨writer, member, writes⟩ := written
    obtain ⟨stored, value, decides⟩ := Register.exists_decides member writes
    obtain ⟨ofUserId, given, call, rfl⟩ := keySetTo_eq decides.writes
    have shown : ((customReplay calls).rebuild ∅
        (customHistory state.shared userId)).lookup key = some given :=
      Register.read_rebuild_decided distinct decides
    obtain ⟨inHistory, -⟩ := mem_customHistory.mp decides.member
    obtain ⟨inEvents, ofUser⟩ := mem_history.mp inHistory
    obtain ⟨returned, acknowledged, dated, -⟩ :=
      acknowledged_of_stored safe quiet inEvents
    have sameUser : ofUserId = userId := by
      have owned := safe.invariant.owned stored inEvents
      rw [call, ofUser] at owned
      exact owned.symm
    refine ⟨stored.storedBy, returned, given, acknowledged,
      sameUser ▸ call, by rw [keys]; exact shown, ?_⟩
    intro other otherReturned otherValue otherAcknowledged otherCall
    obtain ⟨event, inCustom, eventDated, eventWrites⟩ :=
      stored_of_key otherAcknowledged otherCall
    rw [← dated, ← eventDated]
    exact decides.latest event inCustom eventWrites
  · right
    constructor
    · intro other otherReturned otherValue otherAcknowledged otherCall
      obtain ⟨event, inCustom, -, eventWrites⟩ :=
        stored_of_key otherAcknowledged otherCall
      exact written ⟨event, inCustom, eventWrites⟩
    · have silent : ∀ stored ∈ customHistory state.shared userId,
          (keyRegister calls key).write stored = none := by
        intro stored member
        by_contra writes
        exact written ⟨stored, member, writes⟩
      have unset : ((customReplay calls).rebuild ∅
          (customHistory state.shared userId)).lookup key =
            (∅ : CustomSettings).lookup key :=
        Register.read_rebuild_untouched silent
      rw [keys, unset]
      rfl

/-- In a quiet state in which every call has kept the contract, all
acknowledged updates show. -/
theorem updatesShown
    (safe : (contract calls).Safe settingsBackend (Ended calls) state)
    (quiet : Quiet state) : UpdatesShown calls state := by
  intro reader userId
  obtain ⟨shown, answered, same⟩ := shownTo_eq safe.invariant reader userId
  refine ⟨shown, answered, ?_, ?_⟩
  · intro field
    rw [same]
    exact fieldShown safe quiet userId field
  · intro onlyByKey key
    rw [same]
    exact keyShown safe quiet userId onlyByKey key

end Shown

end Law

/-- In every orderly run, once no update is in progress, every acknowledged
update shows. -/
theorem updates_shown_when_orderly {clock : Nat}
    {calls : Caller → SettingsCall} {moves : List SettingsMove}
    {final : SettingsState}
    (along : settingsBackend.machine.Along (Orderly calls)
      (start clock calls) moves)
    (reached : settingsBackend.machine.run (start clock calls) moves =
      some final)
    (quiet : Quiet final) : UpdatesShown calls final := by
  have safe := sound.run stable_ended (start_safe clock)
    (along.mono guard_of_orderly) reached
  exact updatesShown safe quiet

/-! ### Sequential updates -/

/-- A call moves only while no other one is in progress. -/
def Sequential (state : SettingsState) : SettingsMove → Prop
  | .caller caller _ => ∀ other, other ≠ caller → state.atWork other →
      state.shared.readings other = none
  | _ => True

/-- The condition for sequential updates: their events are stored at times of
their own, an update whose event is stored is acknowledged, and an event
expires only when the snapshot covers it. -/
def Covering (state : SettingsState) : SettingsMove → Prop
  | .caller caller choice =>
      match state.awaited caller with
      | none => True
      | some (.storeEvent event) =>
          match choice.outcome with
          | .succeeds =>
              ∀ stored ∈ state.shared.history event.userId,
                stored.event.timestamp < event.timestamp
          | .fails _ => True
          | .unacknowledged _ => False
      | some (.saveSnapshot settings) =>
          choice.outcome = .succeeds ∧
            ∀ existing,
              state.shared.snapshots settings.userId = some existing →
                settings.id = existing.id
      | some (.publish _) =>
          match choice.outcome with
          | .succeeds => True
          | .fails error | .unacknowledged error =>
              error.isPublishError = true
      | some _ => HasStored caller state.shared → choice.outcome = .succeeds
  | .environment duration =>
      ∀ stored ∈ state.shared.events,
        state.shared.clock < stored.expiresAt →
          stored.expiresAt ≤ state.shared.clock + duration →
            Covered state.shared stored
  | .kill caller => ¬ HasStored caller state.shared

/-- The snapshot that a call has read is the one there is, and since it began
only its own event was stored. -/
def Undisturbed (caller : Caller) (store : SettingsStore) : Prop :=
  ∀ reading, store.readings caller = some reading →
    reading.base = (store.snapshots reading.userId).map
        UserSettingsDocument.updatedAt ∧
      ∀ stored ∈ store.events.drop reading.first, stored.storedBy = caller

section Sequence

variable {calls : Caller → SettingsCall} {caller : Caller}
  {store : SettingsStore}

/-- A call's own step doesn't disturb it. -/
theorem Undisturbed.effect {command : SettingsCommand} (choice : Choice)
    (undisturbed : Undisturbed caller store)
    (consistent : Consistent calls store)
    (claims : (contract calls).claims caller command store) :
    Undisturbed caller (store.effect caller choice command).2 := by
  cases command with
  | findSnapshot userId =>
      by_cases has : HasStored caller store
      · simp only [SettingsStore.effect, noteReading_stored has]
        exact undisturbed
      · simp only [SettingsStore.effect, noteReading_fresh has]
        intro reading reads
        simp only [Function.update_self, Option.some.injEq] at reads
        subst reads
        refine ⟨rfl, ?_⟩
        cases earlier : store.readings caller with
        | none => simp [readingNow, earlier]
        | some before =>
            simpa [readingNow, earlier] using (undisturbed before earlier).2
  | storeEvent event =>
      intro reading reads
      obtain ⟨base, own⟩ := undisturbed reading reads
      obtain ⟨ordered, bounded⟩ := consistent.reads caller reading reads
      refine ⟨base, ?_⟩
      intro stored member
      have inEvents : stored ∈ (store.events ++
          [storedNow store caller event]).drop reading.first := member
      rw [List.drop_append_of_le_length (by omega)] at inEvents
      rcases List.mem_append.mp inEvents with old | new
      · exact own stored old
      · rw [List.mem_singleton.mp new]
        rfl
  | saveSnapshot settings =>
      have either : (store.saveSnapshot caller choice.fresh settings).2 =
            store ∨
          (store.saveSnapshot caller choice.fresh settings).2 =
            store.writeSnapshot caller choice.fresh settings := by
        unfold SettingsStore.saveSnapshot
        cases store.snapshots settings.userId with
        | none => exact .inr rfl
        | some existing =>
            dsimp only
            split
            · exact .inr rfl
            · exact .inl rfl
      rcases either with same | written
      · simp only [SettingsStore.effect, same]
        exact undisturbed
      · simp only [SettingsStore.effect, written]
        obtain ⟨⟨before, readsBefore, ofUser⟩, -⟩ := claims
        intro reading reads
        simp only [SettingsStore.writeSnapshot, Function.update_self,
          readsBefore, Option.map_some, Option.some.injEq] at reads
        subst reads
        refine ⟨?_, (undisturbed before readsBefore).2⟩
        simp [SettingsStore.writeSnapshot, ofUser]
  | _ => exact undisturbed

/-- A step leaves the readings of others alone. -/
theorem readings_other {next : SettingsStore} {command : SettingsCommand}
    {choice : Choice}
    {reply : Except PyException (SettingsReply command)} {other : Caller}
    (performed : store.perform caller command choice = some (reply, next))
    (different : other ≠ caller) :
    next.readings other = store.readings other := by
  have effects : (store.effect caller choice command).2.readings other =
      store.readings other := by
    cases command with
    | findSnapshot userId =>
        simp only [SettingsStore.effect, SettingsStore.noteReading]
        split
        · rfl
        · exact Function.update_of_ne different _ _
    | saveSnapshot settings =>
        simp only [SettingsStore.effect, SettingsStore.saveSnapshot]
        split
        · exact Function.update_of_ne different _ _
        · split
          · exact Function.update_of_ne different _ _
          · rfl
    | _ => rfl
  rcases SettingsStore.perform_cases performed with
    ⟨-, went⟩ | ⟨error, -, -, ⟨-, rfl⟩ | ⟨-, rfl⟩⟩
  · rw [went] at effects
    exact effects
  · rfl
  · exact effects

/-- In a sequential run whose expiring events are covered, the steps are
orderly. -/
theorem orderly_of_covering {state : SettingsState} {move : SettingsMove}
    (safe : (contract calls).Safe settingsBackend (Ended calls) state)
    (undisturbed : ∀ caller, state.atWork caller →
      Undisturbed caller state.shared)
    (covering : Covering state move) : Orderly calls state move := by
  have consistent := safe.invariant
  cases move with
  | caller caller choice =>
      intro command awaits
      have claims := safe.claims sound awaits
      have works : state.atWork caller := by
        unfold Callers.awaited at awaits
        split at awaits
        · next command resume runs => exact ⟨_, runs, rfl⟩
        · cases awaits
      have mine := undisturbed caller works
      simp only [Covering, awaits] at covering
      cases command with
      | storeEvent event =>
          cases outcome : choice.outcome with
          | fails error => simp [Allowed, outcome]
          | unacknowledged error => simp [outcome] at covering
          | succeeds =>
              simp only [outcome] at covering
              simp only [Allowed, outcome]
              refine ⟨fun stored member =>
                Nat.ne_of_lt (covering stored member), ?_, ?_⟩
              · intro snapshot present
                obtain ⟨stored, member, dated⟩ :=
                  consistent.ofEvent event.userId snapshot present
                rw [← dated]
                exact covering stored member
              · intro _ reading reads stored member _
                have own := (mine reading reads).2 stored member
                exact absurd ⟨stored, List.mem_of_mem_drop member, own⟩
                  claims
      | saveSnapshot settings =>
          refine ⟨covering.1, covering.2, ?_⟩
          intro reading reads stored member _
          obtain ⟨ordered, -⟩ := consistent.reads caller reading reads
          have since : stored ∈
              state.shared.events.drop reading.first := by
            have split : state.shared.events.drop reading.last =
                (state.shared.events.drop reading.first).drop
                  (reading.last - reading.first) := by
              rw [List.drop_drop]
              congr 1
              omega
            rw [split] at member
            exact List.mem_of_mem_drop member
          exact claims.2 stored (List.mem_of_mem_drop member)
            ((mine reading reads).2 stored since)
      | publish event => exact covering
      | now => exact covering
      | findSnapshot userId => exact covering
      | findEvents userId since notAfter => exact covering
      | countEvents userId since => exact covering
  | environment duration =>
      intro stored member alive expires
      have covered := covering stored member alive expires
      refine ⟨covered, ?_⟩
      intro caller works reading reads ofUser
      obtain ⟨base, -⟩ := undisturbed caller works reading reads
      obtain ⟨snapshot, present, early⟩ := covered
      rw [ofUser, present] at base
      exact ⟨snapshot.updatedAt, base, early⟩
  | kill caller => exact covering

/-- A step of a sequential run leaves every call at work undisturbed. -/
theorem undisturbed_step {state next : SettingsState} {move : SettingsMove}
    (safe : (contract calls).Safe settingsBackend (Ended calls) state)
    (undisturbed : ∀ caller, state.atWork caller →
      Undisturbed caller state.shared)
    (sequential : Sequential state move)
    (stepped : settingsBackend.machine.step state move = some next) :
    ∀ caller, next.atWork caller → Undisturbed caller next.shared := by
  intro other works
  cases move with
  | caller caller choice =>
      obtain ⟨coroutine, runs, moved⟩ := Option.bind_eq_some_iff.mp stepped
      obtain ⟨⟨shared, rest⟩, advanced, rfl⟩ := Option.map_eq_some_iff.mp moved
      by_cases same : other = caller
      · subst same
        cases coroutine with
        | done result => cases advanced
        | loop body resume =>
            cases advanced
            exact undisturbed other ⟨_, runs, rfl⟩
        | await command resume =>
            obtain ⟨⟨reply, after⟩, performed, equal⟩ :=
              Option.map_eq_some_iff.mp advanced
            cases equal
            have mine := undisturbed other ⟨_, runs, rfl⟩
            have awaits : state.awaited other = some command := by
              simp [Callers.awaited, runs]
            have later := mine.effect choice safe.invariant
              (safe.claims sound awaits)
            rcases SettingsStore.perform_cases performed with
              ⟨-, went⟩ | ⟨error, -, -, ⟨-, rfl⟩ | ⟨-, rfl⟩⟩
            · rw [went] at later
              exact later
            · exact mine
            · exact later
      · obtain ⟨waiting, otherRuns, unfinished⟩ := works
        simp only [Function.update_of_ne same] at otherRuns
        have idle := sequential other same ⟨waiting, otherRuns, unfinished⟩
        have kept : shared.readings other = state.shared.readings other := by
          cases coroutine with
          | done result => cases advanced
          | loop body resume =>
              cases advanced
              rfl
          | await command resume =>
              obtain ⟨⟨reply, after⟩, performed, equal⟩ :=
                Option.map_eq_some_iff.mp advanced
              cases equal
              exact readings_other performed same
        intro reading reads
        rw [kept, idle] at reads
        cases reads
  | environment duration =>
      cases stepped
      exact undisturbed other works
  | kill caller =>
      obtain ⟨coroutine, runs, killed⟩ := Option.bind_eq_some_iff.mp stepped
      obtain ⟨shared, happened, rfl⟩ := Option.map_eq_some_iff.mp killed
      cases happened
      obtain ⟨waiting, otherRuns, unfinished⟩ := works
      by_cases same : other = caller
      · subst same
        simp at otherRuns
      · simp only [Function.update_of_ne same] at otherRuns
        exact undisturbed other ⟨waiting, otherRuns, unfinished⟩

end Sequence

/-- In every sequential run in which events expire only once a snapshot covers
them, the settings show what was last set, however much time passes.  Each
field and each key of the custom settings is a register of its own, which the
events after the snapshot set in the order of their times. -/
theorem settings_survive_while_covered {clock : Nat}
    {calls : Caller → SettingsCall} {moves : List SettingsMove}
    {final : SettingsState}
    (along : settingsBackend.machine.Along
      (fun state move => Sequential state move ∧ Covering state move)
      (start clock calls) moves)
    (reached : settingsBackend.machine.run (start clock calls) moves =
      some final)
    (quiet : Quiet final) : UpdatesShown calls final := by
  have kept := settingsBackend.machine.run_invariant _
    (fun state => (contract calls).Safe settingsBackend (Ended calls) state ∧
      ∀ caller, state.atWork caller → Undisturbed caller state.shared)
    (fun state move next holds guarded stepped => by
      have orderly := orderly_of_covering holds.1 holds.2 guarded.2
      exact ⟨(sound.step stable_ended move holds.1
          (guard_of_orderly state move orderly) stepped).1,
        undisturbed_step holds.1 holds.2 guarded.1 stepped⟩)
    ⟨start_safe clock, fun _ _ _ reads => nomatch reads⟩ along reached
  exact updatesShown kept.1 quiet

/-! ### Runs of a few calls -/

/-- A caller that no step is about has read nothing. -/
theorem readings_none {clock : Nat} {calls : Caller → SettingsCall}
    {moves : List SettingsMove} {final : SettingsState} {caller : Caller}
    (reached : settingsBackend.machine.run (start clock calls) moves =
      some final)
    (untouched : ∀ move ∈ moves,
      System.Move.about? move ≠ some caller) :
    final.shared.readings caller = none := by
  apply settingsBackend.run_view (fun store => store.readings caller) reached
    untouched
  · intro other shared command choice reply next different performed
    exact readings_other performed different.symm
  · intro shared duration next happened
    cases happened
    rfl
  · intro shared other next _ killed
    cases killed
    rfl

/-- A run in which only some callers move, and those have ended, ends in a
quiet state. -/
theorem quiet_of_ended {clock : Nat} {calls : Caller → SettingsCall}
    {moves : List SettingsMove} {final : SettingsState}
    (moving : List Caller)
    (reached : settingsBackend.machine.run (start clock calls) moves =
      some final)
    (untouched : ∀ move ∈ moves, ∀ caller,
      System.Move.about? move = some caller → caller ∈ moving)
    (ended : ∀ caller ∈ moving,
      ((final.running caller).bind Coroutine.result?).isSome = true) :
    Quiet final := by
  intro caller works
  obtain ⟨coroutine, runs, unfinished⟩ := works
  by_cases moves : caller ∈ moving
  · have finished := ended caller moves
    simp [runs, unfinished] at finished
  · apply readings_none reached
    intro move member about
    exact moves (untouched move member caller about)

/-- A run of one caller is sequential. -/
theorem sequential_of_single {caller : Caller} {moves : List SettingsMove}
    {state : SettingsState}
    (single : ∀ move ∈ moves, ∀ other,
      System.Move.about? move = some other → other = caller)
    (others : ∀ other, other ≠ caller →
      state.shared.readings other = none) :
    settingsBackend.machine.Along Sequential state moves := by
  induction moves generalizing state with
  | nil => trivial
  | cons move moves inductionHypothesis =>
      constructor
      · cases move with
        | caller other choice =>
            have same := single (.caller other choice) (by simp) other rfl
            subst same
            exact fun another different _ => others another different
        | environment duration => trivial
        | kill other => trivial
      · intro next stepped
        apply inductionHypothesis
        · exact fun other member => single other (by simp [member])
        · intro other different
          have one : settingsBackend.machine.run state [move] = some next := by
            simp [stepped]
          have apart : ∀ head ∈ [move],
              System.Move.about? head ≠ some other := by
            intro head member about
            rw [List.mem_singleton.mp member] at about
            exact different (single move (by simp) other about)
          have stays := settingsBackend.run_view
            (fun store => store.readings other) one apart
            (fun _ _ _ _ _ _ apart performed =>
              readings_other performed apart.symm)
            (fun _ _ _ happened => by
              cases happened
              rfl)
            (fun _ _ _ _ killed => by
              cases killed
              rfl)
          exact stays.trans (others other different)

/-- A check by evaluation that a step is orderly and covering: nothing fails,
every event gets a later time than those before it, no snapshot is saved, and
no event expires. -/
def calmCheck (calls : Caller → SettingsCall) (state : SettingsState) :
    SettingsMove → Bool
  | .caller caller choice =>
      decide (choice.outcome = .succeeds) &&
        match state.awaited caller with
        | some (.storeEvent event) =>
            (state.shared.history event.userId).all (fun stored =>
              decide (stored.event.timestamp < event.timestamp)) &&
            (state.shared.snapshots event.userId).isNone &&
            !isByKey (calls caller)
        | some (.saveSnapshot _) => false
        | _ => true
  | .environment duration =>
      state.shared.events.all fun stored =>
        decide (state.shared.clock + duration < stored.expiresAt)
  | .kill _ => false

theorem orderly_of_check {calls : Caller → SettingsCall}
    (state : SettingsState) (move : SettingsMove)
    (checked : calmCheck calls state move = true) :
    Orderly calls state move := by
  cases move with
  | caller caller choice =>
      intro command awaits
      simp only [calmCheck, Bool.and_eq_true, decide_eq_true_eq,
        awaits] at checked
      obtain ⟨succeeded, checked⟩ := checked
      cases command with
      | storeEvent event =>
          simp only [Bool.and_eq_true, List.all_eq_true,
            decide_eq_true_eq, Option.isNone_iff_eq_none,
            Bool.not_eq_true'] at checked
          obtain ⟨⟨later, missing⟩, byFields⟩ := checked
          simp only [Allowed, succeeded]
          refine ⟨fun stored member => Nat.ne_of_lt (later stored member),
            ?_, ?_⟩
          · intro snapshot present
            rw [missing] at present
            cases present
          · intro byKey
            rw [byFields] at byKey
            cases byKey
      | saveSnapshot settings => cases checked
      | publish event => simp [Allowed, succeeded]
      | _ => exact fun _ => succeeded
  | environment duration =>
      intro stored member _ expires
      simp only [calmCheck, List.all_eq_true, decide_eq_true_eq] at checked
      have alive := checked stored member
      omega
  | kill caller => cases checked

private theorem covering_of_check {calls : Caller → SettingsCall}
    (state : SettingsState) (move : SettingsMove)
    (checked : calmCheck calls state move = true) :
    Covering state move := by
  cases move with
  | caller caller choice =>
      simp only [calmCheck, Bool.and_eq_true, decide_eq_true_eq] at checked
      obtain ⟨succeeded, checked⟩ := checked
      simp only [Covering]
      split
      · trivial
      · next event awaits =>
          simp only [awaits, Bool.and_eq_true, List.all_eq_true,
            decide_eq_true_eq] at checked
          simp only [succeeded]
          exact checked.1.1
      · next settings awaits =>
          simp only [awaits] at checked
          cases checked
      · simp [succeeded]
      · exact fun _ => succeeded
  | environment duration =>
      intro stored member _ expires
      simp only [calmCheck, List.all_eq_true, decide_eq_true_eq] at checked
      have alive := checked stored member
      omega
  | kill caller => cases checked

/-- One update of the theme. -/
def oneUpdate : Caller → SettingsCall := fun _ =>
  .updateUserSettings "u" { theme := some .dark }

/-- The update runs, and some days pass. -/
def updateAndDays (number : Nat) : List SettingsMove :=
  List.replicate 8 (.caller 0 {}) ++
    [.environment (SettingsStore.days number)]

/-- Only the first caller moves. -/
theorem updateAndDays_single (number : Nat) :
    ∀ move ∈ updateAndDays number, ∀ caller,
      System.Move.about? move = some caller → caller = 0 := by
  intro move member caller about
  rcases List.mem_append.mp member with step | tick
  · rw [List.eq_of_mem_replicate step] at about
    simpa [System.Move.about?, eq_comm] using about
  · rw [List.mem_singleton.mp tick] at about
    cases about

theorem settings_survive_while_covered_month :
    ∃ final, settingsBackend.machine.run (start 0 oneUpdate)
        (updateAndDays 29) = some final ∧
      UpdatesShown oneUpdate final := by
  have ends : (settingsBackend.machine.run (start 0 oneUpdate)
      (updateAndDays 29)).map (fun final =>
        ((final.running 0).bind Coroutine.result?).isSome) = some true := by
    decide +kernel
  obtain ⟨final, reached, ended⟩ := Option.map_eq_some_iff.mp ends
  have single := updateAndDays_single 29
  have quiet : Quiet final := by
    apply quiet_of_ended [0] reached
    · intro move member caller about
      simp [single move member caller about]
    · intro caller member
      rw [List.mem_singleton.mp member]
      exact ended
  have sequential : settingsBackend.machine.Along Sequential
      (start 0 oneUpdate) (updateAndDays 29) :=
    sequential_of_single single fun _ _ => rfl
  have covering : settingsBackend.machine.Along Covering (start 0 oneUpdate)
      (updateAndDays 29) :=
    settingsBackend.machine.along_of_check covering_of_check
      (show settingsBackend.machine.checkAlong (calmCheck oneUpdate)
        (start 0 oneUpdate) (updateAndDays 29) = true by decide +kernel)
  exact ⟨final, reached,
    settings_survive_while_covered (sequential.and covering) reached quiet⟩

/-- A month later the event has expired, no snapshot was ever taken, and the
theme that was set is no longer shown. -/
theorem expired_update :
    ∃ final, settingsBackend.machine.run (start 0 oneUpdate)
        (updateAndDays 31) = some final ∧
      settingsBackend.machine.Along Sequential (start 0 oneUpdate)
        (updateAndDays 31) ∧
      Quiet final ∧ ¬ UpdatesShown oneUpdate final := by
  have ends : (settingsBackend.machine.run (start 0 oneUpdate)
      (updateAndDays 31)).map (fun final =>
        (((final.running 0).bind Coroutine.result?).map Except.isOk,
          (shownTo 0 "u" final.shared).map fun shown =>
            shown.toOption.map fun settings => settings.theme)) =
      some (some true, some (some .system)) := by
    decide +kernel
  obtain ⟨final, reached, shown⟩ := Option.map_eq_some_iff.mp ends
  simp only [Prod.mk.injEq] at shown
  obtain ⟨ended, theme⟩ := shown
  have single := updateAndDays_single 31
  refine ⟨final, reached, sequential_of_single single fun _ _ => rfl, ?_, ?_⟩
  · apply quiet_of_ended [0] reached
    · intro move member caller about
      simp [single move member caller about]
    · intro caller member
      obtain ⟨result, finished, -⟩ := Option.map_eq_some_iff.mp ended
      rw [List.mem_singleton.mp member, finished]
      rfl
  · intro all
    obtain ⟨settings, answered, fields, -⟩ := all 0 "u"
    have default : settings.theme = .system := by
      simpa [answered, Except.toOption] using theme
    obtain ⟨result, finished, isOk⟩ := Option.map_eq_some_iff.mp ended
    obtain ⟨coroutine, runs, hasEnded⟩ := Option.bind_eq_some_iff.mp finished
    cases Coroutine.result_eq_some hasEnded
    cases result with
    | error error => cases isOk
    | ok returned =>
        rcases fields .theme with ⟨caller, other, _, _, set, _⟩ | ⟨unset, _⟩
        · have dark : some Theme.dark = some settings.theme := set
          rw [default] at dark
          cases dark
        · have silent : some Theme.dark = none := unset 0 returned runs rfl
          cases silent

/-- Updates of two different fields. -/
def twoFields : Caller → SettingsCall
  | 0 => .updateUserSettings "u" { theme := some .dark }
  | _ => .updateUserSettings "u" { timezone := some "CET" }

/-- Updates of two custom keys. -/
def twoKeys : Caller → SettingsCall
  | 0 => .updateCustomSetting "u" "font" "mono"
  | _ => .updateCustomSetting "u" "zoom" "2"

/-- Two calls read the settings in a number of steps, and then one after the
other update them. -/
def bothRead (reads updates : Nat) : List SettingsMove :=
  List.replicate reads (.caller 0 {}) ++
    (List.replicate reads (.caller 1 {}) ++
      (List.replicate updates (.caller 0 {}) ++
        (.environment 1 :: List.replicate updates (.caller 1 {}))))

/-- Only the first two callers move. -/
theorem bothRead_callers (reads updates : Nat) :
    ∀ move ∈ bothRead reads updates, ∀ caller,
      System.Move.about? move = some caller → caller ∈ [0, 1] := by
  intro move member caller about
  simp only [bothRead, List.mem_append, List.mem_cons,
    List.mem_replicate] at member
  rcases member with ⟨-, rfl⟩ | ⟨-, rfl⟩ | ⟨-, rfl⟩ | rfl | ⟨-, rfl⟩ <;>
    simp_all [System.Move.about?]

theorem updates_shown_when_orderly_two_fields :
    ∃ final, settingsBackend.machine.run (start 0 twoFields)
        (bothRead 3 5) = some final ∧
      UpdatesShown twoFields final := by
  have ends : (settingsBackend.machine.run (start 0 twoFields)
      (bothRead 3 5)).map (fun final =>
        (((final.running 0).bind Coroutine.result?).isSome,
          ((final.running 1).bind Coroutine.result?).isSome)) =
      some (true, true) := by
    decide +kernel
  obtain ⟨final, reached, ended⟩ := Option.map_eq_some_iff.mp ends
  simp only [Prod.mk.injEq] at ended
  have quiet : Quiet final := by
    apply quiet_of_ended [0, 1] reached (bothRead_callers 3 5)
    intro caller member
    rcases List.mem_cons.mp member with rfl | second
    · exact ended.1
    · rw [List.mem_singleton.mp second]
      exact ended.2
  have orderly : settingsBackend.machine.Along (Orderly twoFields)
      (start 0 twoFields) (bothRead 3 5) :=
    settingsBackend.machine.along_of_check orderly_of_check
      (show settingsBackend.machine.checkAlong (calmCheck twoFields)
        (start 0 twoFields) (bothRead 3 5) = true by decide +kernel)
  exact ⟨final, reached, updates_shown_when_orderly orderly reached quiet⟩

/-- Two calls read the custom settings before either of them stores its event.
The later event carries a dict without the other call's key. -/
theorem lost_custom_key :
    ∃ final, settingsBackend.machine.run (start 0 twoKeys)
        (bothRead 6 5) = some final ∧
      Quiet final ∧
      (final.shared.events.Pairwise fun first second =>
        first.event.timestamp ≠ second.event.timestamp) ∧
      ¬ UpdatesShown twoKeys final := by
  have ends : (settingsBackend.machine.run (start 0 twoKeys)
      (bothRead 6 5)).map (fun final =>
        (((final.running 0).bind Coroutine.result?).map Except.isOk,
          ((final.running 1).bind Coroutine.result?).isSome,
          decide (final.shared.events.Pairwise fun first second =>
            first.event.timestamp ≠ second.event.timestamp),
          (shownTo 0 "u" final.shared).map fun shown =>
            shown.toOption.map fun settings =>
              (settings.customSettings.lookup "font").isSome)) =
      some (some true, true, true, some (some false)) := by
    decide +kernel
  obtain ⟨final, reached, shown⟩ := Option.map_eq_some_iff.mp ends
  simp only [Prod.mk.injEq, decide_eq_true_eq] at shown
  obtain ⟨ended, endedToo, distinct, font⟩ := shown
  obtain ⟨result, finished, isOk⟩ := Option.map_eq_some_iff.mp ended
  refine ⟨final, reached, ?_, distinct, ?_⟩
  · apply quiet_of_ended [0, 1] reached (bothRead_callers 6 5)
    intro caller member
    rcases List.mem_cons.mp member with rfl | second
    · rw [finished]
      rfl
    · rw [List.mem_singleton.mp second]
      exact endedToo
  · intro all
    obtain ⟨settings, answered, -, keys⟩ := all 0 "u"
    have missing : settings.customSettings.lookup "font" = none := by
      simpa [answered, Except.toOption] using font
    have onlyByKey : OnlyByKey twoKeys "u" := by
      intro caller changes call
      unfold twoKeys at call
      split at call <;> cases call
    obtain ⟨coroutine, runs, hasEnded⟩ := Option.bind_eq_some_iff.mp finished
    cases Coroutine.result_eq_some hasEnded
    cases result with
    | error error => cases isOk
    | ok returned =>
        rcases keys onlyByKey "font" with ⟨_, _, value, _, _, set, _⟩ |
          ⟨unset, _⟩
        · rw [missing] at set
          cases set
        · exact unset 0 returned "mono" runs rfl

end SettingsUpdates

end Integr8s
