/-
Module: Integr8s.Proofs.SettingsHistory
Purpose: Sequential histories of settings updates and restores: what each call
  does to the store, what the settings are that its user is shown afterwards,
  and that the snapshots don't show in them while they keep rebuilds short.
Trusted boundary: none
Main exports: SettingsHistory.Does, SettingsHistory.SettingsStep,
  SettingsHistory.sequence, SettingsHistory.settled, SettingsHistory.Kept,
  SettingsHistory.snapshots_transparent
-/
import Integr8s.Lib.Machine
import Integr8s.Proofs.SettingsUpdates

namespace Integr8s.SettingsHistory

open UserSettingsService UserSettingsRepository

/-! ### Calls that nobody disturbs -/

/-- Two stores with the same contents, whatever was noted of readings. -/
structure Same (first second : SettingsStore) : Prop where
  clock : first.clock = second.clock
  snapshots : first.snapshots = second.snapshots
  events : first.events = second.events

theorem Same.refl (store : SettingsStore) : Same store store :=
  ⟨rfl, rfl, rfl⟩

theorem Same.symm {first second : SettingsStore} (same : Same first second) :
    Same second first :=
  ⟨same.clock.symm, same.snapshots.symm, same.events.symm⟩

theorem Same.trans {first second third : SettingsStore}
    (one : Same first second) (two : Same second third) :
    Same first third :=
  ⟨one.clock.trans two.clock, one.snapshots.trans two.snapshots,
    one.events.trans two.events⟩

theorem Same.history {first second : SettingsStore} (same : Same first second)
    (userId : UserId) : first.history userId = second.history userId := by
  rw [SettingsStore.history, same.events, SettingsStore.history]

section Commands

variable {caller : Caller} {choice : Choice} {store other : SettingsStore}

private theorem same_noteReading (store : SettingsStore) (caller : Caller)
    (userId : UserId) : Same (store.noteReading caller userId) store := by
  unfold SettingsStore.noteReading
  split <;> exact ⟨rfl, rfl, rfl⟩

theorem Same.findEvents (same : Same store other) (userId : UserId)
    (since notAfter : Option Nat) :
    store.findEvents userId since notAfter =
      other.findEvents userId since notAfter := by
  unfold SettingsStore.findEvents SettingsStore.found
  rw [same.history, same.clock]

variable (caller choice) in
/-- A command answers what the contents of the store say. -/
theorem Same.effect (same : Same store other) (command : SettingsCommand) :
    (store.effect caller choice command).1 =
        (other.effect caller choice command).1 ∧
      Same (store.effect caller choice command).2
        (other.effect caller choice command).2 := by
  cases command with
  | now => exact ⟨congrArg Except.ok same.clock, same⟩
  | findSnapshot userId =>
      exact ⟨congrArg Except.ok (congrFun same.snapshots userId),
        (same_noteReading store caller userId).trans
          (same.trans (same_noteReading other caller userId).symm)⟩
  | findEvents userId since notAfter =>
      exact ⟨congrArg Except.ok (same.findEvents userId since notAfter), same⟩
  | countEvents userId since =>
      exact ⟨congrArg (fun found => Except.ok (List.length found))
        (same.findEvents userId since none), same⟩
  | saveSnapshot settings =>
      have saved : Same (store.writeSnapshot caller choice.fresh settings)
          (other.writeSnapshot caller choice.fresh settings) :=
        ⟨same.clock, by
          simp only [SettingsStore.writeSnapshot, same.snapshots],
          same.events⟩
      simp only [SettingsStore.effect, SettingsStore.saveSnapshot,
        same.snapshots]
      cases other.snapshots settings.userId with
      | none => exact ⟨rfl, saved⟩
      | some existing =>
          by_cases expected : settings.id = existing.id
          · simp only [expected, if_true]
            exact ⟨trivial, saved⟩
          · simp only [expected, if_false]
            exact ⟨trivial, same⟩
  | storeEvent event =>
      refine ⟨rfl, same.clock, same.snapshots, ?_⟩
      simp only [SettingsStore.effect, SettingsStore.storeEvent, same.events,
        same.clock]
  | publish event => exact ⟨rfl, same⟩

/-- So does a whole call. -/
theorem Same.alone {α : Type} (program : SettingsProgram α)
    {result : Except PyException α} {left : SettingsStore}
    (same : Same store other)
    (ran : program.alone (SettingsStore.effect caller choice) store =
      some (result, left)) :
    ∃ otherLeft, program.alone (SettingsStore.effect caller choice) other =
      some (result, otherLeft) ∧ Same left otherLeft := by
  induction program generalizing store other with
  | done value =>
      cases ran
      exact ⟨other, rfl, same⟩
  | await command resume inductionHypothesis =>
      obtain ⟨reply, after⟩ := same.effect caller choice command
      simp only [Coroutine.alone] at ran ⊢
      rw [reply] at ran
      exact inductionHypothesis _ after ran
  | loop body resume => cases ran

end Commands

/-- A call that nobody disturbs returns a value and leaves a store with these
contents. -/
def Does (caller : Caller) (choice : Choice) {α : Type}
    (program : SettingsProgram α) (store : SettingsStore) (value : α)
    (next : SettingsStore) : Prop :=
  ∃ left, program.alone (SettingsStore.effect caller choice) store =
    some (.ok value, left) ∧ Same left next

namespace Does

variable {caller : Caller} {choice : Choice} {α β : Type}
  {store middle next : SettingsStore}

theorem pure (value : α) (store : SettingsStore) :
    Does caller choice (Pure.pure value) store value store :=
  ⟨store, rfl, Same.refl store⟩

/-- One call after the other. -/
theorem bind {first : SettingsProgram α} {rest : α → SettingsProgram β}
    {value : α} {answer : β}
    (begins : Does caller choice first store value middle)
    (goesOn : Does caller choice (rest value) middle answer next) :
    Does caller choice (first >>= rest) store answer next := by
  obtain ⟨left, ran, same⟩ := begins
  obtain ⟨last, goes, sameLast⟩ := goesOn
  obtain ⟨end_, ended, sameEnd⟩ := same.symm.alone (rest value) goes
  refine ⟨end_, ?_, sameEnd.symm.trans sameLast⟩
  rw [Coroutine.bind_eq, Coroutine.bind, Coroutine.alone_andThen, ran]
  exact ended

theorem attempt {first : SettingsProgram α}
    {handler : PyException → SettingsProgram α} {value : α}
    (does : Does caller choice first store value next) :
    Does caller choice (first.attempt handler) store value next := by
  obtain ⟨left, ran, same⟩ := does
  refine ⟨left, ?_, same⟩
  rw [Coroutine.attempt, Coroutine.alone_andThen, ran]
  rfl

/-- A command that goes through. -/
theorem ask {command : SettingsCommand} {reply : SettingsReply command}
    (replies : (store.effect caller choice command).1 = .ok reply)
    (leaves : Same (store.effect caller choice command).2 next) :
    Does caller choice (askStore command) store reply next :=
  ⟨_, by
    rw [askStore, Coroutine.call, Coroutine.alone, replies]
    rfl, leaves⟩

theorem now (store : SettingsStore) :
    Does caller choice (askStore .now) store store.clock store :=
  ask rfl (Same.refl store)

theorem findSnapshot (store : SettingsStore) (userId : UserId) :
    Does caller choice (askStore (.findSnapshot userId)) store
      (store.snapshots userId) store :=
  ask rfl (same_noteReading store caller userId)

theorem findEvents (store : SettingsStore) (userId : UserId)
    (since notAfter : Option Nat) :
    Does caller choice (askStore (.findEvents userId since notAfter)) store
      (store.findEvents userId since notAfter) store :=
  ask rfl (Same.refl store)

theorem countEvents (store : SettingsStore) (userId : UserId)
    (since : Option Nat) :
    Does caller choice (askStore (.countEvents userId since)) store
      (store.findEvents userId since none).length store :=
  ask rfl (Same.refl store)

end Does

/-! ### What a call does -/

/-- The time of an event. -/
abbrev stampOf (stored : StoredSettingsEvent) : Nat := stored.event.timestamp

/-- Whether an event is after one time and not after another. -/
def inTime (since notAfter : Option Nat) (stored : StoredSettingsEvent) :
    Bool :=
  (match since with
    | some bound => decide (bound < stampOf stored)
    | none => true) &&
  (match notAfter with
    | some bound => decide (stampOf stored ≤ bound)
    | none => true)

/-- The events of a user still exist, and were stored in the order of their
times. -/
structure InOrder (store : SettingsStore) (userId : UserId) : Prop where
  sorted : (store.history userId).Pairwise fun first second =>
    stampOf first < stampOf second
  alive : ∀ stored ∈ store.history userId, store.clock < stored.expiresAt

/-- The user's settings as a snapshot, or the defaults. -/
def baseOf (store : SettingsStore) (userId : UserId) : UserSettings :=
  match store.snapshots userId with
  | some snapshot => snapshot.toUserSettings
  | none => {}

/-- The time of the user's snapshot. -/
def sinceOf (store : SettingsStore) (userId : UserId) : Option Nat :=
  (store.snapshots userId).map UserSettingsDocument.updatedAt

/-- The user's events after the snapshot. -/
def tailOf (store : SettingsStore) (userId : UserId) :
    List StoredSettingsEvent :=
  (store.history userId).filter (inTime (sinceOf store userId) none)

/-- The settings with the changes of events. -/
def valuesOf (events : List StoredSettingsEvent) (base : UserSettings) :
    UserSettings :=
  events.foldl settingsReplay.apply base

/-- The settings that a user's snapshot and the events after it make up. -/
def shownValues (store : SettingsStore) (userId : UserId) : UserSettings :=
  valuesOf (tailOf store userId) (baseOf store userId)

/-- The store with a snapshot in the place of the user's. -/
def putSnapshot (fresh : String) (settings : UserSettingsDocument)
    (store : SettingsStore) : SettingsStore :=
  { store with
    snapshots := store.snapshots.insert settings.userId
      { settings with
        id := some (((store.snapshots settings.userId).elim settings.id
          UserSettingsDocument.id).getD fresh) } }

section Calls

variable {caller : Caller} {choice : Choice} {store : SettingsStore}
  {userId : UserId}

/-- A query finds the events of its time, in the order they were stored. -/
theorem findEvents_inOrder (inOrder : InOrder store userId)
    (since notAfter : Option Nat) :
    store.findEvents userId since notAfter =
      ((store.history userId).filter (inTime since notAfter)).map
        StoredSettingsEvent.event := by
  have same : (store.history userId).filter (store.found since notAfter) =
      (store.history userId).filter (inTime since notAfter) := by
    apply List.filter_congr
    intro stored member
    have alive := inOrder.alive stored member
    simp only [SettingsStore.found, alive, decide_true, Bool.true_and]
    rfl
  rw [SettingsStore.findEvents, same, Replay.inOrder,
    List.Pairwise.insertionSort_eq]
  exact (inOrder.sorted.filter _).imp fun before => Nat.le_of_lt before

variable (caller choice) in
/-- A reader is shown the settings that the snapshot and the events after it
make up. -/
theorem does_getUserSettings (inOrder : InOrder store userId)
    (owner : ∀ snapshot, store.snapshots userId = some snapshot →
      snapshot.userId = userId) :
    ∃ shown, Does caller choice (getUserSettings userId) store shown store ∧
      shown.toUserSettings = shownValues store userId ∧
      shown.userId = userId := by
  cases present : store.snapshots userId with
  | some snapshot =>
      have found := findEvents_inOrder inOrder (some snapshot.updatedAt) none
      have folded := SettingsUpdates.foldl_applyEvent
        ((store.history userId).filter
          (inTime (some snapshot.updatedAt) none)) snapshot
      refine ⟨_, ?_, folded.1.trans ?_, folded.2.trans (owner _ present)⟩
      · apply Does.bind (Does.findSnapshot store userId)
        rw [present, ← found]
        exact Does.bind (Does.findEvents store userId _ _) (Does.pure _ store)
      · simp only [shownValues, tailOf, sinceOf, baseOf, present,
          Option.map_some, valuesOf]
  | none =>
      have found := findEvents_inOrder inOrder none none
      have folded := SettingsUpdates.foldl_applyEvent
        ((store.history userId).filter (inTime none none))
        { userId := userId, updatedAt := store.clock }
      refine ⟨_, ?_, folded.1.trans ?_, folded.2⟩
      · apply Does.bind (Does.findSnapshot store userId)
        rw [present, ← found]
        exact Does.bind (Does.now store)
          (Does.bind (Does.findEvents store userId _ _) (Does.pure _ store))
      · simp only [shownValues, tailOf, sinceOf, baseOf, present,
          Option.map_none, valuesOf]

/-- A snapshot takes the place of the user's. -/
theorem does_createSnapshot (settings : UserSettingsDocument) :
    Does caller choice (createSnapshot settings) store ()
      (putSnapshot choice.fresh settings store) := by
  apply Does.bind (Does.findSnapshot store settings.userId)
  cases present : store.snapshots settings.userId with
  | some existing =>
      apply Does.ask
      · simp [SettingsStore.effect, SettingsStore.saveSnapshot, present]
      · refine ⟨?_, ?_, ?_⟩ <;>
          simp [SettingsStore.effect, SettingsStore.saveSnapshot, present,
            SettingsStore.writeSnapshot, putSnapshot]
  | none =>
      apply Does.ask
      · simp [SettingsStore.effect, SettingsStore.saveSnapshot, present]
      · refine ⟨?_, ?_, ?_⟩ <;>
          simp [SettingsStore.effect, SettingsStore.saveSnapshot, present,
            SettingsStore.writeSnapshot, putSnapshot]

/-- An event is stored and published. -/
theorem does_produceOrLog (event : DomainUserSettingsChangedEvent) :
    Does caller choice (UserSettingsService.produceOrLog event) store ()
      (store.storeEvent caller event) :=
  Does.attempt (Does.bind (Does.ask rfl (Same.refl _))
    (Does.ask rfl (Same.refl _)))

/-- What is counted is what is after the snapshot. -/
theorem does_countEvents (inOrder : InOrder store userId) :
    Does caller choice (countEventsSinceSnapshot userId) store
      (tailOf store userId).length store := by
  have found := findEvents_inOrder inOrder (sinceOf store userId) none
  have counted : (tailOf store userId).length =
      (store.findEvents userId (sinceOf store userId) none).length := by
    rw [found, List.length_map, tailOf]
  rw [counted]
  apply Does.bind (Does.findSnapshot store userId)
  cases present : store.snapshots userId with
  | some snapshot =>
      simp only [sinceOf, present, Option.map_some]
      exact Does.countEvents store userId (some snapshot.updatedAt)
  | none =>
      simp only [sinceOf, present, Option.map_none]
      exact Does.countEvents store userId none

/-- The document that an update returns. -/
def updated (current : UserSettingsDocument)
    (event : DomainUserSettingsChangedEvent) : UserSettingsDocument :=
  let current := current.applyEvent event
  { current with version := current.version + 1 }

/-- The event of an update. -/
def changedNow (store : SettingsStore) (userId : UserId)
    (changes : UserSettingsChanges) : DomainUserSettingsChangedEvent :=
  { toUserSettingsChanges := changes
    timestamp := store.clock
    userId := userId }

/-- The store after an event, with a snapshot of the settings when ten events
are after the last one. -/
def storedThen (caller : Caller) (fresh : String)
    (settings : UserSettingsDocument) (event : DomainUserSettingsChangedEvent)
    (store : SettingsStore) : SettingsStore :=
  let store := store.storeEvent caller event
  if 10 ≤ (tailOf store event.userId).length then
    putSnapshot fresh settings store
  else store

variable (caller choice) in
/-- An update that changes something stores its event, and then a snapshot
when one is due. -/
theorem does_updateUserSettings {changes : UserSettingsChanges}
    (changed : changes ≠ {}) (inOrder : InOrder store userId)
    (inOrderThen : InOrder (store.storeEvent caller
      (changedNow store userId changes)) userId)
    (owner : ∀ snapshot, store.snapshots userId = some snapshot →
      snapshot.userId = userId) :
    ∃ current, Does caller choice (getUserSettings userId) store current
        store ∧
      current.toUserSettings = shownValues store userId ∧
      current.userId = userId ∧
      Does caller choice (updateUserSettings userId changes) store
        (updated current (changedNow store userId changes))
        (storedThen caller choice.fresh
          (updated current (changedNow store userId changes))
          (changedNow store userId changes) store) := by
  obtain ⟨current, shows, values, mine⟩ :=
    does_getUserSettings caller choice inOrder owner
  refine ⟨current, shows, values, mine, Does.bind shows ?_⟩
  rw [if_neg changed]
  apply Does.bind (Does.now store)
  apply Does.bind (does_produceOrLog (changedNow store userId changes))
  apply Does.bind (does_countEvents inOrderThen)
  by_cases due : 10 ≤ (tailOf (store.storeEvent caller
      (changedNow store userId changes)) userId).length
  · have last : storedThen caller choice.fresh
        (updated current (changedNow store userId changes))
        (changedNow store userId changes) store =
        putSnapshot choice.fresh
          (updated current (changedNow store userId changes))
          (store.storeEvent caller (changedNow store userId changes)) :=
      if_pos due
    rw [if_pos due, last]
    exact Does.bind (does_createSnapshot _) (Does.pure _ _)
  · have last : storedThen caller choice.fresh
        (updated current (changedNow store userId changes))
        (changedNow store userId changes) store =
        store.storeEvent caller (changedNow store userId changes) :=
      if_neg due
    rw [if_neg due, last]
    exact Does.pure _ _

variable (caller choice) in
/-- An update without changes returns the settings. -/
theorem does_updateNothing (inOrder : InOrder store userId)
    (owner : ∀ snapshot, store.snapshots userId = some snapshot →
      snapshot.userId = userId) :
    ∃ current, Does caller choice (updateUserSettings userId {}) store
        current store ∧
      current.toUserSettings = shownValues store userId := by
  obtain ⟨current, shows, values, -⟩ :=
    does_getUserSettings caller choice inOrder owner
  exact ⟨current, Does.bind shows (Does.pure _ _), values⟩

variable (caller choice) in
/-- A restore stores the settings that the events up to some time make up, and
then an event without changes. -/
theorem does_restoreSettingsToPoint (inOrder : InOrder store userId)
    (timestamp : Nat) :
    ∃ settings, settings.toUserSettings =
        valuesOf ((store.history userId).filter
          (inTime none (some timestamp))) {} ∧
      settings.updatedAt = store.clock ∧ settings.userId = userId ∧
      Does caller choice (restoreSettingsToPoint userId timestamp) store
        settings ((putSnapshot choice.fresh settings store).storeEvent caller
          (changedNow store userId {})) := by
  have found := findEvents_inOrder inOrder none (some timestamp)
  have folded := SettingsUpdates.foldl_applyEvent
    ((store.history userId).filter (inTime none (some timestamp)))
    { userId := userId, updatedAt := store.clock }
  refine ⟨{ (((store.history userId).filter
      (inTime none (some timestamp))).map StoredSettingsEvent.event).foldl
        UserSettingsDocument.applyEvent
        { userId := userId, updatedAt := store.clock } with
      updatedAt := store.clock }, folded.1, rfl, folded.2, ?_⟩
  apply Does.bind (Does.findEvents store userId none (some timestamp))
  apply Does.bind (Does.now store)
  apply Does.bind (Does.now store)
  rw [found]
  apply Does.bind (does_createSnapshot _)
  exact Does.bind (does_produceOrLog _) (Does.pure _ _)

end Calls

/-! ### Histories -/

/-- What a user does: an update, or a restore of the settings to some time. -/
inductive SettingsAction where
  | update (call : SettingsCall)
  | restore (userId : UserId) (timestamp : Nat)

namespace SettingsAction

def userId : SettingsAction → UserId
  | update call => call.userId
  | restore userId _ => userId

def program : SettingsAction → SettingsProgram UserSettingsDocument
  | update call => call.program
  | restore userId timestamp => restoreSettingsToPoint userId timestamp

def isUpdate : SettingsAction → Bool
  | update _ => true
  | restore .. => false

end SettingsAction

/-- An action at a time, and who takes it. -/
structure SettingsStep where
  time : Nat
  caller : Caller
  choice : Choice := {}
  action : SettingsAction

/-- The store, what each user's last call returned, and the time of each
user's last restore with the time that it restored the settings to. -/
structure SettingsLog where
  store : SettingsStore
  returned : UserId → Option (Except PyException UserSettingsDocument) :=
    fun _ => none
  restored : UserId → Option (Nat × Nat) := fun _ => none

/-- The store when its clock shows a time. -/
def showing (store : SettingsStore) (time : Nat) : SettingsStore :=
  { store with clock := time }

/-- A time for a user's next call: after all of the user's events, and before
one of them expires. -/
structure Timely (store : SettingsStore) (userId : UserId) (time : Nat) :
    Prop where
  ordered : store.clock ≤ time
  later : ∀ stored ∈ store.history userId, stampOf stored < time
  alive : ∀ stored ∈ store.history userId, time < stored.expiresAt

instance (store : SettingsStore) (userId : UserId) (time : Nat) :
    Decidable (Timely store userId time) :=
  decidable_of_iff (store.clock ≤ time ∧
      (∀ stored ∈ store.history userId, stampOf stored < time) ∧
      ∀ stored ∈ store.history userId, time < stored.expiresAt)
    ⟨fun ⟨ordered, later, alive⟩ => ⟨ordered, later, alive⟩,
      fun timely => ⟨timely.ordered, timely.later, timely.alive⟩⟩

/-- What is remembered of the last restore. -/
def SettingsLog.notes (log : SettingsLog) (step : SettingsStep) :
    UserId → Option (Nat × Nat) :=
  match step.action with
  | .update _ => log.restored
  | .restore userId timestamp =>
      Function.update log.restored userId (some (step.time, timestamp))

/-- Calls one after the other, each at a time of its own. -/
def sequence : Machine SettingsLog SettingsStep where
  step log step :=
    if Timely log.store step.action.userId step.time then
      (step.action.program.alone
        (SettingsStore.effect step.caller step.choice)
        (showing log.store step.time)).map fun after =>
          { store := after.2
            returned := Function.update log.returned step.action.userId
              (some after.1)
            restored := log.notes step }
    else none

/-- Nothing has happened yet. -/
def newLog (clock : Nat) : SettingsLog where
  store := { clock := clock }

/-- The settings that a user's history comes to: the changes of all events on
the defaults; after a restore, the changes since on the restored settings. -/
def settled (log : SettingsLog) (userId : UserId) : UserSettings :=
  match log.restored userId with
  | none => valuesOf (log.store.history userId) {}
  | some (time, timestamp) =>
      valuesOf ((log.store.history userId).filter (inTime (some time) none))
        (valuesOf ((log.store.history userId).filter fun stored =>
          inTime none (some timestamp) stored &&
            decide (stampOf stored < time)) {})

/-- A user's history is in order, the snapshot and the events after it show
what the history comes to, and so does what the last call returned; and fewer
than ten events are after the snapshot. -/
structure Kept (log : SettingsLog) (userId : UserId) : Prop where
  sorted : (log.store.history userId).Pairwise fun first second =>
    stampOf first < stampOf second
  owner : ∀ snapshot, log.store.snapshots userId = some snapshot →
    snapshot.userId = userId
  since : ∀ bound, sinceOf log.store userId = some bound →
    ∃ stored ∈ log.store.history userId, stampOf stored = bound
  mark : ∀ time timestamp, log.restored userId = some (time, timestamp) →
    ∃ stored ∈ log.store.history userId, stampOf stored = time
  shows : shownValues log.store userId = settled log userId
  answers : ∀ result, log.returned userId = some result →
    ∃ settings, result = .ok settings ∧
      settings.toUserSettings = settled log userId
  few : (tailOf log.store userId).length < 10

section Keeping

variable {log next : SettingsLog} {userId : UserId} {time : Nat}

/-- What holds of a user's history depends on what the store has of the
user. -/
theorem Kept.of_view (kept : Kept log userId)
    (history : next.store.history userId = log.store.history userId)
    (snapshots : next.store.snapshots userId = log.store.snapshots userId)
    (restored : next.restored userId = log.restored userId)
    (returned : next.returned userId = log.returned userId) :
    Kept next userId := by
  have since : sinceOf next.store userId = sinceOf log.store userId := by
    rw [sinceOf, snapshots, sinceOf]
  have tail : tailOf next.store userId = tailOf log.store userId := by
    rw [tailOf, history, since, tailOf]
  have shows : shownValues next.store userId =
      shownValues log.store userId := by
    rw [shownValues, tail, baseOf, snapshots, shownValues, baseOf]
  have settles : settled next userId = settled log userId := by
    rw [settled, restored, history, settled]
  exact
    { sorted := history ▸ kept.sorted
      owner := snapshots ▸ kept.owner
      since := by
        rw [since, history]
        exact kept.since
      mark := by
        rw [restored, history]
        exact kept.mark
      shows := by rw [shows, settles, kept.shows]
      answers := by
        rw [returned, settles]
        exact kept.answers
      few := tail ▸ kept.few }

/-- At a timely moment the user's events are in order. -/
theorem Kept.inOrder (kept : Kept log userId)
    (timely : Timely log.store userId time) :
    InOrder (showing log.store time) userId where
  sorted := kept.sorted
  alive := timely.alive

private theorem valuesOf_append (events : List StoredSettingsEvent)
    (stored : StoredSettingsEvent) (base : UserSettings) :
    valuesOf (events ++ [stored]) base =
      (valuesOf events base).apply stored.event.toUserSettingsChanges := by
  simp [valuesOf, settingsReplay]

/-- The history with one more event of the user. -/
theorem history_storeEvent (store : SettingsStore) (caller : Caller)
    (changes : UserSettingsChanges) :
    (store.storeEvent caller (changedNow store userId changes)).history
        userId =
      store.history userId ++ [SettingsUpdates.storedNow store caller
        (changedNow store userId changes)] := by
  rw [SettingsUpdates.storeEvent_history]
  simp [changedNow]

/-- Another user's history has nothing more. -/
theorem history_storeEvent_other {other : UserId} (different : other ≠ userId)
    (store : SettingsStore) (caller : Caller)
    (changes : UserSettingsChanges) :
    (store.storeEvent caller (changedNow store userId changes)).history
        other = store.history other := by
  rw [SettingsUpdates.storeEvent_history]
  simp [changedNow, different.symm]

/-- The history is in order with the event of now at its end. -/
theorem sorted_storeEvent (store : SettingsStore) (caller : Caller)
    (changes : UserSettingsChanges)
    (sorted : (store.history userId).Pairwise fun first second =>
      stampOf first < stampOf second)
    (later : ∀ stored ∈ store.history userId, stampOf stored < store.clock) :
    ((store.storeEvent caller (changedNow store userId changes)).history
      userId).Pairwise fun first second =>
        stampOf first < stampOf second := by
  rw [history_storeEvent]
  apply List.pairwise_append.mpr
  refine ⟨sorted, List.pairwise_singleton .., ?_⟩
  intro stored member new isNew
  rw [List.mem_singleton.mp isNew]
  exact later stored member

/-- The event of now is after any earlier time. -/
theorem filter_storeEvent {store : SettingsStore} {caller : Caller}
    {changes : UserSettingsChanges} {since : Option Nat}
    (earlier : ∀ bound, since = some bound → bound < store.clock) :
    ((store.storeEvent caller (changedNow store userId changes)).history
        userId).filter (inTime since none) =
      (store.history userId).filter (inTime since none) ++
        [SettingsUpdates.storedNow store caller
          (changedNow store userId changes)] := by
  have after : inTime since none (SettingsUpdates.storedNow store caller
      (changedNow store userId changes)) = true := by
    cases since with
    | none => rfl
    | some bound =>
        have before := earlier bound rfl
        simp [inTime, stampOf, SettingsUpdates.storedNow, changedNow, before]
  rw [history_storeEvent, List.filter_append]
  simp [after]

/-- Nothing is after now. -/
theorem filter_now (store : SettingsStore) (caller : Caller)
    (changes : UserSettingsChanges)
    (later : ∀ stored ∈ store.history userId, stampOf stored < store.clock) :
    ((store.storeEvent caller (changedNow store userId changes)).history
      userId).filter (inTime (some store.clock) none) = [] := by
  apply List.filter_eq_nil_iff.mpr
  intro stored member
  rw [history_storeEvent] at member
  have notAfter : stampOf stored ≤ store.clock := by
    rcases List.mem_append.mp member with before | new
    · exact Nat.le_of_lt (later stored before)
    · rw [List.mem_singleton.mp new]
      exact Nat.le_refl _
  simp only [inTime, Bool.and_true, decide_eq_true_eq]
  omega

theorem Kept.sinceBefore (kept : Kept log userId)
    (timely : Timely log.store userId time) (bound : Nat)
    (since : sinceOf log.store userId = some bound) : bound < time := by
  obtain ⟨stored, member, same⟩ := kept.since bound since
  exact same ▸ timely.later stored member

theorem Kept.markBefore (kept : Kept log userId)
    (timely : Timely log.store userId time) (mark timestamp : Nat)
    (restored : log.restored userId = some (mark, timestamp)) :
    mark < time := by
  obtain ⟨stored, member, same⟩ := kept.mark mark timestamp restored
  exact same ▸ timely.later stored member

/-- The history comes to one change more with the event of now. -/
theorem Kept.settled_stored (kept : Kept log userId)
    (timely : Timely log.store userId time) {caller : Caller}
    {changes : UserSettingsChanges}
    (history : next.store.history userId =
      ((showing log.store time).storeEvent caller
        (changedNow (showing log.store time) userId changes)).history userId)
    (restored : next.restored userId = log.restored userId) :
    settled next userId = (settled log userId).apply changes := by
  unfold settled
  rw [restored, history]
  cases marked : log.restored userId with
  | none =>
      rw [history_storeEvent]
      exact valuesOf_append ..
  | some pair =>
      obtain ⟨mark, timestamp⟩ := pair
      have before := kept.markBefore timely mark timestamp marked
      have early : (((showing log.store time).storeEvent caller
          (changedNow (showing log.store time) userId changes)).history
            userId).filter (fun stored => inTime none (some timestamp) stored &&
              decide (stampOf stored < mark)) =
          (log.store.history userId).filter fun stored =>
            inTime none (some timestamp) stored &&
              decide (stampOf stored < mark) := by
        rw [history_storeEvent, List.filter_append]
        have late : ¬ time < mark := by omega
        simp [SettingsUpdates.storedNow, changedNow, showing, late,
          SettingsStore.history]
      simp only
      rw [early, filter_storeEvent (fun bound same => by
        cases same
        exact before)]
      exact valuesOf_append ..

/-- A snapshot of now shows what the history comes to. -/
theorem kept_of_snapshot (store : SettingsStore) {caller : Caller}
    {changes : UserSettingsChanges} {snapshot : UserSettingsDocument}
    (sorted : (store.history userId).Pairwise fun first second =>
      stampOf first < stampOf second)
    (later : ∀ stored ∈ store.history userId, stampOf stored < store.clock)
    (history : next.store.history userId = (store.storeEvent caller
      (changedNow store userId changes)).history userId)
    (placed : next.store.snapshots userId = some snapshot)
    (mine : snapshot.userId = userId)
    (stamped : snapshot.updatedAt = store.clock)
    (values : snapshot.toUserSettings = settled next userId)
    (mark : ∀ mark timestamp, next.restored userId = some (mark, timestamp) →
      ∃ stored ∈ next.store.history userId, stampOf stored = mark)
    (answers : ∀ result, next.returned userId = some result →
      ∃ settings, result = .ok settings ∧
        settings.toUserSettings = settled next userId) :
    Kept next userId := by
  have since : sinceOf next.store userId = some store.clock := by
    rw [sinceOf, placed, Option.map_some, stamped]
  have tail : tailOf next.store userId = [] := by
    rw [tailOf, since, history]
    exact filter_now store caller changes later
  exact
    { sorted := by
        rw [history]
        exact sorted_storeEvent store caller changes sorted later
      owner := by
        intro other present
        cases placed.symm.trans present
        exact mine
      since := by
        intro bound same
        cases since.symm.trans same
        rw [history, history_storeEvent]
        exact ⟨_, List.mem_append_right _ (List.mem_singleton_self _), rfl⟩
      mark := mark
      shows := by
        rw [shownValues, tail, baseOf, placed]
        exact values
      answers := answers
      few := by
        rw [tail]
        exact Nat.zero_lt_succ 9 }

/-- An update keeps the history. -/
theorem Kept.stored (kept : Kept log userId)
    (timely : Timely log.store userId time) {caller : Caller}
    {fresh : String} {changes : UserSettingsChanges}
    {current : UserSettingsDocument}
    (values : current.toUserSettings =
      shownValues (showing log.store time) userId)
    (mine : current.userId = userId)
    (store : next.store = storedThen caller fresh
      (updated current (changedNow (showing log.store time) userId changes))
      (changedNow (showing log.store time) userId changes)
      (showing log.store time))
    (restored : next.restored userId = log.restored userId)
    (returned : next.returned userId = some (.ok (updated current
      (changedNow (showing log.store time) userId changes)))) :
    Kept next userId := by
  have later : ∀ stored ∈ (showing log.store time).history userId,
      stampOf stored < (showing log.store time).clock := timely.later
  have sorted := sorted_storeEvent (showing log.store time) caller changes
    kept.sorted later
  have history : next.store.history userId =
      ((showing log.store time).storeEvent caller
        (changedNow (showing log.store time) userId changes)).history
          userId := by
    rw [store, storedThen]
    split <;> rfl
  have settles := kept.settled_stored timely history restored
  have shownBefore : shownValues (showing log.store time) userId =
      settled log userId := kept.shows
  have returns : (updated current (changedNow (showing log.store time) userId
      changes)).toUserSettings = settled next userId := by
    rw [settles, ← shownBefore, ← values]
    rfl
  have answers : ∀ result, next.returned userId = some result →
      ∃ settings, result = .ok settings ∧
        settings.toUserSettings = settled next userId := by
    intro result also
    rw [returned] at also
    cases also
    exact ⟨_, rfl, returns⟩
  have kept_mark : ∀ mark timestamp,
      next.restored userId = some (mark, timestamp) →
        ∃ stored ∈ next.store.history userId, stampOf stored = mark := by
    intro mark timestamp marked
    rw [restored] at marked
    obtain ⟨stored, member, same⟩ := kept.mark mark timestamp marked
    rw [history, history_storeEvent]
    exact ⟨stored, List.mem_append_left _ member, same⟩
  by_cases due : 10 ≤ (tailOf ((showing log.store time).storeEvent caller
      (changedNow (showing log.store time) userId changes)) userId).length
  · have last : next.store = putSnapshot fresh
        (updated current (changedNow (showing log.store time) userId changes))
        ((showing log.store time).storeEvent caller
          (changedNow (showing log.store time) userId changes)) := by
      rw [store]
      exact if_pos due
    have placed : ∃ id, next.store.snapshots userId = some
        { updated current (changedNow (showing log.store time) userId
            changes) with id := id } := by
      rw [last, putSnapshot]
      simp [updated, UserSettingsDocument.applyEvent, mine]
    obtain ⟨id, placed⟩ := placed
    exact kept_of_snapshot (showing log.store time) kept.sorted later history
      placed mine rfl returns kept_mark answers
  · have last : next.store = (showing log.store time).storeEvent caller
        (changedNow (showing log.store time) userId changes) := by
      rw [store]
      exact if_neg due
    have tail : tailOf next.store userId =
        tailOf (showing log.store time) userId ++
          [SettingsUpdates.storedNow (showing log.store time) caller
            (changedNow (showing log.store time) userId changes)] := by
      rw [last]
      exact filter_storeEvent (kept.sinceBefore timely)
    exact
      { sorted := by
          rw [history]
          exact sorted
        owner := by
          rw [last]
          exact kept.owner
        since := by
          intro bound since
          rw [last] at since
          obtain ⟨stored, member, same⟩ := kept.since bound since
          rw [history, history_storeEvent]
          exact ⟨stored, List.mem_append_left _ member, same⟩
        mark := kept_mark
        shows := by
          rw [shownValues, tail, valuesOf_append, settles, ← shownBefore,
            last]
          rfl
        answers := answers
        few := by
          rw [last]
          exact not_le.mp due }

/-- An update without changes keeps the history. -/
theorem Kept.unchanged (kept : Kept log userId) {current : UserSettingsDocument}
    (values : current.toUserSettings =
      shownValues (showing log.store time) userId)
    (store : next.store = showing log.store time)
    (restored : next.restored userId = log.restored userId)
    (returned : next.returned userId = some (.ok current)) :
    Kept next userId := by
  have same : Kept { log with store := showing log.store time } userId :=
    kept.of_view rfl rfl rfl rfl
  have settles : settled next userId = settled log userId := by
    unfold settled
    rw [restored, store]
    rfl
  exact
    { sorted := store ▸ same.sorted
      owner := store ▸ same.owner
      since := store ▸ same.since
      mark := by
        rw [restored, store]
        exact kept.mark
      shows := by
        rw [settles, store]
        exact kept.shows
      answers := by
        intro result also
        rw [returned] at also
        cases also
        rw [settles, ← kept.shows]
        exact ⟨current, rfl, values⟩
      few := store ▸ same.few }

/-- A restore keeps the history: it comes to the settings that the restore
returns. -/
theorem Kept.restores (kept : Kept log userId)
    (timely : Timely log.store userId time) {caller : Caller}
    {fresh : String} {timestamp : Nat} {settings : UserSettingsDocument}
    (values : settings.toUserSettings =
      valuesOf ((log.store.history userId).filter
        (inTime none (some timestamp))) {})
    (stamped : settings.updatedAt = time) (mine : settings.userId = userId)
    (store : next.store =
      (putSnapshot fresh settings (showing log.store time)).storeEvent caller
        (changedNow (showing log.store time) userId {}))
    (restored : next.restored userId = some (time, timestamp))
    (returned : next.returned userId = some (.ok settings)) :
    Kept next userId := by
  have later : ∀ stored ∈ (showing log.store time).history userId,
      stampOf stored < (showing log.store time).clock := timely.later
  have history : next.store.history userId =
      ((showing log.store time).storeEvent caller
        (changedNow (showing log.store time) userId {})).history userId := by
    rw [store]
    rfl
  have early : (next.store.history userId).filter (fun stored =>
      inTime none (some timestamp) stored &&
        decide (stampOf stored < time)) =
      (log.store.history userId).filter (inTime none (some timestamp)) := by
    rw [history, history_storeEvent, List.filter_append]
    have now : ¬ (showing log.store time).clock < time := Nat.lt_irrefl _
    have last : [SettingsUpdates.storedNow (showing log.store time) caller
        (changedNow (showing log.store time) userId {})].filter (fun stored =>
          inTime none (some timestamp) stored &&
            decide (stampOf stored < time)) = [] := by
      simp [SettingsUpdates.storedNow, changedNow, now]
    rw [last, List.append_nil]
    apply List.filter_congr
    intro stored member
    have before : stampOf stored < time := timely.later stored member
    simp [before]
  have settles : settled next userId = settings.toUserSettings := by
    have after := filter_now (showing log.store time) caller {} later
    rw [settled, restored]
    simp only
    rw [early, history, values]
    rw [show (showing log.store time).clock = time from rfl] at after
    rw [after]
    rfl
  have placed : ∃ id, next.store.snapshots userId =
      some { settings with id := id } := by
    rw [store, putSnapshot]
    simp [SettingsStore.storeEvent, mine]
  obtain ⟨id, placed⟩ := placed
  apply kept_of_snapshot (showing log.store time) kept.sorted later history
    placed mine stamped settles.symm
  · intro mark target marked
    cases restored.symm.trans marked
    rw [history, history_storeEvent]
    exact ⟨_, List.mem_append_right _ (List.mem_singleton_self _), rfl⟩
  · intro result also
    cases returned.symm.trans also
    exact ⟨settings, rfl, settles.symm⟩

end Keeping

/-! ### Runs -/

section Runs

variable {log next : SettingsLog} {userId : UserId} {time : Nat}
  {caller : Caller} {choice : Choice}

/-- What a call leaves of the other users is what there was. -/
def Frames (userId : UserId) (before after : SettingsStore) : Prop :=
  ∀ other, other ≠ userId →
    after.history other = before.history other ∧
      after.snapshots other = before.snapshots other

theorem frames_putSnapshot {fresh : String} {settings : UserSettingsDocument}
    (store : SettingsStore) (mine : settings.userId = userId) :
    Frames userId store (putSnapshot fresh settings store) := by
  intro other different
  refine ⟨rfl, ?_⟩
  rw [putSnapshot, mine]
  exact Collection.insert_other _ different _

theorem frames_storeEvent (store : SettingsStore)
    (changes : UserSettingsChanges) :
    Frames userId store
      (store.storeEvent caller (changedNow store userId changes)) :=
  fun _ different =>
    ⟨history_storeEvent_other different store caller changes, rfl⟩

theorem Frames.trans {first second third : SettingsStore}
    (one : Frames userId first second) (two : Frames userId second third) :
    Frames userId first third :=
  fun other different =>
    ⟨(two other different).1.trans (one other different).1,
      (two other different).2.trans (one other different).2⟩

/-- The store with the event of an update, and a snapshot when one is due,
differs only for the user. -/
theorem frames_storedThen {fresh : String} {settings : UserSettingsDocument}
    (store : SettingsStore) (changes : UserSettingsChanges)
    (mine : settings.userId = userId) :
    Frames userId store (storedThen caller fresh settings
      (changedNow store userId changes) store) := by
  simp only [storedThen]
  split
  · exact (frames_storeEvent store changes).trans
      (frames_putSnapshot _ mine)
  · exact frames_storeEvent store changes

/-- A user's history has the events of one time more. -/
def Grows (time : Nat) (userId : UserId) (before after : SettingsStore) :
    Prop :=
  ∃ new, after.history userId = before.history userId ++ new ∧
    ∀ stored ∈ new, stampOf stored = time

private theorem grows_of_history {before after : SettingsStore}
    (same : after.history userId = before.history userId) :
    Grows time userId before after :=
  ⟨[], by rw [same, List.append_nil], List.forall_mem_nil _⟩

private theorem grows_storeEvent (store : SettingsStore)
    (changes : UserSettingsChanges) :
    Grows store.clock userId store
      (store.storeEvent caller (changedNow store userId changes)) := by
  refine ⟨_, history_storeEvent store caller changes, ?_⟩
  intro stored new
  rw [List.mem_singleton.mp new]
  rfl

theorem grows_storedThen {fresh : String} {settings : UserSettingsDocument}
    (store : SettingsStore) (changes : UserSettingsChanges) :
    Grows store.clock userId store (storedThen caller fresh settings
      (changedNow store userId changes) store) := by
  simp only [storedThen]
  split
  · exact grows_storeEvent store changes
  · exact grows_storeEvent store changes

/-- The log after a call. -/
def SettingsLog.after (log : SettingsLog) (step : SettingsStep)
    (result : Except PyException UserSettingsDocument) (store : SettingsStore) :
    SettingsLog where
  store := store
  returned := Function.update log.returned step.action.userId (some result)
  restored := log.notes step

/-- A call does what keeps its user's history, and leaves the others'. -/
structure Proceeds (log : SettingsLog) (step : SettingsStep)
    (value : UserSettingsDocument) (store : SettingsStore) : Prop where
  does : Does step.caller step.choice step.action.program
    (showing log.store step.time) value store
  kept : Kept (log.after step (.ok value) store) step.action.userId
  frames : Frames step.action.userId log.store store
  grows : Grows step.time step.action.userId log.store store

/-- An event of a timely moment doesn't disturb the order of the others. -/
theorem Kept.inOrderThen (kept : Kept log userId)
    (timely : Timely log.store userId time) (changes : UserSettingsChanges) :
    InOrder ((showing log.store time).storeEvent caller
      (changedNow (showing log.store time) userId changes)) userId where
  sorted := sorted_storeEvent (showing log.store time) caller changes
    kept.sorted timely.later
  alive := by
    intro stored member
    rw [history_storeEvent] at member
    rcases List.mem_append.mp member with before | new
    · exact timely.alive stored before
    · rw [List.mem_singleton.mp new]
      exact Nat.lt_add_of_pos_right (by decide)

variable (caller choice) in
/-- An update proceeds. -/
theorem Kept.proceedsUpdate (kept : Kept log userId)
    (timely : Timely log.store userId time) (changes : UserSettingsChanges) :
    ∃ value store,
      Does caller choice (updateUserSettings userId changes)
        (showing log.store time) value store ∧
      Frames userId log.store store ∧ Grows time userId log.store store ∧
      ∀ next : SettingsLog, next.store = store →
        next.restored userId = log.restored userId →
          next.returned userId = some (.ok value) → Kept next userId := by
  have owner : ∀ snapshot, (showing log.store time).snapshots userId =
      some snapshot → snapshot.userId = userId := kept.owner
  by_cases changed : changes = {}
  · obtain ⟨current, does, values⟩ := does_updateNothing caller choice
      (kept.inOrder timely) owner
    rw [changed]
    refine ⟨current, _, does, fun _ _ => ⟨rfl, rfl⟩, grows_of_history rfl, ?_⟩
    intro next store restored returned
    exact kept.unchanged values store restored returned
  · obtain ⟨current, -, values, mine, does⟩ :=
      does_updateUserSettings caller choice changed
        (kept.inOrder timely) (kept.inOrderThen timely changes) owner
    refine ⟨_, _, does, frames_storedThen _ changes mine,
      grows_storedThen _ changes, ?_⟩
    intro next store restored returned
    exact kept.stored timely values mine store restored returned

/-- Every call at a timely moment proceeds. -/
theorem Kept.proceeds {step : SettingsStep}
    (kept : Kept log step.action.userId)
    (timely : Timely log.store step.action.userId step.time) :
    ∃ value store, Proceeds log step value store := by
  obtain ⟨time, caller, choice, action⟩ := step
  cases action with
  | update call =>
      cases call with
      | updateUserSettings userId changes =>
          obtain ⟨value, store, does, frames, grows, keeps⟩ :=
            kept.proceedsUpdate caller choice timely changes
          exact ⟨value, store, does,
            keeps _ rfl rfl (Function.update_self ..), frames, grows⟩
      | updateCustomSetting userId key custom =>
          have owner : ∀ snapshot, (showing log.store time).snapshots userId =
              some snapshot → snapshot.userId = userId := kept.owner
          obtain ⟨current, reads, -⟩ :=
            does_getUserSettings caller choice (kept.inOrder timely) owner
          obtain ⟨value, store, does, frames, grows, keeps⟩ :=
            kept.proceedsUpdate caller choice timely
              { customSettings :=
                  some (current.customSettings.insert key custom) }
          exact ⟨value, store, Does.bind reads does,
            keeps _ rfl rfl (Function.update_self ..), frames, grows⟩
  | restore userId timestamp =>
      obtain ⟨settings, values, stamped, mine, does⟩ :=
        does_restoreSettingsToPoint caller choice
          (kept.inOrder timely) timestamp
      refine ⟨settings, _, does, ?_, ?_, grows_storeEvent _ {}⟩
      · exact kept.restores timely values stamped mine rfl
          (Function.update_self ..) (Function.update_self ..)
      · exact (frames_putSnapshot _ mine).trans (frames_storeEvent _ {})

/-- What a call that goes through comes to in a run. -/
theorem step_of_does (step : SettingsStep) {value : UserSettingsDocument}
    {store : SettingsStore}
    (timely : Timely log.store step.action.userId step.time)
    (does : Does step.caller step.choice step.action.program
      (showing log.store step.time) value store) :
    ∃ left, sequence.step log step = some (log.after step (.ok value) left) ∧
      Same left store := by
  obtain ⟨left, ran, same⟩ := does
  refine ⟨left, ?_, same⟩
  simp only [sequence, if_pos timely, ran, Option.map_some]
  rfl

/-- The user's and the other users' histories are kept by a step. -/
theorem Proceeds.keeps {step : SettingsStep} {value : UserSettingsDocument}
    {store left : SettingsStore} (proceeds : Proceeds log step value store)
    (same : Same left store) (kept : ∀ userId, Kept log userId)
    (userId : UserId) : Kept (log.after step (.ok value) left) userId := by
  by_cases acting : userId = step.action.userId
  · rw [acting]
    exact proceeds.kept.of_view (same.history _)
      (congrFun same.snapshots _) rfl rfl
  · obtain ⟨history, snapshots⟩ := proceeds.frames userId acting
    apply (kept userId).of_view ((same.history userId).trans history)
      ((congrFun same.snapshots userId).trans snapshots)
    · cases action : step.action with
      | update call => simp [SettingsLog.after, SettingsLog.notes, action]
      | restore other timestamp =>
          rw [action] at acting
          simp only [SettingsLog.after, SettingsLog.notes, action]
          exact Function.update_of_ne acting _ _
    · exact Function.update_of_ne acting _ _

private theorem timely_of_step {step : SettingsStep}
    (stepped : sequence.step log step = some next) :
    Timely log.store step.action.userId step.time := by
  by_contra late
  simp [sequence, late] at stepped

/-- Every user's history is kept by a step. -/
theorem kept_step {step : SettingsStep} (kept : ∀ userId, Kept log userId)
    (stepped : sequence.step log step = some next) (userId : UserId) :
    Kept next userId := by
  have timely := timely_of_step stepped
  obtain ⟨value, store, proceeds⟩ := (kept step.action.userId).proceeds timely
  obtain ⟨left, steps, same⟩ := step_of_does step timely proceeds.does
  cases steps.symm.trans stepped
  exact proceeds.keeps same kept userId

/-- Every user's history grows by events of the step's time. -/
theorem grows_step {step : SettingsStep} (kept : ∀ userId, Kept log userId)
    (stepped : sequence.step log step = some next) (userId : UserId) :
    Grows step.time userId log.store next.store := by
  have timely := timely_of_step stepped
  obtain ⟨value, store, proceeds⟩ := (kept step.action.userId).proceeds timely
  obtain ⟨left, steps, same⟩ := step_of_does step timely proceeds.does
  cases steps.symm.trans stepped
  by_cases acting : userId = step.action.userId
  · obtain ⟨new, grown, times⟩ := proceeds.grows
    rw [acting]
    exact ⟨new, (same.history _).trans grown, times⟩
  · exact grows_of_history
      ((same.history userId).trans (proceeds.frames userId acting).1)

theorem kept_newLog (clock : Nat) (userId : UserId) :
    Kept (newLog clock) userId where
  sorted := List.Pairwise.nil
  owner := by
    intro snapshot present
    cases present
  since := by
    intro bound present
    cases present
  mark := by
    intro time timestamp present
    cases present
  shows := rfl
  answers := by
    intro result present
    cases present
  few := Nat.zero_lt_succ 9

/-- Every user's history is kept by a run. -/
theorem kept_run {clock : Nat} {steps : List SettingsStep}
    (reached : sequence.run (newLog clock) steps = some log)
    (userId : UserId) : Kept log userId :=
  sequence.run_invariant' (fun log => ∀ userId, Kept log userId)
    (fun _ _ _ kept stepped => kept_step kept stepped) (kept_newLog clock)
    reached userId

/-- The settings that a reader is shown at a moment. -/
def shownAt (reader : Caller) (choice : Choice) (store : SettingsStore)
    (time : Nat) (userId : UserId) : Option (Except PyException UserSettings) :=
  ((getUserSettings userId).alone (SettingsStore.effect reader choice)
    (showing store time)).map fun after =>
      after.1.map UserSettingsDocument.toUserSettings

variable (caller choice) in
/-- While no event expires a reader is shown what the history comes to. -/
theorem Kept.shown (kept : Kept log userId)
    (alive : ∀ stored ∈ log.store.history userId, time < stored.expiresAt) :
    shownAt caller choice log.store time userId =
      some (.ok (settled log userId)) := by
  have inOrder : InOrder (showing log.store time) userId :=
    ⟨kept.sorted, alive⟩
  have owner : ∀ snapshot, (showing log.store time).snapshots userId =
      some snapshot → snapshot.userId = userId := kept.owner
  obtain ⟨shown, ⟨left, ran, -⟩, values, -⟩ :=
    does_getUserSettings caller choice inOrder owner
  have same : shown.toUserSettings = settled log userId :=
    values.trans kept.shows
  rw [shownAt, ran, Option.map_some, ← same]
  rfl

private theorem restored_step {step : SettingsStep}
    (stepped : sequence.step log step = some next) :
    next.restored = log.notes step := by
  simp only [sequence, if_pos (timely_of_step stepped),
    Option.map_eq_some_iff] at stepped
  obtain ⟨after, -, rfl⟩ := stepped
  rfl

/-- A run of updates restores nothing. -/
theorem restored_of_updates {clock : Nat} {steps : List SettingsStep}
    (updates : ∀ step ∈ steps, step.action.isUpdate = true)
    (reached : sequence.run (newLog clock) steps = some log) :
    log.restored userId = none := by
  apply sequence.run_invariant (fun _ step => step.action.isUpdate = true)
    (fun log => log.restored userId = none) ?_ rfl
    (sequence.along_of_labels (fun step member _ => updates step member) _)
    reached
  intro before step after nothing isUpdate stepped
  rw [restored_step stepped, SettingsLog.notes]
  cases action : step.action with
  | update call => exact nothing
  | restore other timestamp =>
      rw [action] at isUpdate
      cases isUpdate

/-- The fold of events in order is the one in the order of the times. -/
theorem rebuild_eq_valuesOf {events : List StoredSettingsEvent}
    (sorted : events.Pairwise fun first second =>
      stampOf first < stampOf second) (base : UserSettings) :
    settingsReplay.rebuild base events = valuesOf events base := by
  rw [Replay.rebuild, Replay.inOrder, List.Pairwise.insertionSort_eq, valuesOf]
  exact sorted.imp fun before => Nat.le_of_lt before

/-- After updates one after the other, with no event expired, a user is shown
the changes of the whole history on the defaults, which is what the last update
returned; and fewer than ten events are after the latest snapshot. -/
theorem snapshots_transparent {clock : Nat} {steps : List SettingsStep}
    (updates : ∀ step ∈ steps, step.action.isUpdate = true)
    (reached : sequence.run (newLog clock) steps = some log)
    (userId : UserId) :
    (∀ time reader choice,
      (∀ stored ∈ log.store.history userId, time < stored.expiresAt) →
        shownAt reader choice log.store time userId =
          some (.ok (settingsReplay.rebuild {} (log.store.history userId)))) ∧
    (∀ result, log.returned userId = some result →
      result.map UserSettingsDocument.toUserSettings =
        .ok (settingsReplay.rebuild {} (log.store.history userId))) ∧
    (tailOf log.store userId).length < 10 := by
  have kept := kept_run reached userId
  have settles : settled log userId =
      settingsReplay.rebuild {} (log.store.history userId) := by
    rw [settled, restored_of_updates updates reached,
      rebuild_eq_valuesOf kept.sorted]
  rw [← settles]
  refine ⟨fun _ _ _ alive => kept.shown _ _ alive, ?_, kept.few⟩
  intro result returned
  obtain ⟨settings, ok, same⟩ := kept.answers result returned
  rw [ok, ← same]
  rfl

/-- Twelve updates of one user. -/
def twelveUpdates : List SettingsStep :=
  (List.range 12).map fun n =>
    { time := n + 1
      caller := n
      action := .update (.updateUserSettings "alice"
        (if n % 2 = 0 then { theme := some .dark }
          else { timeFormat := some "12h" })) }

theorem snapshots_transparent_twelve :
    ∃ log, sequence.run (newLog 0) twelveUpdates = some log ∧
      (log.store.snapshots "alice").isSome = true ∧
      shownAt 12 {} log.store 13 "alice" =
        some (.ok (settingsReplay.rebuild {} (log.store.history "alice"))) ∧
      (tailOf log.store "alice").length < 10 := by
  have facts : ((sequence.run (newLog 0) twelveUpdates).map fun log =>
      ((log.store.snapshots "alice").isSome, decide (∀ stored ∈
        log.store.history "alice", 13 < stored.expiresAt))) =
          some (true, true) := by
    decide +kernel
  obtain ⟨log, reached, both⟩ := Option.map_eq_some_iff.mp facts
  obtain ⟨snapshot, alive⟩ := Prod.mk.inj both
  obtain ⟨shows, -, few⟩ :=
    snapshots_transparent (by decide) reached "alice"
  exact ⟨log, reached, snapshot, shows 13 12 {} (of_decide_eq_true alive),
    few⟩

end Runs

end Integr8s.SettingsHistory
