/-
Module: Integr8s.Proofs.SettingsVersions
Purpose: The version of a user's settings over sequential histories of updates:
  it is bumped on a copy and stored with every tenth update only, so no update
  has a version of its own that the next reader is shown.
Trusted boundary: none
Main exports: SettingsVersions.Changes, SettingsVersions.CountsUpdate,
  SettingsVersions.counted_run, SettingsVersions.never_counts
-/
import Integr8s.Proofs.SettingsHistory

namespace Integr8s.SettingsVersions

open SettingsHistory UserSettingsService

/-! ### The version that a reader is shown -/

/-- The version of a user's snapshot, or that of the defaults. -/
def storedVersion (store : SettingsStore) (userId : UserId) : Nat :=
  ((store.snapshots userId).map UserSettingsDocument.version).getD 1

/-- The version that a reader is shown at a moment. -/
def shownVersion (reader : Caller) (choice : Choice) (store : SettingsStore)
    (time : Nat) (userId : UserId) : Option (Except PyException Nat) :=
  ((getUserSettings userId).alone (SettingsStore.effect reader choice)
    (showing store time)).map fun after =>
      after.1.map UserSettingsDocument.version

/-- Events don't carry the version. -/
theorem version_foldl (events : List DomainUserSettingsChangedEvent)
    (document : UserSettingsDocument) :
    (events.foldl UserSettingsDocument.applyEvent document).version =
      document.version := by
  induction events generalizing document with
  | nil => rfl
  | cons event events ih =>
      rw [List.foldl_cons, ih]
      rfl

private theorem userId_foldl (events : List DomainUserSettingsChangedEvent)
    (document : UserSettingsDocument) :
    (events.foldl UserSettingsDocument.applyEvent document).userId =
      document.userId := by
  induction events generalizing document with
  | nil => rfl
  | cons event events ih =>
      rw [List.foldl_cons, ih]
      rfl

section Reading

variable (caller : Caller) (choice : Choice) (store : SettingsStore)
  (userId : UserId)

/-- A user's snapshot is the user's. -/
def Owned (store : SettingsStore) (userId : UserId) : Prop :=
  ∀ snapshot, store.snapshots userId = some snapshot →
    snapshot.userId = userId

/-- A reader is shown the stored version, whatever events there are. -/
theorem does_getVersion :
    ∃ shown, Does caller choice (getUserSettings userId) store shown store ∧
      shown.version = storedVersion store userId ∧
      (Owned store userId → shown.userId = userId) := by
  cases present : store.snapshots userId with
  | some snapshot =>
      let events := store.findEvents userId (some snapshot.updatedAt) none
      refine ⟨events.foldl UserSettingsDocument.applyEvent snapshot, ?_, ?_,
        ?_⟩
      · apply Does.bind (Does.findSnapshot store userId)
        rw [present]
        exact Does.bind (Does.findEvents store userId _ _) (Does.pure _ store)
      · rw [version_foldl, storedVersion, present]
        rfl
      · intro owned
        rw [userId_foldl, owned _ present]
  | none =>
      let events := store.findEvents userId none none
      refine ⟨events.foldl UserSettingsDocument.applyEvent
        { userId := userId, updatedAt := store.clock }, ?_, ?_, ?_⟩
      · apply Does.bind (Does.findSnapshot store userId)
        rw [present]
        exact Does.bind (Does.now store)
          (Does.bind (Does.findEvents store userId _ _) (Does.pure _ store))
      · rw [version_foldl, storedVersion, present]
        rfl
      · intro _
        rw [userId_foldl]

private theorem shownVersion_eq (time : Nat) :
    shownVersion caller choice store time userId =
      some (.ok (storedVersion store userId)) := by
  obtain ⟨shown, ⟨left, ran, -⟩, version, -⟩ :=
    does_getVersion caller choice (showing store time) userId
  rw [shownVersion, ran, Option.map_some, Except.map, version]
  rfl

end Reading

/-! ### What an update does to the version -/

/-- How many of a user's events a query for those after the snapshot finds. -/
def countOf (store : SettingsStore) (userId : UserId) : Nat :=
  (store.findEvents userId (sinceOf store userId) none).length

/-- The store after an event, with a snapshot of the settings when ten events
that are after the last one still exist. -/
def storedWhenDue (caller : Caller) (fresh : String)
    (settings : UserSettingsDocument) (event : DomainUserSettingsChangedEvent)
    (store : SettingsStore) : SettingsStore :=
  let store := store.storeEvent caller event
  if 10 ≤ countOf store event.userId then putSnapshot fresh settings store
  else store

section Updates

variable {caller : Caller} {choice : Choice} {store : SettingsStore}
  {userId : UserId} {changes : UserSettingsChanges}

private theorem does_count :
    Does caller choice (UserSettingsRepository.countEventsSinceSnapshot userId)
      store (countOf store userId) store := by
  apply Does.bind (Does.findSnapshot store userId)
  cases present : store.snapshots userId with
  | some snapshot =>
      simp only [countOf, sinceOf, present, Option.map_some]
      exact Does.countEvents store userId _
  | none =>
      simp only [countOf, sinceOf, present, Option.map_none]
      exact Does.countEvents store userId none

variable (caller choice) in
/-- An update returns the stored version and one; what it stores of it is a
snapshot when one is due. -/
theorem does_update (changed : changes ≠ {}) (owned : Owned store userId) :
    ∃ current,
      Does caller choice (updateUserSettings userId changes) store
        (updated current (changedNow store userId changes))
        (storedWhenDue caller choice.fresh
          (updated current (changedNow store userId changes))
          (changedNow store userId changes) store) ∧
      current.version = storedVersion store userId ∧
      current.userId = userId := by
  obtain ⟨current, shows, version, mine⟩ :=
    does_getVersion caller choice store userId
  refine ⟨current, Does.bind shows ?_, version, mine owned⟩
  rw [if_neg changed]
  apply Does.bind (Does.now store)
  apply Does.bind (does_produceOrLog (changedNow store userId changes))
  apply Does.bind does_count
  by_cases due : 10 ≤ countOf (store.storeEvent caller
      (changedNow store userId changes)) userId
  · have last : storedWhenDue caller choice.fresh
        (updated current (changedNow store userId changes))
        (changedNow store userId changes) store = putSnapshot choice.fresh
          (updated current (changedNow store userId changes))
          (store.storeEvent caller (changedNow store userId changes)) :=
      if_pos due
    rw [if_pos due, last]
    exact Does.bind (does_createSnapshot _) (Does.pure _ _)
  · have last : storedWhenDue caller choice.fresh
        (updated current (changedNow store userId changes))
        (changedNow store userId changes) store =
        store.storeEvent caller (changedNow store userId changes) :=
      if_neg due
    rw [if_neg due, last]
    exact Does.pure _ _

end Updates

/-! ### Histories -/

/-- A call that changes something. -/
def Changes : SettingsCall → Prop
  | .updateUserSettings _ changes => changes ≠ {}
  | .updateCustomSetting .. => True

/-- A step is an update that changes something. -/
def IsChange (step : SettingsStep) : Prop :=
  ∃ call, step.action = .update call ∧ Changes call

/-- Calls one after the other, at times that don't go back; events may expire
between them. -/
def inTurn : Machine SettingsLog SettingsStep where
  step log step :=
    if log.store.clock ≤ step.time then
      (step.action.program.alone
        (SettingsStore.effect step.caller step.choice)
        (showing log.store step.time)).map fun after =>
          log.after step after.1 after.2
    else none

/-- What is asked of an update: it returns a greater version than the one
before, and the version that readers are shown then. -/
structure CountsUpdate (log next : SettingsLog) (userId : UserId) : Prop where
  advances : ∀ previous settings,
    log.returned userId = some (.ok previous) →
      next.returned userId = some (.ok settings) →
        previous.version < settings.version
  shown : ∀ settings, next.returned userId = some (.ok settings) →
    ∀ reader choice time, next.store.clock ≤ time →
      shownVersion reader choice next.store time userId =
        some (.ok settings.version)

section Steps

variable {log next : SettingsLog} {step : SettingsStep}

/-- What an update of a user does to the log. -/
theorem does_change (change : IsChange step)
    (owned : Owned log.store step.action.userId) :
    ∃ current changes,
      Does step.caller step.choice step.action.program
        (showing log.store step.time)
        (updated current (changedNow (showing log.store step.time)
          step.action.userId changes))
        (storedWhenDue step.caller step.choice.fresh
          (updated current (changedNow (showing log.store step.time)
            step.action.userId changes))
          (changedNow (showing log.store step.time) step.action.userId changes)
          (showing log.store step.time)) ∧
      current.version = storedVersion log.store step.action.userId ∧
      current.userId = step.action.userId := by
  obtain ⟨time, caller, choice, action⟩ := step
  obtain ⟨call, rfl, changed⟩ := change
  cases call with
  | updateUserSettings userId changes =>
      obtain ⟨current, does, version, mine⟩ :=
        does_update caller choice changed
          (show Owned (showing log.store time) userId from owned)
      exact ⟨current, changes, does, version, mine⟩
  | updateCustomSetting userId key value =>
      obtain ⟨read, reads, -⟩ :=
        does_getVersion caller choice (showing log.store time) userId
      have some_change :
          { customSettings :=
              some (read.customSettings.insert key value) } ≠
            ({} : UserSettingsChanges) := by
        simp
      obtain ⟨current, does, version, mine⟩ :=
        does_update caller choice some_change
          (show Owned (showing log.store time) userId from owned)
      exact ⟨current, _, Does.bind reads does, version, mine⟩

/-- What comes of a step that updates the settings. -/
theorem step_change (change : IsChange step)
    (owned : Owned log.store step.action.userId)
    (stepped : inTurn.step log step = some next) :
    log.store.clock ≤ step.time ∧
    ∃ current changes left,
      let event := changedNow (showing log.store step.time)
        step.action.userId changes
      next = log.after step (.ok (updated current event)) left ∧
      Same left (storedWhenDue step.caller step.choice.fresh
        (updated current event) event (showing log.store step.time)) ∧
      current.version = storedVersion log.store step.action.userId ∧
      current.userId = step.action.userId := by
  have ordered : log.store.clock ≤ step.time := by
    by_contra back
    simp [inTurn, back] at stepped
  obtain ⟨current, changes, ⟨left, ran, same⟩, version, mine⟩ :=
    does_change change owned
  refine ⟨ordered, current, changes, left, ?_, same, version, mine⟩
  simp only [inTurn, if_pos ordered, ran, Option.map_some,
    Option.some.injEq] at stepped
  exact stepped.symm

end Steps

/-! ### What is stored of the versions -/

/-- The snapshot is no older than any event. -/
def Covered (store : SettingsStore) (userId : UserId) : Prop :=
  ∃ since, sinceOf store userId = some since ∧
    ∀ stored ∈ store.history userId, stampOf stored ≤ since

private theorem storedVersion_of_same {first second : SettingsStore}
    (same : Same first second) (userId : UserId) :
    storedVersion first userId = storedVersion second userId := by
  rw [storedVersion, same.snapshots, storedVersion]

private theorem covered_of_same {first second : SettingsStore}
    (same : Same first second) (userId : UserId) :
    Covered first userId = Covered second userId := by
  rw [Covered, sinceOf, same.snapshots, same.history, Covered, sinceOf]

section Stored

variable {caller : Caller} {fresh : String} {store : SettingsStore}
  {userId : UserId} {changes : UserSettingsChanges}
  {settings : UserSettingsDocument}

variable (caller changes) in
/-- A first event, or the first one after a snapshot, makes none due. -/
theorem countOf_le_one
    (few : store.history userId = [] ∨ Covered store userId) :
    countOf (store.storeEvent caller (changedNow store userId changes))
      userId ≤ 1 := by
  have since : sinceOf (store.storeEvent caller
      (changedNow store userId changes)) userId = sinceOf store userId := rfl
  have none_before : (store.history userId).filter
      (store.found (sinceOf store userId) none) = [] := by
    rcases few with empty | ⟨bound, same, covered⟩
    · rw [empty, List.filter_nil]
    · apply List.filter_eq_nil_iff.mpr
      intro stored member
      rw [same]
      simp [SettingsStore.found, covered stored member]
  rw [countOf, since, SettingsStore.findEvents, List.length_map,
    Replay.inOrder, List.length_insertionSort, history_storeEvent,
    List.filter_append, List.length_append]
  have before : ((store.history userId).filter
      ((store.storeEvent caller (changedNow store userId changes)).found
        (sinceOf store userId) none)).length = 0 :=
    List.length_eq_zero_iff.mpr none_before
  rw [before, Nat.zero_add]
  exact List.length_filter_le _ _

variable (caller fresh settings changes) in
/-- An update's event is stored, and the version only when a snapshot is. -/
theorem storedWhenDue_cases (mine : settings.userId = userId)
    (stamped : settings.updatedAt = store.clock)
    (past : ∀ stored ∈ store.history userId, stampOf stored ≤ store.clock) :
    let next := storedWhenDue caller fresh settings
      (changedNow store userId changes) store
    next.clock = store.clock ∧ Frames userId store next ∧
    (∀ stored ∈ next.history userId, stampOf stored ≤ store.clock) ∧
    (storedVersion next userId = storedVersion store userId ∧
        next.snapshots userId = store.snapshots userId ∨
      ¬ (store.history userId = [] ∨ Covered store userId) ∧
        Covered next userId ∧
        ∃ id, next.snapshots userId = some { settings with id := id }) := by
  have stamps : ∀ stored ∈ (store.storeEvent caller
      (changedNow store userId changes)).history userId,
      stampOf stored ≤ store.clock := by
    intro stored member
    rw [history_storeEvent] at member
    rcases List.mem_append.mp member with old | new
    · exact past stored old
    · rw [List.mem_singleton.mp new]
      exact le_rfl
  by_cases due : 10 ≤ countOf (store.storeEvent caller
      (changedNow store userId changes)) userId
  · have last : storedWhenDue caller fresh settings
        (changedNow store userId changes) store = putSnapshot fresh settings
          (store.storeEvent caller (changedNow store userId changes)) :=
      if_pos due
    obtain ⟨id, placed⟩ : ∃ id, (putSnapshot fresh settings
        (store.storeEvent caller (changedNow store userId changes))).snapshots
          userId = some { settings with id := id } := by
      simp [putSnapshot, mine]
    simp only [last]
    refine ⟨rfl, (frames_storeEvent store changes).trans
      (frames_putSnapshot _ mine), stamps, .inr ⟨?_, ?_, id, placed⟩⟩
    · intro few
      have one := countOf_le_one caller changes few
      omega
    · refine ⟨store.clock, ?_, stamps⟩
      rw [sinceOf, placed, Option.map_some, stamped]
  · have last : storedWhenDue caller fresh settings
        (changedNow store userId changes) store =
          store.storeEvent caller (changedNow store userId changes) :=
      if_neg due
    simp only [last]
    exact ⟨rfl, frames_storeEvent store changes, stamps, .inl ⟨rfl, rfl⟩⟩

end Stored

/-! ### Every update -/

/-- What a user's last update returned is one more than the stored version, or
a snapshot was stored with it. -/
structure Tracked (log : SettingsLog) (userId : UserId) : Prop where
  owned : Owned log.store userId
  past : ∀ stored ∈ log.store.history userId,
    stampOf stored ≤ log.store.clock
  last : log.store.history userId = [] ∨ Covered log.store userId ∨
    ∃ settings, log.returned userId = some (.ok settings) ∧
      settings.version = storedVersion log.store userId + 1

section Runs

variable {log next : SettingsLog} {step : SettingsStep}

private theorem returned_after (log : SettingsLog) (step : SettingsStep)
    (settings : UserSettingsDocument) (store : SettingsStore) :
    (log.after step (.ok settings) store).returned step.action.userId =
      some (.ok settings) :=
  Function.update_self ..

/-- A step of another user leaves a user's versions alone. -/
theorem Tracked.of_other {userId : UserId} (tracked : Tracked log userId)
    (history : next.store.history userId = log.store.history userId)
    (snapshots : next.store.snapshots userId = log.store.snapshots userId)
    (returned : next.returned userId = log.returned userId)
    (ordered : log.store.clock ≤ next.store.clock) : Tracked next userId := by
  have since : sinceOf next.store userId = sinceOf log.store userId := by
    rw [sinceOf, snapshots, sinceOf]
  constructor
  · rw [Owned, snapshots]
    exact tracked.owned
  · rw [history]
    exact fun stored member => (tracked.past stored member).trans ordered
  · rw [Covered, history, since, returned, storedVersion, snapshots]
    exact tracked.last

/-- What an update of a user leaves: its event, and the version that it
returned only if a snapshot was due, which it isn't with a first event or right
after a snapshot. -/
structure Leaves (log : SettingsLog) (step : SettingsStep)
    (settings : UserSettingsDocument) (left : SettingsStore) : Prop where
  ordered : log.store.clock ≤ left.clock
  version : settings.version = storedVersion log.store step.action.userId + 1
  owned : Owned left step.action.userId
  frames : Frames step.action.userId log.store left
  past : ∀ stored ∈ left.history step.action.userId,
    stampOf stored ≤ left.clock
  stored : storedVersion left step.action.userId =
      storedVersion log.store step.action.userId ∨
    Covered left step.action.userId ∧
      ¬ (log.store.history step.action.userId = [] ∨
        Covered log.store step.action.userId)

private theorem step_leaves (change : IsChange step)
    (tracked : Tracked log step.action.userId)
    (stepped : inTurn.step log step = some next) :
    ∃ settings left, next = log.after step (.ok settings) left ∧
      Leaves log step settings left := by
  obtain ⟨ordered, current, changes, left, rfl, same, version, mine⟩ :=
    step_change change tracked.owned stepped
  obtain ⟨clock, frames, past, stored⟩ := storedWhenDue_cases
    step.caller step.choice.fresh changes
    (updated current (changedNow (showing log.store step.time)
      step.action.userId changes)) mine rfl
    (fun stored member => (tracked.past stored member).trans ordered)
  refine ⟨_, left, rfl, ?_⟩
  rw [← storedVersion_of_same same, ← same.snapshots,
    ← covered_of_same same] at stored
  exact
    { ordered := by
        rw [same.clock, clock]
        exact ordered
      version := congrArg (· + 1) version
      owned := by
        intro snapshot present
        rcases stored with ⟨-, kept⟩ | ⟨-, -, id, placed⟩
        · exact tracked.owned snapshot (kept.symm.trans present)
        · cases placed.symm.trans present
          exact mine
      frames := fun userId other =>
        ⟨(same.history userId).trans (frames userId other).1,
          (congrFun same.snapshots userId).trans (frames userId other).2⟩
      past := by
        rw [same.history, same.clock, clock]
        exact past
      stored := stored.imp And.left fun due => ⟨due.2.1, due.1⟩ }

/-- An update keeps the versions tracked. -/
theorem Leaves.tracked {settings : UserSettingsDocument} {left : SettingsStore}
    (leaves : Leaves log step settings left)
    (tracked : ∀ userId, Tracked log userId) (userId : UserId) :
    Tracked (log.after step (.ok settings) left) userId := by
  by_cases acting : userId = step.action.userId
  · rw [acting]
    refine ⟨leaves.owned, leaves.past, .inr ?_⟩
    rcases leaves.stored with kept | ⟨covered, -⟩
    · refine .inr ⟨settings, returned_after log step settings left, ?_⟩
      rw [leaves.version, ← kept]
      rfl
    · exact .inl covered
  · obtain ⟨history, snapshots⟩ := leaves.frames userId acting
    exact (tracked userId).of_other history snapshots
      (Function.update_of_ne acting _ _) leaves.ordered

/-- An update doesn't count as asked: either readers are shown an older version
than the one it returned, or the update before returned the same one. -/
theorem Leaves.not_counts {settings : UserSettingsDocument}
    {left : SettingsStore} (leaves : Leaves log step settings left)
    (tracked : Tracked log step.action.userId) :
    ¬ CountsUpdate log (log.after step (.ok settings) left)
      step.action.userId := by
  intro counts
  have returned := returned_after log step settings left
  have shown := counts.shown _ returned step.caller step.choice _ le_rfl
  rw [shownVersion_eq] at shown
  have shows : storedVersion left step.action.userId = settings.version :=
    Except.ok.inj (Option.some.inj shown)
  rcases leaves.stored with kept | ⟨-, many⟩
  · have bumped := shows.symm.trans kept
    rw [leaves.version] at bumped
    exact Nat.succ_ne_self _ bumped
  · rcases tracked.last with empty | covered | ⟨previous, was, one⟩
    · exact many (.inl empty)
    · exact many (.inr covered)
    · have more := counts.advances previous _ was returned
      rw [leaves.version, one] at more
      exact Nat.lt_irrefl _ more

private theorem tracked_newLog (clock : Nat) (userId : UserId) :
    Tracked (newLog clock) userId where
  owned := fun _ present => nomatch present
  past := List.forall_mem_nil _
  last := .inl rfl

/-- The versions are tracked along every history of updates. -/
theorem tracked_run {clock : Nat} {steps : List SettingsStep}
    (changes : ∀ step ∈ steps, IsChange step)
    (reached : inTurn.run (newLog clock) steps = some log)
    (userId : UserId) : Tracked log userId := by
  apply inTurn.run_invariant (fun _ step => IsChange step)
    (fun log => ∀ userId, Tracked log userId) ?_ (tracked_newLog clock)
    (inTurn.along_of_labels (fun step member _ => changes step member) _)
    reached
  intro log step next tracked change stepped
  obtain ⟨settings, left, rfl, leaves⟩ :=
    step_leaves change (tracked step.action.userId) stepped
  exact leaves.tracked tracked

end Runs

/-- In every history of updates no update counts as asked: it doesn't both
return a greater version than the one before and the version that its user is
shown next. -/
theorem never_counts {clock : Nat} {before : List SettingsStep}
    {step : SettingsStep} {log next : SettingsLog}
    (changes : ∀ earlier ∈ before, IsChange earlier)
    (change : IsChange step)
    (reached : inTurn.run (newLog clock) before = some log)
    (stepped : inTurn.step log step = some next) :
    ¬ CountsUpdate log next step.action.userId := by
  have tracked := tracked_run changes reached
  obtain ⟨settings, left, rfl, leaves⟩ :=
    step_leaves change (tracked step.action.userId) stepped
  exact leaves.not_counts (tracked step.action.userId)

/-- A change of the theme. -/
def darkTheme (time : Nat) : SettingsStep where
  time := time
  caller := time
  action := .update (.updateUserSettings "alice" { theme := some .dark })

private theorem darkTheme_changes (time : Nat) : IsChange (darkTheme time) :=
  ⟨_, rfl, fun nothing => by cases congrArg UserSettingsChanges.theme nothing⟩

/-- The version that a user's last update returned. -/
def returnedVersion (log : SettingsLog) (userId : UserId) : Option Nat :=
  (log.returned userId).bind fun result =>
    result.toOption.map UserSettingsDocument.version

private theorem returned_of_version {log : SettingsLog} {userId : UserId}
    {version : Nat} (returned : returnedVersion log userId = some version) :
    ∃ settings, log.returned userId = some (.ok settings) ∧
      settings.version = version := by
  cases last : log.returned userId with
  | none => simp [returnedVersion, last] at returned
  | some result =>
      cases result with
      | error error => simp [returnedVersion, last, Except.toOption] at returned
      | ok settings =>
          refine ⟨settings, rfl, ?_⟩
          simpa [returnedVersion, last, Except.toOption] using returned

/-- The logs after two changes of the theme, and their versions. -/
theorem twoChanges :
    ∃ first second, inTurn.run (newLog 0) [darkTheme 1] = some first ∧
      inTurn.step first (darkTheme 2) = some second ∧
      returnedVersion first "alice" = some 2 ∧
      storedVersion first.store "alice" = 1 ∧
      returnedVersion second "alice" = some 2 := by
  have facts : ((inTurn.run (newLog 0) [darkTheme 1]).bind fun first =>
      (inTurn.step first (darkTheme 2)).map fun second =>
        (returnedVersion first "alice", storedVersion first.store "alice",
          returnedVersion second "alice")) = some (some 2, 1, some 2) := by
    decide +kernel
  obtain ⟨first, reached, rest⟩ := Option.bind_eq_some_iff.mp facts
  obtain ⟨second, stepped, versions⟩ := Option.map_eq_some_iff.mp rest
  simp only [Prod.mk.injEq] at versions
  exact ⟨first, second, reached, stepped, versions⟩

/-- Of two updates the second, too, doesn't count. -/
theorem never_counts_second :
    ∃ first second, inTurn.run (newLog 0) [darkTheme 1] = some first ∧
      inTurn.step first (darkTheme 2) = some second ∧
      ¬ CountsUpdate first second "alice" := by
  obtain ⟨first, second, reached, stepped, -⟩ := twoChanges
  refine ⟨first, second, reached, stepped, ?_⟩
  exact never_counts
    (fun step member => by
      rw [List.mem_singleton.mp member]
      exact darkTheme_changes 1)
    (darkTheme_changes 2) reached stepped

/-- A first update returns the version 2 while its user is shown the version 1
next, and a second one returns the version 2 again. -/
theorem version_repeated :
    ∃ first second, inTurn.run (newLog 0) [darkTheme 1] = some first ∧
      inTurn.step first (darkTheme 2) = some second ∧
      ¬ CountsUpdate (newLog 0) first "alice" ∧
      ¬ CountsUpdate first second "alice" := by
  obtain ⟨first, second, reached, stepped, two, one, again⟩ := twoChanges
  obtain ⟨settings, returned, version⟩ := returned_of_version two
  obtain ⟨others, returns, repeated⟩ := returned_of_version again
  refine ⟨first, second, reached, stepped, fun counts => ?_, fun counts => ?_⟩
  · have shown := counts.shown settings returned 3 {} _ le_rfl
    rw [shownVersion_eq, one, version] at shown
    cases shown
  · have more := counts.advances settings others returned returns
    rw [version, repeated] at more
    exact Nat.lt_irrefl _ more

end Integr8s.SettingsVersions
