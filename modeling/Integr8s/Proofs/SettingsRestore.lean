/-
Module: Integr8s.Proofs.SettingsRestore
Purpose: When a restore of the settings to a point brings back what they were
  at that point, over all sequential histories of updates and restores.
Trusted boundary: none
Main exports: SettingsRestore.RestoresPoint, SettingsRestore.LeftAlone,
  SettingsRestore.restores_point_iff
-/
import Integr8s.Proofs.SettingsHistory

namespace Integr8s.SettingsRestore

open SettingsHistory SettingsUpdates

variable {past log next : SettingsLog} {userId : UserId} {timestamp : Nat}

/-! ### The history up to a point -/

/-- The events of a user up to a time. -/
def upTo (timestamp : Nat) (store : SettingsStore) (userId : UserId) :
    List StoredSettingsEvent :=
  (store.history userId).filter (inTime none (some timestamp))

/-- What was so of a log and is true of every later one. -/
structure Continues (past log : SettingsLog) (userId : UserId)
    (timestamp : Nat) : Prop where
  kept : ∀ userId, Kept log userId
  early : upTo timestamp log.store userId = past.store.history userId
  includes : ∀ stored ∈ past.store.history userId,
    stored ∈ log.store.history userId

variable (userId) in
/-- Up to a time, all events are of it. -/
theorem upTo_past {clock : Nat} {before : List SettingsStep}
    (early : ∀ step ∈ before, step.time ≤ timestamp)
    (reached : sequence.run (newLog clock) before = some past) :
    (∀ userId, Kept past userId) ∧
      ∀ stored ∈ past.store.history userId, stampOf stored ≤ timestamp := by
  apply sequence.run_invariant (fun _ step => step.time ≤ timestamp)
    (fun log => (∀ userId, Kept log userId) ∧
      ∀ stored ∈ log.store.history userId, stampOf stored ≤ timestamp)
    ?_ ⟨kept_newLog clock, List.forall_mem_nil _⟩
    (sequence.along_of_labels (fun step member _ => early step member) _)
    reached
  intro log step next invariant inTime stepped
  obtain ⟨kept, stamps⟩ := invariant
  refine ⟨kept_step kept stepped, ?_⟩
  obtain ⟨new, grown, times⟩ := grows_step kept stepped userId
  intro stored member
  rw [grown] at member
  rcases List.mem_append.mp member with old | isNew
  · exact stamps stored old
  · rw [times stored isNew]
    exact inTime

/-- After a time, the events up to it stay what they were. -/
theorem continues_run {after : List SettingsStep}
    (late : ∀ step ∈ after, timestamp < step.time)
    (kept : ∀ userId, Kept past userId)
    (early : ∀ stored ∈ past.store.history userId,
      stampOf stored ≤ timestamp)
    (reached : sequence.run past after = some log) :
    Continues past log userId timestamp := by
  have atFirst : upTo timestamp past.store userId =
      past.store.history userId := by
    apply List.filter_eq_self.mpr
    intro stored member
    simpa [inTime] using early stored member
  apply sequence.run_invariant (fun _ step => timestamp < step.time)
    (fun log => Continues past log userId timestamp) ?_
    ⟨kept, atFirst, fun _ member => member⟩
    (sequence.along_of_labels (fun step member _ => late step member) _)
    reached
  intro log step next continues isLate stepped
  obtain ⟨new, grown, times⟩ := grows_step continues.kept stepped userId
  refine ⟨kept_step continues.kept stepped, ?_, ?_⟩
  · have nothing : new.filter (inTime none (some timestamp)) = [] := by
      apply List.filter_eq_nil_iff.mpr
      intro stored isNew
      have stamp := times stored isNew
      simp only [inTime, Bool.true_and, decide_eq_true_eq]
      omega
    rw [upTo, grown, List.filter_append, nothing, List.append_nil]
    exact continues.early
  · intro stored member
    rw [grown]
    exact List.mem_append_left _ (continues.includes stored member)

/-! ### What the history and its replay make of the settings -/

/-- What the last of some events that sets a field sets it to. -/
def lastSet (field : SettingsField) (events : List StoredSettingsEvent) :
    Option field.Value :=
  (fieldRegister field).last events

/-- A field has what the last event that sets it has set it to. -/
theorem field_valuesOf (field : SettingsField)
    (events : List StoredSettingsEvent) (base : UserSettings) :
    (valuesOf events base).field field =
      (lastSet field events).getD (base.field field) :=
  (fieldRegister field).read_foldl events base

/-- The changes up to a time, and then those after it. -/
theorem valuesOf_split (kept : Kept log userId) (bound : Nat)
    (base : UserSettings) :
    valuesOf (log.store.history userId) base =
      valuesOf ((log.store.history userId).filter (inTime (some bound) none))
        (valuesOf (upTo bound log.store userId) base) := by
  have since : settingsReplay.since bound (log.store.history userId) =
      (log.store.history userId).filter (inTime (some bound) none) := by
    apply List.filter_congr
    intro stored _
    exact (Bool.and_true _).symm
  have split : settingsReplay.rebuild base (log.store.history userId) =
      settingsReplay.rebuild
        (settingsReplay.rebuild base
          (settingsReplay.upTo bound (log.store.history userId)))
        (settingsReplay.since bound (log.store.history userId)) :=
    Replay.rebuild_split bound base _
  rw [since, rebuild_eq_valuesOf kept.sorted,
    rebuild_eq_valuesOf (kept.sorted.filter _)] at split
  rw [split]
  exact congrArg _ (rebuild_eq_valuesOf (kept.sorted.filter _) base)

/-- No restore of the user was made, or the last one, at `time` to
`timestamp`, leaves no trace: each field was set again after it, or the last
change of the field among those up to the restored point comes to what the last
one among those up to the restore comes to. -/
def LeftAlone (log : SettingsLog) (userId : UserId) : Prop :=
  ∀ time timestamp, log.restored userId = some (time, timestamp) →
    ∀ field,
      (lastSet field ((log.store.history userId).filter
        (inTime (some time) none))).isSome = true ∨
      (lastSet field ((log.store.history userId).filter fun stored =>
          inTime none (some timestamp) stored &&
            decide (stampOf stored < time))).getD
          (({} : UserSettings).field field) =
        (lastSet field (upTo time log.store userId)).getD
          (({} : UserSettings).field field)

private theorem getD_eq_getD {α : Type} (option : Option α) (first second : α) :
    option.getD first = option.getD second ↔
      option.isSome = true ∨ first = second := by
  cases option with
  | none => simp
  | some value => simp

/-- The whole history comes to the settings exactly when the last restore
leaves no trace. -/
theorem settled_eq_iff (kept : Kept log userId) :
    settled log userId = valuesOf (log.store.history userId) {} ↔
      LeftAlone log userId := by
  cases marked : log.restored userId with
  | none =>
      have same : settled log userId =
          valuesOf (log.store.history userId) {} := by
        rw [settled, marked]
      constructor
      · intro _ time timestamp restored
        cases marked.symm.trans restored
      · intro _
        exact same
  | some pair =>
      obtain ⟨time, timestamp⟩ := pair
      have fields (field : SettingsField) :
          (settled log userId).field field =
              (valuesOf (log.store.history userId) {}).field field ↔
            (lastSet field ((log.store.history userId).filter
              (inTime (some time) none))).isSome = true ∨
            (lastSet field ((log.store.history userId).filter fun stored =>
                inTime none (some timestamp) stored &&
                  decide (stampOf stored < time))).getD
                (({} : UserSettings).field field) =
              (lastSet field (upTo time log.store userId)).getD
                (({} : UserSettings).field field) := by
        rw [valuesOf_split kept time, settled, marked]
        simp only [field_valuesOf]
        exact getD_eq_getD _ _ _
      constructor
      · intro same other target restored field
        cases marked.symm.trans restored
        exact (fields field).mp (congrArg (UserSettings.field · field) same)
      · intro leftAlone
        exact UserSettings.eq_of_fields fun field =>
          (fields field).mpr (leftAlone time timestamp marked field)

/-! ### Restores -/

/-- A restore to a time, made later, returns the settings that a reader was
shown at that time, and readers are shown them from then on. -/
def RestoresPoint (past log : SettingsLog) (userId : UserId)
    (timestamp time : Nat) (caller : Caller) (choice : Choice) : Prop :=
  ∃ values settings next,
    shownAt caller choice past.store (min timestamp time) userId =
      some (.ok values) ∧
    sequence.step log
      { time, caller, choice, action := .restore userId timestamp } =
        some next ∧
    next.returned userId = some (.ok settings) ∧
    settings.toUserSettings = values ∧
    ∀ moment reader readerChoice,
      (∀ stored ∈ next.store.history userId, moment < stored.expiresAt) →
        shownAt reader readerChoice next.store moment userId =
          some (.ok values)

variable (timestamp) in
/-- A restore returns, and shows from then on, what the events up to its point
make of the defaults. -/
theorem restore_step {time : Nat} (kept : ∀ userId, Kept log userId)
    (timely : Timely log.store userId time) (caller : Caller)
    (choice : Choice) :
    ∃ settings next,
      sequence.step log
        { time, caller, choice, action := .restore userId timestamp } =
          some next ∧
      next.returned userId = some (.ok settings) ∧
      settings.toUserSettings =
        valuesOf (upTo timestamp log.store userId) {} ∧
      Kept next userId ∧
      settled next userId = valuesOf (upTo timestamp log.store userId) {} := by
  obtain ⟨settings, values, -, -, does⟩ :=
    does_restoreSettingsToPoint caller choice ((kept userId).inOrder timely)
      timestamp
  obtain ⟨left, stepped, -⟩ := step_of_does
    { time, caller, choice, action := .restore userId timestamp } timely does
  have keeps := kept_step kept stepped userId
  have returned : (log.after
      { time, caller, choice, action := .restore userId timestamp }
      (.ok settings) left).returned userId = some (.ok settings) :=
    Function.update_self ..
  obtain ⟨answer, ok, settles⟩ := keeps.answers _ returned
  cases ok
  exact ⟨settings, _, stepped, returned, values, keeps, settles.symm.trans values⟩

/-- A restore to a time brings back what was shown then exactly when the last
restore before leaves no trace in the settings of that time.  A restore replays
update events only, so what an earlier restore had taken away comes back with
it. -/
theorem restores_point_iff {clock time : Nat} {before after : List SettingsStep}
    (early : ∀ step ∈ before, step.time ≤ timestamp)
    (late : ∀ step ∈ after, timestamp < step.time)
    (reachedPast : sequence.run (newLog clock) before = some past)
    (reached : sequence.run past after = some log)
    (timely : Timely log.store userId time) (caller : Caller)
    (choice : Choice) :
    RestoresPoint past log userId timestamp time caller choice ↔
      LeftAlone past userId := by
  obtain ⟨keptPast, stamps⟩ := upTo_past userId early reachedPast
  have continues := continues_run late keptPast stamps reached
  obtain ⟨settings, next, stepped, returned, values, keeps, settles⟩ :=
    restore_step timestamp continues.kept timely caller choice
  rw [continues.early] at values settles
  have alive : ∀ stored ∈ past.store.history userId,
      min timestamp time < stored.expiresAt := by
    intro stored member
    exact lt_of_le_of_lt (Nat.min_le_right _ _)
      (timely.alive stored (continues.includes stored member))
  have shown := (keptPast userId).shown caller choice alive
  rw [← settled_eq_iff (keptPast userId)]
  constructor
  · intro restores
    obtain ⟨other, document, last, shownThen, steps, returns, same, -⟩ :=
      restores
    cases stepped.symm.trans steps
    cases returned.symm.trans returns
    cases shown.symm.trans shownThen
    exact same.symm.trans values
  · intro same
    refine ⟨_, settings, next, shown, stepped, returned,
      values.trans same.symm, ?_⟩
    intro moment reader readerChoice aliveThen
    rw [same, ← settles]
    exact keeps.shown _ _ aliveThen

/-- Back to the first theme, and then to the moment of that restore. -/
def backAndForth : List SettingsStep :=
  [{ time := 1
     caller := 0
     action := .update (.updateUserSettings "alice" { theme := some .dark }) },
   { time := 2
     caller := 1
     action := .update
       (.updateUserSettings "alice" { theme := some .light }) },
   { time := 3
     caller := 2
     action := .restore "alice" 1 }]

/-- A restore to that moment. -/
def again : SettingsStep where
  time := 4
  caller := 3
  action := .restore "alice" 3

/-- A restore to the second theme finds it. -/
theorem restores_point_light :
    ∃ past log, sequence.run (newLog 0) (backAndForth.take 2) = some past ∧
      sequence.run past (backAndForth.drop 2) = some log ∧
      RestoresPoint past log "alice" 2 4 3 {} := by
  have facts : ((sequence.run (newLog 0) (backAndForth.take 2)).bind fun past =>
      (sequence.run past (backAndForth.drop 2)).map fun log =>
        (past.restored "alice", decide (Timely log.store "alice" 4))) =
          some (none, true) := by
    decide +kernel
  obtain ⟨past, reachedPast, rest⟩ := Option.bind_eq_some_iff.mp facts
  obtain ⟨log, reached, both⟩ := Option.map_eq_some_iff.mp rest
  obtain ⟨nothing, timely⟩ := Prod.mk.inj both
  refine ⟨past, log, reachedPast, reached,
    (restores_point_iff (by decide) (by decide) reachedPast reached
      (of_decide_eq_true timely) 3 {}).mpr ?_⟩
  intro time timestamp restored
  cases nothing.symm.trans restored

/-- A restore to the moment of a restore brings back the theme that the first
one took away. -/
theorem undone_by_restore :
    ∃ log, sequence.run (newLog 0) backAndForth = some log ∧
      (∀ step ∈ backAndForth, step.time ≤ 3) ∧
      ¬ RestoresPoint log log "alice" 3 4 3 {} := by
  have facts : ((sequence.run (newLog 0) backAndForth).map fun log =>
      ((shownAt 3 {} log.store 3 "alice").map fun shown =>
          shown.map UserSettings.theme,
        (sequence.step log again).map fun next =>
          (next.returned "alice").map fun returned =>
            returned.map fun settings => settings.theme)) =
        some (some (.ok .dark), some (some (.ok .light))) := by
    decide +kernel
  obtain ⟨log, reached, both⟩ := Option.map_eq_some_iff.mp facts
  obtain ⟨dark, light⟩ := Prod.mk.inj both
  refine ⟨log, reached, by decide, ?_⟩
  intro restores
  obtain ⟨values, settings, next, shown, stepped, returned, same, -⟩ := restores
  have themeThen : values.theme = .dark := by
    have shownDark := (congrArg (Option.map fun shown =>
      shown.map UserSettings.theme) shown).symm.trans dark
    simpa [Except.map] using shownDark
  have themeNow : settings.theme = .light := by
    rw [show again = { time := 4, caller := 3, action := .restore "alice" 3 }
      from rfl, stepped, Option.map_some, returned] at light
    simpa [Except.map] using light
  rw [← same, themeNow] at themeThen
  cases themeThen

end Integr8s.SettingsRestore
