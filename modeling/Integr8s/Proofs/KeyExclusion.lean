/-
Module: Integr8s.Proofs.KeyExclusion
Purpose: When at most one caller works under an idempotency key, and when a
  completed key lets nobody through: over all runs of callers of one key, with
  the orders of their commands that break it as counterexamples.
Trusted boundary: none
Main exports: KeyExclusion.KeyCaller, KeyExclusion.Reserved,
  KeyExclusion.InTime, KeyExclusion.Orderly, KeyExclusion.contract,
  KeyExclusion.sound, KeyExclusion.exclusive_when_orderly
-/
import Integr8s.Proofs.KeyCheck

namespace Integr8s

namespace KeyExclusion

/-- One caller of a key: the event it reserves for, the lifetime it asks for,
and the result it caches, if it caches one. -/
structure KeyCaller where
  eventType : EventType
  eventId : EventId
  ttl : Nat
  cachedJson : Option String := none
deriving DecidableEq, Repr

/-- A caller checks the key, works when it is let through, and completes or
releases the key. -/
def KeyCaller.call (config : IdempotencyConfig) (key : String)
    (caller : KeyCaller) : Program Unit :=
  underKey config key caller.eventType caller.eventId caller.ttl
    (fun _ => pure ()) (request .work) fun _ => do
      match caller.cachedJson with
      | none => do
          let _ ← IdempotencyManager.markCompleted config key
          pure ()
      | some json => do
          let _ ← IdempotencyManager.markCompletedWithJson config key json
          pure ()

/-! ### The contract of a key

Whoever was let through holds the key: the record under it is its own and
processing.  Others neither write nor delete it while that holds, so two
callers are not at work at once. -/

section Law

variable (config : IdempotencyConfig) (key : String)

/-- The processing timeout as a duration. -/
def processingTimeout : Nat := seconds config.processingTimeoutSeconds

/-- The caller's own record is under the key and is not stale, and the key
lives on while it isn't. -/
structure Reserved (caller : Caller) (world : World)
    (entry : Expiring HeldRecord) : Prop where
  stored : world.keys key = some entry
  writer : entry.value.writtenBy = caller
  processing : entry.value.record.status = .processing
  inTime : world.clock ≤
    entry.value.record.createdAt + processingTimeout config
  outlives : entry.value.record.createdAt + processingTimeout config <
    entry.expiresAt

/-- The caller holds the key. -/
def Holds (caller : Caller) (world : World) : Prop :=
  ∃ entry, Reserved config key caller world entry

/-- The key lives and is marked completed. -/
structure Completed (world : World) (entry : Expiring HeldRecord) : Prop where
  found : world.keys.live world.clock key = some entry
  completed : entry.value.record.status = .completed

/-- The assumption of the law: an admitted caller that still lives finishes
within the processing timeout of the time its reservation was stamped with. -/
def InTime (state : Backend) : Move Caller Choice WorldEvent → Prop
  | .environment (.tick duration) =>
      ∀ caller, state.atWork caller →
        ∀ entry, Reserved config key caller state.shared entry →
          state.shared.clock + duration ≤
            entry.value.record.createdAt + processingTimeout config
  | .caller caller _ =>
      match state.awaited caller with
      | some (.insertProcessing record) =>
          state.shared.clock ≤ record.createdAt + processingTimeout config
      | some (.updateRecord _ record) =>
          record.status = .processing →
            state.shared.clock ≤ record.createdAt + processingTimeout config
      | _ => True
  | _ => True

/-- The orders of commands under which the law holds: a key that beats a
reservation still lives when the beaten caller reads it again, and a stale
record is overwritten only while it is the one under its key, and only while
the key lives on longer than the new reservation may last. -/
def Orderly (state : Backend) : Move Caller Choice WorldEvent → Prop
  | .caller caller _ =>
      match state.awaited caller with
      | some (.findKey found) =>
          ⟨caller, found⟩ ∈ state.shared.beatenInserts →
            (state.shared.keys.live state.shared.clock found).isSome
      | some (.updateRecord loaded record) =>
          record.status = .processing →
            ∃ entry, state.shared.keys.live state.shared.clock
                record.key = some entry ∧
              entry.value.record = loaded ∧
              record.createdAt + processingTimeout config < entry.expiresAt
      | _ => True
  | _ => True

/-- The caller was let through and still has a command to perform. -/
def Working (caller : Caller) (state : Backend) : Prop :=
  ⟨caller, key⟩ ∈ state.shared.admissions ∧
    (state.awaited caller).isSome = true

/-- A step leaves alone what other callers hold and what is completed. -/
structure Guarantee (caller : Caller) (before after : World) : Prop where
  clock : after.clock = before.clock
  beaten : ∀ use ∈ before.beatenInserts, use ∈ after.beatenInserts
  others : ∀ other, other ≠ caller →
    (⟨other, key⟩ ∈ after.admissions ↔ ⟨other, key⟩ ∈ before.admissions)
  keeps : after.keys key = before.keys key ∨
    (∀ other entry, other ≠ caller →
      ¬ Reserved config key other before entry) ∧
    ∀ entry, ¬ Completed key before entry
  admits : after.admissions = before.admissions ∨
    ∀ entry, ¬ Completed key before entry

/-- What a caller relies on: its reservation stays, and nobody else is
admitted in its name. -/
structure Rely (caller : Caller) (before after : World) : Prop where
  clock : before.clock ≤ after.clock
  beaten : ∀ use ∈ before.beatenInserts, use ∈ after.beatenInserts
  own : ⟨caller, key⟩ ∈ after.admissions ↔ ⟨caller, key⟩ ∈ before.admissions
  reserved : ∀ entry, Reserved config key caller before entry →
    Reserved config key caller after entry

/-- A completed key stays completed and admits nobody while it lives. -/
structure Progress (before after : World) : Prop where
  clock : before.clock ≤ after.clock
  completed : ∀ entry, Completed key before entry →
    after.clock ≤ entry.expiresAt →
      Completed key after entry ∧ after.admissions = before.admissions

def contract : Contract Caller World Command Choice WorldEvent where
  invariant world := ∀ other entry, world.keys other = some entry →
    entry.value.record.key = other
  guarantee := Guarantee config key
  rely := Rely config key
  progress := Progress key
  claims caller _ world := ⟨caller, key⟩ ∈ world.admissions →
    Holds config key caller world
  allows caller world command _ :=
    match command with
    | .findKey found =>
        ⟨caller, found⟩ ∈ world.beatenInserts →
          (world.keys.live world.clock found).isSome
    | .insertProcessing record =>
        world.clock ≤ record.createdAt + processingTimeout config
    | .updateRecord loaded record =>
        record.status = .processing →
          world.clock ≤ record.createdAt + processingTimeout config ∧
          ∃ entry, world.keys.live world.clock record.key = some entry ∧
            entry.value.record = loaded ∧
            record.createdAt + processingTimeout config < entry.expiresAt
    | _ => True
  permits atWork world event :=
    match event with
    | .tick duration =>
        ∀ caller, atWork caller →
          ∀ entry, Reserved config key caller world entry →
            world.clock + duration ≤
              entry.value.record.createdAt + processingTimeout config
    | _ => True

/-- The two worlds agree on the clock, the keys and who was let through or
beaten. -/
def SameKeys (before after : World) : Prop :=
  after.clock = before.clock ∧ after.keys = before.keys ∧
    after.admissions = before.admissions ∧
    after.beatenInserts = before.beatenInserts

variable {config key} {caller : Caller} {world before after : World}
  {entry : Expiring HeldRecord}

theorem Reserved.alive (reserved : Reserved config key caller world entry) :
    world.keys.live world.clock key = some entry := by
  apply ExpiringStore.live_eq_some.mpr
  refine ⟨reserved.stored, ?_⟩
  have := reserved.inTime
  have := reserved.outlives
  omega

/-- Two callers do not both hold the key. -/
theorem Reserved.unique {first second : Caller}
    {firstEntry secondEntry : Expiring HeldRecord}
    (firstHolds : Reserved config key first world firstEntry)
    (secondHolds : Reserved config key second world secondEntry) :
    first = second := by
  have same : firstEntry = secondEntry := by
    simpa using firstHolds.stored.symm.trans secondHolds.stored
  rw [← firstHolds.writer, ← secondHolds.writer, same]

/-- A held key is not completed. -/
theorem Reserved.not_completed {other : Expiring HeldRecord}
    (reserved : Reserved config key caller world entry) :
    ¬ Completed key world other := by
  intro completed
  have same : entry = other := by
    simpa using reserved.alive.symm.trans completed.found
  have processing := reserved.processing
  rw [same, completed.completed] at processing
  cases processing

/-- A reservation outlasts a step that leaves the key alone, until the clock
passes its time. -/
theorem Reserved.later (reserved : Reserved config key caller before entry)
    (same : after.keys key = before.keys key)
    (inTime : after.clock ≤
      entry.value.record.createdAt + processingTimeout config) :
    Reserved config key caller after entry :=
  ⟨same ▸ reserved.stored, reserved.writer, reserved.processing, inTime,
    reserved.outlives⟩

theorem Completed.later (completed : Completed key before entry)
    (same : after.keys key = before.keys key)
    (alive : after.clock ≤ entry.expiresAt) : Completed key after entry := by
  refine ⟨ExpiringStore.live_eq_some.mpr ⟨?_, alive⟩, completed.completed⟩
  rw [same]
  exact (ExpiringStore.live_eq_some.mp completed.found).1

theorem Guarantee.unchanged (world : World) :
    Guarantee config key caller world world :=
  ⟨rfl, fun _ member => member, fun _ _ => Iff.rfl, .inl rfl, .inl rfl⟩

theorem Guarantee.of_same (same : SameKeys before after) :
    Guarantee config key caller before after := by
  obtain ⟨clock, keys, admissions, beaten⟩ := same
  exact ⟨clock, by rw [beaten]; exact fun _ member => member,
    fun _ _ => by rw [admissions], .inl (by rw [keys]), .inl admissions⟩

/-- A step that leaves the keys, the clock and the admissions alone. -/
theorem Progress.of_same (clock : before.clock ≤ after.clock)
    (keys : after.keys = before.keys)
    (admissions : after.admissions = before.admissions) :
    Progress key before after := by
  refine ⟨clock, fun entry completed alive => ⟨?_, admissions⟩⟩
  exact completed.later (by rw [keys]) alive

theorem Rely.of_same (clock : before.clock = after.clock)
    (keys : after.keys = before.keys)
    (admissions : after.admissions = before.admissions)
    (beaten : after.beatenInserts = before.beatenInserts) :
    Rely config key caller before after := by
  refine ⟨by omega, by rw [beaten]; exact fun _ member => member,
    by rw [admissions], fun entry reserved => ?_⟩
  apply reserved.later (by rw [keys])
  rw [← clock]
  exact reserved.inTime

theorem Progress.trans {first second third : World}
    (earlier : Progress key first second)
    (later : Progress key second third) : Progress key first third := by
  refine ⟨Nat.le_trans earlier.clock later.clock, ?_⟩
  intro entry completed alive
  have clock := later.clock
  obtain ⟨middle, sameFirst⟩ := earlier.completed entry completed (by omega)
  obtain ⟨last, sameSecond⟩ := later.completed entry middle alive
  exact ⟨last, sameSecond.trans sameFirst⟩

theorem sound : (contract config key).Sound backend := by
  constructor
  · intro caller world
    exact Rely.of_same rfl rfl rfl rfl
  · intro caller first second third earlier later
    exact ⟨Nat.le_trans earlier.clock later.clock,
      fun use member => later.beaten use (earlier.beaten use member),
      later.own.trans earlier.own,
      fun entry reserved => later.reserved entry
        (earlier.reserved entry reserved)⟩
  · intro world
    exact Progress.of_same (Nat.le_refl _) rfl rfl
  · intro caller other before after different _ _ promised
    refine ⟨by have := promised.clock; omega, promised.beaten,
      promised.others other different, fun entry reserved => ?_⟩
    apply reserved.later
    · rcases promised.keeps with same | ⟨nobody, -⟩
      · exact same
      · exact absurd reserved (nobody other entry different)
    · rw [promised.clock]
      exact reserved.inTime
  · intro caller before after _ promised
    refine ⟨by have := promised.clock; omega, fun entry completed alive => ?_⟩
    constructor
    · rcases promised.keeps with same | ⟨-, none⟩
      · exact completed.later same alive
      · exact absurd completed (none entry)
    · rcases promised.admits with same | none
      · exact same
      · exact absurd completed (none entry)
  · intro atWork world event next invariant permitted happened
    rcases World.happen_cases happened with
      ⟨duration, rfl, rfl⟩ | ⟨executions, rfl⟩
    · refine ⟨invariant, Progress.of_same (by simp) rfl rfl, ?_,
        fun _ _ => trivial⟩
      intro caller works
      refine ⟨by simp, fun _ member => member, Iff.rfl, ?_⟩
      intro entry reserved
      exact reserved.later rfl (permitted caller works entry reserved)
    · exact ⟨invariant, Progress.of_same (Nat.le_refl _) rfl rfl,
        fun _ _ => Rely.of_same rfl rfl rfl rfl, fun _ _ => trivial⟩
  · intro world caller next invariant _ killed
    cases killed
    exact ⟨invariant, Progress.of_same (Nat.le_refl _) rfl rfl, trivial,
      fun _ _ => Rely.of_same rfl rfl rfl rfl⟩
  · intros
    trivial

/-- The caller has not been let through yet. -/
def Outside (key : String) (caller : Caller) (world : World) : Prop :=
  ⟨caller, key⟩ ∉ world.admissions

theorem Outside.stable (outside : Outside key caller before)
    (relied : Rely config key caller before after) :
    Outside key caller after :=
  fun admitted => outside (relied.own.mp admitted)

theorem Holds.stable (holds : Holds config key caller before)
    (relied : Rely config key caller before after) :
    Holds config key caller after := by
  obtain ⟨entry, reserved⟩ := holds
  exact ⟨entry, relied.reserved entry reserved⟩

theorem Outside.claim (outside : Outside key caller world)
    (command : Command) :
    (contract config key).claims caller command world :=
  fun admitted => absurd admitted outside

/-! ### The commands on the key -/

section Commands

variable {command : Command}
  {post : Except PyException (Reply command) → World → Prop}

/-- A command that leaves the keys alone: its answer is what it read, unless it
raised. -/
theorem wp_read (invariant : (contract config key).invariant world)
    (claim : (contract config key).claims caller command world)
    (reads : ∀ choice, SameKeys world (world.effect caller choice command).2)
    (fails : SameKeys world (world.failure caller command))
    (answers : ∀ choice later, (contract config key).Later caller world later →
      (contract config key).allows caller world command choice →
      post (world.effect caller choice command).1 later)
    (raises : ∀ error later, (contract config key).Later caller world later →
      command.mayRaise error = true → post (.error error) later) :
    (contract config key).wp backend caller (request command) post world := by
  have leads : ∀ after (continues : World → Prop), SameKeys world after →
      (∀ later, (contract config key).Later caller world later →
        continues later) →
      Leads (contract config key) caller world after continues := by
    intro after continues same continued
    obtain ⟨clock, keys, admissions, beaten⟩ := id same
    refine ⟨?_, Guarantee.of_same same, fun later reached => ?_⟩
    · intro other entry present
      rw [keys] at present
      exact invariant other entry present
    · apply continued
      refine ⟨?_, reached.2⟩
      exact sound.rely_trans caller _ _ _
        (Rely.of_same clock.symm keys admissions beaten) reached.1
  apply wp_request claim
  · intro choice _ allowed
    exact leads _ _ (reads choice) fun later reached =>
      answers choice later reached allowed
  · intro choice error _ _ may
    exact leads _ _ fails fun later reached => raises error later reached may
  · intro choice error _ _ may _
    exact leads _ _ (reads choice) fun later reached =>
      raises error later reached may

end Commands

/-- Storing a record under its own key keeps the stored records under their
keys. -/
theorem invariant_writeKey
    (invariant : (contract config key).invariant world) {other : String}
    {held : HeldRecord} {expiresAt : Nat} (own : held.record.key = other) :
    (contract config key).invariant
      (world.writeKey other held expiresAt) := by
  intro found stored present
  by_cases same : found = other
  · subst same
    simp only [World.writeKey, Function.update_self,
      Option.some.injEq] at present
    rw [← present]
    exact own
  · simp only [World.writeKey, Function.update_of_ne same] at present
    exact invariant found stored present

/-- A caller may write a key that nobody else holds and that isn't
completed. -/
theorem leads_writeKey {record : IdempotencyRecord} {expiresAt : Nat}
    {continues : World → Prop}
    (invariant : (contract config key).invariant world)
    (own : record.key = key)
    (nobody : ∀ other entry, other ≠ caller →
      ¬ Reserved config key other world entry)
    (unfinished : ∀ entry, ¬ Completed key world entry)
    (continued : ∀ later, (contract config key).Later caller
      (world.writeKey key ⟨record, caller⟩ expiresAt) later →
      continues later) :
    Leads (contract config key) caller world
      (world.writeKey key ⟨record, caller⟩ expiresAt) continues :=
  ⟨invariant_writeKey invariant own,
    ⟨rfl, fun _ member => member, fun _ _ => Iff.rfl,
      .inr ⟨nobody, unfinished⟩, .inl rfl⟩, continued⟩

/-- The new record is the caller's reservation when it is in time and the key
outlives it. -/
theorem reserved_writeKey {record : IdempotencyRecord} {expiresAt : Nat}
    (processing : record.status = .processing)
    (inTime : world.clock ≤ record.createdAt + processingTimeout config)
    (outlives : record.createdAt + processingTimeout config < expiresAt) :
    Holds config key caller
      (world.writeKey key ⟨record, caller⟩ expiresAt) :=
  ⟨⟨⟨record, caller⟩, expiresAt⟩,
    ⟨by simp [World.writeKey], rfl, processing, inTime, outlives⟩⟩

/-- A command that failed, or one whose effect nobody sees. -/
theorem leads_unchanged {continues : World → Prop}
    (invariant : (contract config key).invariant world)
    (continued : ∀ later, (contract config key).Later caller world later →
      continues later) :
    Leads (contract config key) caller world world continues :=
  ⟨invariant, Guarantee.unchanged world, continued⟩

/-- Finding its key taken changes nothing but the record of it. -/
theorem leads_noteBeaten {continues : World → Prop}
    (invariant : (contract config key).invariant world)
    (continued : ∀ later, (contract config key).Later caller
      (world.noteBeaten caller key) later → continues later) :
    Leads (contract config key) caller world (world.noteBeaten caller key)
      continues :=
  ⟨invariant, ⟨rfl, fun _ member => List.mem_cons_of_mem _ member,
    fun _ _ => Iff.rfl, .inl rfl, .inl rfl⟩, continued⟩

/-- Reserving the key: it was free and is the caller's now, or it is taken, or
the command failed. -/
theorem wp_insertProcessing {record : IdempotencyRecord}
    {post : Except PyException (Reply (.insertProcessing record)) →
      World → Prop}
    (invariant : (contract config key).invariant world)
    (outside : Outside key caller world)
    (own : record.key = key) (processing : record.status = .processing)
    (stamped : record.createdAt ≤ world.clock)
    (longLived : config.processingTimeoutSeconds < record.ttlSeconds)
    (reserves : ∀ later, Outside key caller later →
      Holds config key caller later → post (.ok ()) later)
    (beaten : ∀ later, Outside key caller later →
      ⟨caller, key⟩ ∈ later.beatenInserts →
      post (.error .duplicateKeyError) later)
    (raises : ∀ error later, Outside key caller later →
      error ≠ .duplicateKeyError → post (.error error) later) :
    (contract config key).wp backend caller
      (request (.insertProcessing record)) post world := by
  subst own
  have raised : ∀ error, Command.mayRaise (.insertProcessing record) error →
      error ≠ .duplicateKeyError := by
    intro error may
    simpa [Command.mayRaise] using may
  cases found : world.keys.live world.clock record.key with
  | some taken =>
      have stays : Outside record.key caller
          (world.noteBeaten caller record.key) := outside
      apply wp_request (outside.claim _)
      · intro choice _ _
        rw [World.effect_insertProcessing_taken found]
        apply leads_noteBeaten invariant
        intro later reached
        apply beaten later (stays.stable reached.1)
        exact reached.1.beaten _ (by simp [World.noteBeaten])
      · intro choice error _ _ may
        apply leads_unchanged invariant
        intro later reached
        exact raises error later (outside.stable reached.1) (raised error may)
      · intro choice error _ _ may _
        rw [World.effect_insertProcessing_taken found]
        apply leads_noteBeaten invariant
        intro later reached
        exact raises error later (stays.stable reached.1) (raised error may)
  | none =>
      have free : ∀ other entry, other ≠ caller →
          ¬ Reserved config record.key other world entry := by
        intro other entry _ reserved
        rw [reserved.alive] at found
        cases found
      have unfinished : ∀ entry, ¬ Completed record.key world entry := by
        intro entry completed
        rw [completed.found] at found
        cases found
      have stays : Outside record.key caller (world.writeKey record.key
          ⟨record, caller⟩ (world.clock + seconds record.ttlSeconds)) :=
        outside
      apply wp_request (outside.claim _)
      · intro choice _ allowed
        rw [World.effect_insertProcessing_free found]
        apply leads_writeKey invariant rfl free unfinished
        intro later reached
        apply reserves later (stays.stable reached.1)
        apply Holds.stable _ reached.1
        apply reserved_writeKey processing allowed
        simp only [processingTimeout, seconds]
        omega
      · intro choice error _ _ may
        apply leads_unchanged invariant
        intro later reached
        exact raises error later (outside.stable reached.1) (raised error may)
      · intro choice error _ _ may _
        rw [World.effect_insertProcessing_free found]
        apply leads_writeKey invariant rfl free unfinished
        intro later reached
        exact raises error later (stays.stable reached.1) (raised error may)

/-- Taking a stale record over: the guard of orderly runs says that it is
still the one under the key, so its writer is out of time. -/
theorem wp_takeOver {loaded record : IdempotencyRecord}
    {post : Except PyException (Reply (.updateRecord loaded record)) →
      World → Prop}
    (invariant : (contract config key).invariant world)
    (outside : Outside key caller world)
    (own : record.key = key) (processing : record.status = .processing)
    (loadedProcessing : loaded.status = .processing)
    (stale : loaded.createdAt + processingTimeout config < world.clock)
    (takes : ∀ answer later, Outside key caller later →
      Holds config key caller later → post (.ok answer) later)
    (raises : ∀ error later, Outside key caller later →
      post (.error error) later) :
    (contract config key).wp backend caller
      (request (.updateRecord loaded record)) post world := by
  subst own
  have free : ∀ entry, world.keys.live world.clock record.key = some entry →
      entry.value.record = loaded →
      (∀ other held, other ≠ caller →
        ¬ Reserved config record.key other world held) ∧
      ∀ held, ¬ Completed record.key world held := by
    intro entry found sameRecord
    constructor
    · intro other held _ reserved
      have same : entry = held := by
        simpa using found.symm.trans reserved.alive
      have early := reserved.inTime
      rw [← same, sameRecord] at early
      omega
    · intro held completed
      have same : entry = held := by
        simpa using found.symm.trans completed.found
      have status := completed.completed
      rw [← same, sameRecord, loadedProcessing] at status
      cases status
  apply wp_request (outside.claim _)
  · intro choice _ allowed
    obtain ⟨inTime, entry, found, sameRecord, outlives⟩ := allowed processing
    obtain ⟨nobody, unfinished⟩ := free entry found sameRecord
    have stays : Outside record.key caller
        (world.writeKey record.key ⟨record, caller⟩ entry.expiresAt) :=
      outside
    rw [World.effect_updateRecord_found found]
    apply leads_writeKey invariant rfl nobody unfinished
    intro later reached
    apply takes _ later (stays.stable reached.1)
    apply Holds.stable _ reached.1
    exact reserved_writeKey processing inTime outlives
  · intro choice error _ _ _
    apply leads_unchanged invariant
    intro later reached
    exact raises error later (outside.stable reached.1)
  · intro choice error _ allowed _ _
    obtain ⟨inTime, entry, found, sameRecord, outlives⟩ := allowed processing
    obtain ⟨nobody, unfinished⟩ := free entry found sameRecord
    have stays : Outside record.key caller
        (world.writeKey record.key ⟨record, caller⟩ entry.expiresAt) :=
      outside
    rw [World.effect_updateRecord_found found]
    apply leads_writeKey invariant rfl nobody unfinished
    intro later reached
    exact raises error later (stays.stable reached.1)

/-- The holder may write its key: nobody else holds it, and it is not
completed. -/
theorem Holds.alone (holds : Holds config key caller world) :
    (∀ other entry, other ≠ caller →
      ¬ Reserved config key other world entry) ∧
    ∀ entry, ¬ Completed key world entry := by
  obtain ⟨mine, reserved⟩ := holds
  constructor
  · intro other entry different otherReserved
    exact different (otherReserved.unique reserved)
  · intro entry
    exact reserved.not_completed

/-- Marking the key: whatever becomes of the command, the holder keeps the
contract. -/
theorem wp_markRecord {loaded record : IdempotencyRecord}
    {post : Except PyException (Reply (.updateRecord loaded record)) →
      World → Prop}
    (invariant : (contract config key).invariant world)
    (holds : Holds config key caller world)
    (own : record.key = key)
    (continues : ∀ reply later, post reply later) :
    (contract config key).wp backend caller
      (request (.updateRecord loaded record)) post world := by
  subst own
  obtain ⟨mine, reserved⟩ := id holds
  apply wp_request (fun _ => holds)
  · intro choice _ _
    rw [World.effect_updateRecord_found reserved.alive]
    exact leads_writeKey invariant rfl holds.alone.1 holds.alone.2
      fun later _ => continues _ later
  · intro choice error _ _ _
    exact leads_unchanged invariant fun later _ => continues _ later
  · intro choice error _ _ _ _
    rw [World.effect_updateRecord_found reserved.alive]
    exact leads_writeKey invariant rfl holds.alone.1 holds.alone.2
      fun later _ => continues _ later

/-- Releasing the key. -/
theorem wp_deleteKey
    {post : Except PyException (Reply (.deleteKey key)) → World → Prop}
    (invariant : (contract config key).invariant world)
    (holds : Holds config key caller world)
    (continues : ∀ reply later, post reply later) :
    (contract config key).wp backend caller (request (.deleteKey key)) post
      world := by
  have kept : (contract config key).invariant (world.dropKey key) := by
    intro found entry present
    by_cases same : found = key
    · subst same
      simp [World.dropKey] at present
    · simp only [World.dropKey, Function.update_of_ne same] at present
      exact invariant found entry present
  have promised : Guarantee config key caller world (world.dropKey key) :=
    ⟨rfl, fun _ member => member, fun _ _ => Iff.rfl, .inr holds.alone,
      .inl rfl⟩
  apply wp_request (fun _ => holds)
  · intro choice _ _
    exact ⟨kept, promised, fun later _ => continues _ later⟩
  · intro choice error _ _ _
    exact leads_unchanged invariant fun later _ => continues _ later
  · intro choice error _ _ _ _
    exact ⟨kept, promised, fun later _ => continues _ later⟩

/-- Being let through: only a holder gets there. -/
theorem wp_letThrough
    {post : Except PyException (Reply (.letThrough key)) → World → Prop}
    (invariant : (contract config key).invariant world)
    (holds : Holds config key caller world)
    (continues : ∀ later, (contract config key).invariant later →
      Holds config key caller later → post (.ok ()) later) :
    (contract config key).wp backend caller (request (.letThrough key)) post
      world := by
  apply wp_request (fun _ => holds)
  · intro choice _ _
    refine ⟨invariant, ?_, fun later reached => ?_⟩
    · refine ⟨rfl, fun _ member => member, fun other different => ?_,
        .inl rfl, .inr holds.alone.2⟩
      simp [World.effect, different]
    · apply continues later reached.2
      apply Holds.stable _ reached.1
      obtain ⟨entry, reserved⟩ := holds
      exact ⟨entry, reserved.later rfl reserved.inTime⟩
  · intro choice error _ _ may
    cases may
  · intro choice error _ _ may _
    cases may

/-! ### The calls of the manager -/

section Programs

/-- Reading the key: the record found is stored under it. -/
theorem wp_findKey
    {post : Except PyException (Reply (.findKey key)) → World → Prop}
    (invariant : (contract config key).invariant world)
    (claim : (contract config key).claims caller (.findKey key) world)
    (finds : ∀ record later, Rely config key caller world later →
      record.key = key → post (.ok (some record)) later)
    (misses : ∀ later, Rely config key caller world later →
      ⟨caller, key⟩ ∉ world.beatenInserts → post (.ok none) later)
    (raises : ∀ error later, Rely config key caller world later →
      post (.error error) later) :
    (contract config key).wp backend caller (request (.findKey key)) post
      world := by
  apply wp_read invariant claim (fun _ => ⟨rfl, rfl, rfl, rfl⟩)
    ⟨rfl, rfl, rfl, rfl⟩
  · intro choice later ⟨relied, _⟩ allowed
    cases found : world.keys.live world.clock key with
    | some entry =>
        simp only [World.effect, ExpiringStore.get, found, Option.map_some]
        apply finds _ later relied
        exact invariant key entry (ExpiringStore.live_eq_some.mp found).1
    | none =>
        simp only [World.effect, ExpiringStore.get, found, Option.map_none]
        apply misses later relied
        intro beaten
        have alive := allowed beaten
        simp [found] at alive
  · intro error later ⟨relied, _⟩ _
    exact raises error later relied

/-- What a check of the key promises: a caller that is no duplicate holds the
key. -/
def Checks (config : IdempotencyConfig) (key : String) (caller : Caller)
    (post : Except PyException IdempotencyResult → World → Prop) : Prop :=
  (∀ result later, Outside key caller later →
    (result.isDuplicate = false → Holds config key caller later) →
    post (.ok result) later) ∧
  ∀ error later, Outside key caller later → post (.error error) later

/-- The assertions of a caller that checks the key. -/
def checkRules {ttl : Nat}
    {post : Except PyException IdempotencyResult → World → Prop}
    (longLived : config.processingTimeoutSeconds < ttl)
    (checks : Checks config key caller post) :
    CheckRules (contract config key) caller config key ttl post where
  outside := Outside key caller
  stamped now world := Outside key caller world ∧ now ≤ world.clock
  beaten world := Outside key caller world ∧
    ⟨caller, key⟩ ∈ world.beatenInserts
  seen existing world := Outside key caller world ∧ existing.key = key
  aged existing now world := Outside key caller world ∧
    existing.key = key ∧ now ≤ world.clock
  find world invariant outside := by
    apply wp_findKey invariant (outside.claim _)
    · intro record later relied own
      exact ⟨outside.stable relied, own⟩
    · intro later relied _
      exact outside.stable relied
    · intro error later relied
      exact checks.2 error later (outside.stable relied)
  stamp world invariant outside := by
    apply wp_now (outside.claim _) invariant (Guarantee.unchanged world)
    intro later reached
    exact ⟨outside.stable reached.1, reached.1.clock⟩
  insert world record invariant stamped own processing _ lifetime := by
    apply wp_insertProcessing invariant stamped.1 own processing stamped.2
      (lifetime ▸ longLived)
    · intro later outside holds result _
      exact checks.1 result later outside fun _ => holds
    · intro later outside beaten
      exact ⟨outside, beaten⟩
    · intro error later outside other
      dsimp only
      rw [if_neg other]
      exact checks.2 error later outside
  findAgain world invariant beaten := by
    apply wp_findKey invariant (beaten.1.claim _)
    · intro record later relied own
      exact ⟨beaten.1.stable relied, own⟩
    · intro later _ unbeaten
      exact absurd beaten.2 unbeaten
    · intro error later relied
      exact checks.2 error later (beaten.1.stable relied)
  age world existing invariant seen _ := by
    apply wp_now (seen.1.claim _) invariant (Guarantee.unchanged world)
    intro later reached
    exact ⟨seen.1.stable reached.1, seen.2, reached.1.clock⟩
  takeOver world existing now invariant aged stale processing := by
    have late : existing.createdAt + processingTimeout config <
        world.clock := by
      have := aged.2.2
      simp only [processingTimeout]
      omega
    refine wp_takeOver invariant aged.1 aged.2.1 rfl processing late ?_ ?_
    · intro answer later outside holds result _
      exact checks.1 result later outside fun _ => holds
    · intro error later outside
      exact checks.2 error later outside
  young world existing now _ aged _ _ result duplicate _ := by
    apply checks.1 result world aged.1
    intro admitted
    simp [duplicate] at admitted
  finished world existing _ seen _ result duplicate _ := by
    apply checks.1 result world seen.1
    intro admitted
    simp [duplicate] at admitted

/-- A holder that marks its key keeps the contract. -/
def markRules {cachedJson : Option String}
    {post : Except PyException Bool → World → Prop}
    (continues : ∀ reply later, post reply later) :
    MarkRules (contract config key) caller config key cachedJson post where
  holding := Holds config key caller
  marking existing world := Holds config key caller world ∧
    existing.key = key
  find world invariant holds := by
    apply wp_findKey invariant (fun _ => holds)
    · intro record later relied own
      exact ⟨holds.stable relied, own⟩
    · intro later _ _
      exact continues _ later
    · intro error later _
      exact ⟨continues _ later, continues _ later⟩
  read world existing invariant marking := by
    apply wp_now (fun _ => marking.1) invariant (Guarantee.unchanged world)
    intro later reached
    exact ⟨marking.1.stable reached.1, marking.2⟩
  update world existing record invariant marking sameKey _ _ := by
    apply wp_markRecord invariant marking.1 (sameKey.trans marking.2)
    intro reply later
    cases reply <;> exact continues _ later

/-- A holder that releases its key keeps the contract. -/
theorem wp_release {post : Except PyException Bool → World → Prop}
    (invariant : (contract config key).invariant world)
    (holds : Holds config key caller world)
    (continues : ∀ reply later, post reply later) :
    (contract config key).wp backend caller (IdempotencyManager.release key)
      post world := by
  rw [IdempotencyManager.release, Contract.wp_bind]
  apply wp_deleteKey invariant holds
  intro reply later
  cases reply <;> exact continues _ later

/-- Who is let through by the check holds the key. -/
def Checked (config : IdempotencyConfig) (key : String) (caller : Caller)
    (result : Except PyException IdempotencyResult) (world : World) : Prop :=
  match result with
  | .ok result => result.isDuplicate = false → Holds config key caller world
  | .error _ => True

/-- Every call of a key keeps the contract. -/
theorem wp_call (keyCaller : KeyCaller)
    (longLived : config.processingTimeoutSeconds < keyCaller.ttl)
    (invariant : (contract config key).invariant world)
    (outside : Outside key caller world) :
    (contract config key).wp backend caller (keyCaller.call config key)
      (fun _ _ => True) world := by
  rw [KeyCaller.call, underKey, Contract.wp_bind]
  have checks : Checks config key caller (Checked config key caller) :=
    ⟨fun _ _ _ reserved => reserved, fun _ _ _ => trivial⟩
  apply Contract.wp_mono _ invariant
    ((checkRules longLived checks).wp_checkAndReserve invariant outside)
  intro result later kept reserved
  cases result with
  | error error => trivial
  | ok result =>
      dsimp only
      split
      · trivial
      · next admitted =>
          rw [Contract.wp_bind]
          apply wp_letThrough kept (reserved (by simpa using admitted))
          intro started keptStarted holds
          dsimp only
          rw [Contract.wp_bind, Contract.wp_attempt]
          apply wp_read keptStarted (fun _ => holds)
            (fun _ => ⟨rfl, rfl, rfl, rfl⟩) ⟨rfl, rfl, rfl, rfl⟩
          · intro choice worked reached _
            obtain ⟨relied, keptWorked⟩ := reached
            simp only [World.effect]
            cases keyCaller.cachedJson with
            | none =>
                rw [Contract.wp_bind]
                apply Contract.wp_mono _ keptWorked
                  ((markRules fun _ _ => trivial).wp_markCompleted keptWorked
                    (holds.stable relied))
                intro reply final _ _
                cases reply <;> trivial
            | some json =>
                rw [Contract.wp_bind]
                apply Contract.wp_mono _ keptWorked
                  ((markRules fun _ _ => trivial).wp_markCompletedWithJson
                    keptWorked (holds.stable relied))
                intro reply final _ _
                cases reply <;> trivial
          · intro error failed reached _
            obtain ⟨relied, keptFailed⟩ := reached
            dsimp only
            rw [Contract.wp_bind]
            apply wp_release keptFailed (holds.stable relied)
            intro reply final
            cases reply <;> trivial

end Programs

end Law

/-! ### The law over runs -/

/-- Any callers of one key that was free at first. -/
def start (config : IdempotencyConfig) (key : String) (clock : Nat)
    (callers : Caller → KeyCaller) : Backend where
  shared := { clock := clock }
  running caller := some ((callers caller).call config key)

/-- The guard of the contract is that the run is in time and orderly. -/
theorem guard_of_orderly {config : IdempotencyConfig} {key : String}
    (state : Backend) (move : Move Caller Choice WorldEvent)
    (guarded : InTime config key state move ∧ Orderly config state move) :
    (contract config key).guard state move := by
  cases move with
  | caller caller choice =>
      intro command awaits
      simp only [InTime, Orderly, awaits] at guarded
      cases command with
      | findKey found => exact guarded.2
      | insertProcessing record => exact guarded.1
      | updateRecord loaded record =>
          exact fun processing =>
            ⟨guarded.1 processing, guarded.2 processing⟩
      | _ => trivial
  | environment event =>
      cases event with
      | tick duration => exact guarded.1
      | _ => trivial
  | kill caller => trivial

theorem start_safe {config : IdempotencyConfig} {key : String} {clock : Nat}
    {callers : Caller → KeyCaller}
    (longLived : ∀ caller,
      config.processingTimeoutSeconds < (callers caller).ttl) :
    (contract config key).Safe backend (fun _ _ _ => True)
      (start config key clock callers) := by
  apply Contract.Safe.start sound
  · intro other entry present
    cases present
  · intro caller dead
    cases dead
  · intro caller coroutine runs later reached
    cases runs
    apply wp_call _ (longLived caller) reached.2
    intro admitted
    cases reached.1.own.mp admitted

/-- In every run that is in time and orderly, at most one caller that was let
through is still at work under the key, and from the moment the key is marked
completed it stays so and nobody else is let through while it lives. -/
theorem exclusive_when_orderly {config : IdempotencyConfig} {key : String}
    {clock : Nat} {callers : Caller → KeyCaller}
    (longLived : ∀ caller,
      config.processingTimeoutSeconds < (callers caller).ttl)
    {moves : List (Move Caller Choice WorldEvent)} {final : Backend}
    (along : backend.machine.Along
      (fun state move => InTime config key state move ∧
        Orderly config state move) (start config key clock callers) moves)
    (reached : backend.machine.run (start config key clock callers) moves =
      some final) :
    (∀ first second, Working key first final → Working key second final →
      first = second) ∧
    ∀ entry, Completed key final.shared entry →
      ∀ later last, backend.machine.Along
          (fun state move => InTime config key state move ∧
            Orderly config state move) final later →
        backend.machine.run final later = some last →
        last.shared.clock ≤ entry.expiresAt →
          Completed key last.shared entry ∧
            last.shared.admissions = final.shared.admissions := by
  have safe := sound.run Contract.stable_true (start_safe longLived)
    (along.mono guard_of_orderly) reached
  constructor
  · intro first second firstWorks secondWorks
    obtain ⟨firstCommand, firstAwaits⟩ :=
      Option.isSome_iff_exists.mp firstWorks.2
    obtain ⟨secondCommand, secondAwaits⟩ :=
      Option.isSome_iff_exists.mp secondWorks.2
    obtain ⟨firstEntry, firstHolds⟩ :=
      safe.claims sound firstAwaits firstWorks.1
    obtain ⟨secondEntry, secondHolds⟩ :=
      safe.claims sound secondAwaits secondWorks.1
    exact firstHolds.unique secondHolds
  · intro entry completed later last alongLater reachedLast alive
    have progressed := sound.run_progress Contract.stable_true
      (fun _ _ _ => Progress.trans) safe (alongLater.mono guard_of_orderly)
      reachedLast
    exact progressed.completed entry completed alive

/-! ### A loser that finds the key, and one that does not -/

/-- A check by evaluation that a step is in time: the clock stands still, a
reservation is made at the time it is stamped with, and nothing is taken
over. -/
def inTimeCheck (state : Backend) : Move Caller Choice WorldEvent → Bool
  | .caller caller _ =>
      match state.awaited caller with
      | some (.insertProcessing record) =>
          decide (state.shared.clock ≤ record.createdAt)
      | some (.updateRecord _ record) => record.status != .processing
      | _ => true
  | .environment (.tick _) => false
  | _ => true

/-- The same for an orderly step: nobody reads a key again that beat him. -/
def orderlyCheck (state : Backend) (move : Move Caller Choice WorldEvent) :
    Bool :=
  inTimeCheck state move &&
    match move with
    | .caller caller _ =>
        match state.awaited caller with
        | some (.findKey found) =>
            !state.shared.beatenInserts.contains ⟨caller, found⟩
        | _ => true
    | _ => true

theorem inTime_of_check {config : IdempotencyConfig} {key : String}
    (state : Backend) (move : Move Caller Choice WorldEvent)
    (checked : inTimeCheck state move = true) :
    InTime config key state move := by
  cases move with
  | caller caller choice =>
      simp only [inTimeCheck, InTime] at checked ⊢
      split at checked
      · next record awaits =>
          have stamped : state.shared.clock ≤ record.createdAt := by
            simpa using checked
          exact Nat.le_trans stamped (Nat.le_add_right _ _)
      · next loaded record awaits =>
          intro processing
          simp [processing] at checked
      · trivial
  | environment event =>
      cases event with
      | tick duration => cases checked
      | _ => trivial
  | kill caller => trivial

theorem orderly_of_check {config : IdempotencyConfig} {key : String}
    (state : Backend) (move : Move Caller Choice WorldEvent)
    (checked : orderlyCheck state move = true) :
    InTime config key state move ∧ Orderly config state move := by
  simp only [orderlyCheck, Bool.and_eq_true] at checked
  refine ⟨inTime_of_check state move checked.1, ?_⟩
  cases move with
  | caller caller choice =>
      have inTime := checked.1
      simp only [inTimeCheck, Orderly] at inTime checked ⊢
      split
      · next found awaits =>
          intro beaten
          simp [awaits, beaten] at checked
      · next loaded record awaits =>
          intro processing
          simp [awaits, processing] at inTime
      · trivial
  | environment event => trivial
  | kill caller => trivial

/-- Three deliveries of one event. -/
def threeDeliveries : Caller → KeyCaller := fun _ =>
  { eventType := .executionRequested, eventId := "v1", ttl := 3600 }

/-- The key of the three deliveries. -/
def deliveryKey : String :=
  IdempotencyManager.generateKey {} .executionRequested "v1"

/-- The second delivery finds the key free, and loses its reservation against
the first. -/
def beatenDelivery : List (Move Caller Choice WorldEvent) :=
  [.caller 1 {}, .caller 1 {}, .caller 0 {}, .caller 0 {}, .caller 0 {},
    .caller 0 {}, .caller 1 {}]

theorem exclusive_when_orderly_beaten_delivery :
    ∃ final, backend.machine.run (start {} deliveryKey 0 threeDeliveries)
        beatenDelivery = some final ∧
      Working deliveryKey 0 final ∧
      ∀ other, Working deliveryKey other final → other = 0 := by
  have ends : (backend.machine.run (start {} deliveryKey 0 threeDeliveries)
      beatenDelivery).map (fun final =>
        (final.shared.admissions, (final.awaited 0).isSome)) =
      some ([⟨0, deliveryKey⟩], true) := by decide
  obtain ⟨final, reached, shown⟩ := Option.map_eq_some_iff.mp ends
  simp only [Prod.mk.injEq] at shown
  have works : Working deliveryKey 0 final :=
    ⟨by simp [shown.1], shown.2⟩
  have law := exclusive_when_orderly
    (show ∀ caller, ({} : IdempotencyConfig).processingTimeoutSeconds <
      (threeDeliveries caller).ttl from fun _ => by
        simp [threeDeliveries])
    (backend.machine.along_of_check orderly_of_check
      (show backend.machine.checkAlong orderlyCheck
        (start {} deliveryKey 0 threeDeliveries) beatenDelivery = true by
          decide)) reached
  exact ⟨final, reached, works, fun other otherWorks =>
    law.1 other 0 otherWorks works⟩

/-- Then the first delivery's handler raises and releases the key before the
second one reads it again.  The second one runs without a reservation, so a
third one finds the key free and runs beside it. -/
def releasedBeforeSecondRead : List (Move Caller Choice WorldEvent) :=
  beatenDelivery ++
    [.caller 0 { outcome := .fails (.otherError "handler") }, .caller 0 {},
      .caller 1 {}, .caller 1 {}, .caller 2 {}, .caller 2 {}, .caller 2 {},
      .caller 2 {}]

/-- Every caller is in time, and two of them work under the key at once. -/
theorem two_callers_at_work :
    ∃ final, backend.machine.run (start {} deliveryKey 0 threeDeliveries)
        releasedBeforeSecondRead = some final ∧
      backend.machine.Along (InTime {} deliveryKey)
        (start {} deliveryKey 0 threeDeliveries) releasedBeforeSecondRead ∧
      Working deliveryKey 1 final ∧ Working deliveryKey 2 final := by
  have ends : (backend.machine.run (start {} deliveryKey 0 threeDeliveries)
      releasedBeforeSecondRead).map (fun final =>
        (final.shared.admissions, (final.awaited 1).isSome,
          (final.awaited 2).isSome)) =
      some ([⟨2, deliveryKey⟩, ⟨1, deliveryKey⟩, ⟨0, deliveryKey⟩], true,
        true) := by decide
  obtain ⟨final, reached, shown⟩ := Option.map_eq_some_iff.mp ends
  simp only [Prod.mk.injEq] at shown
  refine ⟨final, reached, ?_, ⟨by simp [shown.1], shown.2.1⟩,
    ⟨by simp [shown.1], shown.2.2⟩⟩
  exact backend.machine.along_of_check inTime_of_check (by decide)

end KeyExclusion

end Integr8s
