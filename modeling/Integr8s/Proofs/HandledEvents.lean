/-
Module: Integr8s.Proofs.HandledEvents
Purpose: When no delivery of an event is acknowledged without a handler run for
  it: over all runs of any number of deliveries and retry jobs, with crashes and
  failing commands, and the runs that lose an event as counterexamples.
Trusted boundary: none
Main exports: HandledEvents.Setting, HandledEvents.contract,
  HandledEvents.sound, HandledEvents.Careful,
  HandledEvents.handled_when_careful
-/
import Integr8s.Events.Middlewares
import Integr8s.Lib.UntilGoal
import Integr8s.Proofs.KeyCheck

namespace Integr8s

namespace HandledEvents

/-- One event of the scheduler's router and the subscriber of its topic. -/
structure Setting where
  config : IdempotencyConfig := {}
  testEnvironment : Bool := false
  groupId : String := "saga-orchestrator"
  ttlSeconds : Nat := 3600
  event : DomainEvent
deriving DecidableEq, Repr

namespace Setting

variable (setting : Setting)

/-- The subscriber, around any handler. -/
def subscriber : Subscriber where
  config := setting.config
  testEnvironment := setting.testEnvironment
  groupId := setting.groupId
  ttlSeconds := setting.ttlSeconds
  handler _ := request .work

def key : String :=
  IdempotencyManager.generateKey setting.config setting.event.eventType
    setting.event.base.eventId

/-- The processing timeout as a duration. -/
def processingTimeout : Nat :=
  seconds setting.config.processingTimeoutSeconds

/-- The dead letter queue keeps the event: outside the test environment, it
isn't one of a test. -/
def Kept : Prop :=
  setting.testEnvironment = true ∨
    setting.event.base.eventId.startsWith "test-" = false

end Setting

/-! ### The law and its invariant

The event is seen to: a handler run has returned, it has a dead letter, a call
still holds a reservation or owes a decision on its failure, or its message is
not acknowledged.  Every step keeps that, and what calls note of themselves
says who is to go on with it. -/

section Law

variable (setting : Setting)

/-- A call last read a reservation of another, and the reservation was not
stale then. -/
def Watches (watcher holder : Caller) (world : World) : Prop :=
  ∃ sighting, world.sightings watcher = some sighting ∧
    sighting.held.writtenBy = holder ∧
    sighting.held.record.status = .processing ∧
    sighting.seenAt ≤
      sighting.held.record.createdAt + setting.processingTimeout

/-- A handler run of the event has returned. -/
def Completed (world : World) : Prop := world.completions ≠ []

/-- The event has a row in the dead letter queue that will be retried or that
was discarded. -/
def DeadLettered (world : World) : Prop :=
  ∃ row ∈ world.deadLetters,
    row.isFor setting.event.base.eventId setting.groupId = true ∧
      (row.status = .scheduled ∨ row.status = .discarded)

/-- A message that is not acknowledged, and that no delivery is about to
acknowledge for a dead letter it scheduled. -/
def Open (offset : Nat) (world : World) : Prop :=
  ∃ message, world.messages[offset]? = some message ∧
    message.acknowledged = false ∧
    ∀ settled ∈ world.settling, settled.offset ≠ offset

/-- Somebody sees to the event, or its message will come again. -/
def SeenTo (world : World) : Prop :=
  Completed world ∨ DeadLettered setting world ∨ world.retrying.Nonempty ∨
    world.holding.Nonempty ∨ world.owing.Nonempty ∨
    ∃ offset, Open offset world

/-- What every step keeps. -/
structure Sane (world : World) : Prop where
  seenTo : SeenTo setting world
  messages : ∀ message ∈ world.messages, message.event = setting.event ∧
    (message.targetGroup = none ∨
      message.targetGroup = some setting.groupId)
  settled : ∀ settled ∈ world.settling,
    settled.offset < world.messages.length
  delivering : ∀ caller offset, world.delivering caller = some offset →
    offset < world.messages.length
  records : ∀ other entry, world.keys other = some entry →
    entry.value.record.key = other
  finished : ∀ entry, world.keys setting.key = some entry →
    entry.value.record.status ≠ .processing → Completed world
  rows : ∀ row ∈ world.deadLetters, row.event = setting.event ∧
    row.consumerGroup = setting.groupId

/-- The call holds no reservation and has nothing left to see to. -/
def Idle (caller : Caller) (world : World) : Prop :=
  caller ∉ world.holding ∧ caller ∉ world.owing ∧ caller ∉ world.retrying

/-- What a call did is its own. -/
structure SameOwn (caller : Caller) (before after : World) : Prop where
  sighting : after.sightings caller = before.sightings caller
  delivering : after.delivering caller = before.delivering caller
  holding : caller ∈ after.holding ↔ caller ∈ before.holding
  owing : caller ∈ after.owing ↔ caller ∈ before.owing
  retrying : caller ∈ after.retrying ↔ caller ∈ before.retrying
  settling : ∀ offset, ⟨caller, offset⟩ ∈ before.settling →
    ⟨caller, offset⟩ ∈ after.settling

/-- What a call relies on: its own history, and that nobody whose reservation
it just read gives up before the call has acted on that. -/
structure Rely (caller : Caller) (before after : World) : Prop where
  clock : before.clock ≤ after.clock
  completed : Completed before → Completed after
  own : SameOwn caller before after
  watched : ∀ holder ∈ before.holding, Watches setting caller holder before →
    holder ∈ after.holding ∨ Completed after
  rows : before.deadLetters ≠ [] → after.deadLetters ≠ []

/-- What a step of a call leaves to the others. -/
def Guarantee (caller : Caller) (before after : World) : Prop :=
  ∀ other, other ≠ caller → Rely setting other before after

/-- The commands of a handler run. -/
def IsRun (command : Command) : Prop :=
  command = .letThrough setting.key ∨ command = .work

/-- What a call claims when it awaits a command: it holds a reservation only
while its handler runs; it is idle before it has received anything; and when it
acknowledges a duplicate, a handler run has returned or is in progress. -/
structure Claims (caller : Caller) (command : Command) (world : World) :
    Prop where
  holding : ¬ IsRun setting command → caller ∉ world.holding
  receive : ∀ offset, command = .delivery (.receive offset) →
    Idle caller world
  findDueRetries : ∀ limit, command = .delivery (.findDueRetries limit) →
    Idle caller world
  duplicate : ∀ offset, command = .delivery (.acknowledge offset true) →
    Completed world ∨ world.holding.Nonempty

/-- No other call is about to act on this one's reservation. -/
def Unwatched (caller : Caller) (world : World) : Prop :=
  ∀ watcher, watcher ≠ caller → ¬ Watches setting watcher caller world

/-- The commands under which the law holds: the key is not read while it holds
a reservation that is not stale and whose caller has given up, no answer of a
reservation is lost, no handler raises while another delivery has just read its
reservation, and the commands that put an event into the dead letter queue and
back into its topic go through. -/
def Allows (caller : Caller) (world : World) : Command → Choice → Prop
  | .findKey found, _ =>
      found = setting.key → ∀ entry,
        world.keys.live world.clock found = some entry →
        entry.value.record.status = .processing →
        world.clock ≤
          entry.value.record.createdAt + setting.processingTimeout →
        entry.value.writtenBy ∈ world.holding
  | .insertProcessing _, choice =>
      ∀ error, choice.outcome ≠ .unacknowledged error
  | .updateRecord _ record, choice =>
      record.status = .processing →
        ∀ error, choice.outcome ≠ .unacknowledged error
  | .work, choice => choice.outcome = .succeeds ∨ Unwatched setting caller world
  | .delivery (.saveMessage _), choice => choice.outcome = .succeeds
  | .delivery (.notify _), choice =>
      caller ∈ world.owing → choice.outcome = .succeeds
  | .delivery (.updateStatus _ _ changes), choice =>
      (caller ∈ world.owing ∨ caller ∈ world.retrying →
        ∀ error, choice.outcome ≠ .fails error) ∧
      (changes.status = .retried →
        ∀ error, choice.outcome ≠ .unacknowledged error)
  | .delivery (.republish _), choice =>
      ∀ error, choice.outcome = .fails error ∨
        choice.outcome = .unacknowledged error → error.isProduceError = true
  | _, _ => True

/-- When a call may be killed: no other call is about to act on its
reservation, it has not marked a dead letter that it has to publish, and the
message of a delivery that sees to the event comes again. -/
def MayKill (world : World) (caller : Caller) : Prop :=
  caller ∉ world.retrying ∧
    (caller ∈ world.holding → Unwatched setting caller world) ∧
    (caller ∈ world.holding ∨ caller ∈ world.owing →
      ∃ offset message, world.delivering caller = some offset ∧
        world.messages[offset]? = some message ∧
        message.acknowledged = false ∧
        ∀ settled ∈ world.settling, settled.caller ≠ caller →
          settled.offset ≠ offset)

def contract : BackendContract where
  invariant := Sane setting
  guarantee := Guarantee setting
  rely := Rely setting
  claims := Claims setting
  gone := Idle
  allows := Allows setting
  mayKill := MayKill setting

variable {setting} {caller : Caller} {world before after later : World}

/-- What the law is about is the same in both worlds. -/
structure SameDuty (before after : World) : Prop where
  clock : after.clock = before.clock
  keys : after.keys = before.keys
  messages : after.messages = before.messages
  deadLetters : after.deadLetters = before.deadLetters
  completions : after.completions = before.completions
  sightings : after.sightings = before.sightings
  delivering : after.delivering = before.delivering
  holding : after.holding = before.holding
  owing : after.owing = before.owing
  settling : after.settling = before.settling
  retrying : after.retrying = before.retrying

theorem SameOwn.refl (caller : Caller) (world : World) :
    SameOwn caller world world :=
  ⟨rfl, rfl, Iff.rfl, Iff.rfl, Iff.rfl, fun _ settled => settled⟩

theorem Watches.of_same {watcher holder : Caller}
    (watches : Watches setting watcher holder before)
    (same : after.sightings watcher = before.sightings watcher) :
    Watches setting watcher holder after := by
  obtain ⟨sighting, saw, holds⟩ := watches
  exact ⟨sighting, same.trans saw, holds⟩

theorem Rely.refl (caller : Caller) (world : World) :
    Rely setting caller world world :=
  ⟨Nat.le_refl _, id, SameOwn.refl caller world,
    fun _ holds _ => .inl holds, id⟩

theorem Rely.trans {first second third : World}
    (earlier : Rely setting caller first second)
    (later : Rely setting caller second third) :
    Rely setting caller first third := by
  constructor
  · exact Nat.le_trans earlier.clock later.clock
  · exact later.completed ∘ earlier.completed
  · constructor
    · exact later.own.sighting.trans earlier.own.sighting
    · exact later.own.delivering.trans earlier.own.delivering
    · exact later.own.holding.trans earlier.own.holding
    · exact later.own.owing.trans earlier.own.owing
    · exact later.own.retrying.trans earlier.own.retrying
    · exact fun offset settled =>
        later.own.settling offset (earlier.own.settling offset settled)
  · intro holder holds watches
    rcases earlier.watched holder holds watches with holds | completed
    · exact later.watched holder holds
        (watches.of_same earlier.own.sighting)
    · exact .inr (later.completed completed)
  · exact later.rows ∘ earlier.rows

theorem Guarantee.refl (caller : Caller) (world : World) :
    Guarantee setting caller world world :=
  fun other _ => Rely.refl other world

theorem SameDuty.rely (same : SameDuty before after) (caller : Caller) :
    Rely setting caller before after := by
  obtain ⟨clock, -, -, rows, completions, sightings, delivering, holding,
    owing, settling, retrying⟩ := same
  constructor
  · omega
  · simp [Completed, completions]
  · constructor <;> simp [sightings, delivering, holding, owing, retrying,
      settling]
  · intro holder holds _
    exact .inl (holding ▸ holds)
  · simp [rows]

theorem Sane.of_same (sane : Sane setting before)
    (same : SameDuty before after) : Sane setting after := by
  obtain ⟨-, keys, messages, rows, completions, -, delivering, holding,
    owing, settling, retrying⟩ := same
  constructor
  · simpa [SeenTo, Completed, DeadLettered, Open, completions, rows, holding,
      owing, retrying, messages, settling] using sane.seenTo
  · simpa [messages] using sane.messages
  · simpa [settling, messages] using sane.settled
  · simpa [delivering, messages] using sane.delivering
  · simpa [keys] using sane.records
  · simpa [keys, Completed, completions] using sane.finished
  · simpa [rows] using sane.rows

theorem Idle.of_own (idle : Idle caller before)
    (own : SameOwn caller before after) : Idle caller after :=
  ⟨own.holding.not.mpr idle.1, own.owing.not.mpr idle.2.1,
    own.retrying.not.mpr idle.2.2⟩

/-- A killed call that nobody depends on leaves the event seen to. -/
theorem Sane.depart (sane : Sane setting world)
    (may : MayKill setting world caller) :
    Sane setting (world.depart caller) := by
  obtain ⟨notRetrying, -, comesAgain⟩ := may
  refine ⟨?_, sane.messages, ?_, sane.delivering, sane.records,
    sane.finished, sane.rows⟩
  · by_cases depends : caller ∈ world.holding ∨ caller ∈ world.owing
    · obtain ⟨offset, message, -, found, unacknowledged, alone⟩ :=
        comesAgain depends
      have opened : Open offset (world.depart caller) := by
        refine ⟨message, found, unacknowledged, ?_⟩
        intro settled member
        obtain ⟨present, different⟩ := List.mem_filter.mp member
        exact alone settled present (by simpa using different)
      exact .inr (.inr (.inr (.inr (.inr ⟨offset, opened⟩))))
    · push Not at depends
      have sameHolding : (world.depart caller).holding = world.holding :=
        Finset.erase_eq_of_notMem depends.1
      have sameOwing : (world.depart caller).owing = world.owing :=
        Finset.erase_eq_of_notMem depends.2
      have sameRetrying : (world.depart caller).retrying = world.retrying :=
        Finset.erase_eq_of_notMem notRetrying
      rcases sane.seenTo with
        completed | row | retried | held | owed | ⟨offset, message, found,
          unacknowledged, alone⟩
      · exact .inl completed
      · exact .inr (.inl row)
      · exact .inr (.inr (.inl (sameRetrying ▸ retried)))
      · exact .inr (.inr (.inr (.inl (sameHolding ▸ held))))
      · exact .inr (.inr (.inr (.inr (.inl (sameOwing ▸ owed)))))
      · have opened : Open offset (world.depart caller) :=
          ⟨message, found, unacknowledged, fun settled member =>
            alone settled (List.mem_of_mem_filter member)⟩
        exact .inr (.inr (.inr (.inr (.inr ⟨offset, opened⟩))))
  · intro settled member
    exact sane.settled settled (List.mem_of_mem_filter member)

private theorem rely_depart {other : Caller} (different : other ≠ caller)
    (may : MayKill setting world caller) :
    Rely setting other world (world.depart caller) := by
  refine ⟨Nat.le_refl _, id, ?_, ?_, id⟩
  · constructor <;> simp [World.depart, World.dropSighting, different]
  · intro holder holds watches
    left
    have another : holder ≠ caller := by
      rintro rfl
      exact may.2.1 holds other different watches
    simp [World.depart, another, holds]

theorem sound : (contract setting).Sound backend := by
  constructor
  · exact Rely.refl
  · intro caller first second third
    exact Rely.trans
  · intro world
    trivial
  · intro caller other before after different _ _ promised
    exact promised other different
  · intros
    trivial
  · intro atWork world event next sane _ happened
    rcases World.happen_cases happened with
      ⟨duration, rfl, rfl⟩ | ⟨executions, rfl⟩
    · refine ⟨⟨sane.seenTo, sane.messages, sane.settled, sane.delivering,
        sane.records, sane.finished, sane.rows⟩, trivial, ?_, ?_⟩
      · intro caller _
        refine ⟨Nat.le_add_right _ _, id, ?_, fun _ holds _ => .inl holds, id⟩
        constructor <;> simp
      · exact fun caller dead => dead
    · have same : SameDuty world { world with executions := executions } := by
        constructor <;> rfl
      exact ⟨sane.of_same same, trivial, fun caller _ => same.rely caller,
        fun caller dead => dead⟩
  · intro world caller next sane may killed
    cases killed
    refine ⟨sane.depart may, trivial, ?_, fun other different =>
      rely_depart different may⟩
    simp [contract, Idle, World.depart]
  · intro caller before after relied dead
    exact dead.of_own relied.own

/-- Being idle lasts. -/
theorem stable_idle : (contract setting).Stable backend
    (fun caller (_ : Except PyException Unit) => Idle caller) :=
  BackendContract.stable (fun _ _ _ relied idle => idle.of_own relied.own)
    (fun _ _ _ idle => idle) (fun _ _ _ idle => idle)

/-- The call handles the delivery of a message and holds nothing. -/
structure Delivers (caller : Caller) (offset : Nat) (world : World) :
    Prop where
  idle : Idle caller world
  offset : world.delivering caller = some offset

/-- The call was let through, and holds at most a reservation. -/
structure Admitted (caller : Caller) (offset : Nat) (world : World) :
    Prop where
  owing : caller ∉ world.owing
  retrying : caller ∉ world.retrying
  offset : world.delivering caller = some offset

/-- The handler raised or never ran, and the event is to be dead-lettered. -/
structure Raised (caller : Caller) (offset : Nat) (world : World) :
    Prop where
  holding : caller ∉ world.holding
  retrying : caller ∉ world.retrying
  offset : world.delivering caller = some offset

/-- The call has scheduled or discarded the event's dead letter. -/
structure Settled (caller : Caller) (offset : Nat) (world : World) :
    Prop where
  idle : Idle caller world
  settled : ⟨caller, offset⟩ ∈ world.settling

/-- A handler run has returned, or the reservation that the call just read is
still held. -/
def Turned (setting : Setting) (caller : Caller) (world : World) : Prop :=
  Completed world ∨
    ∃ holder ∈ world.holding, Watches setting caller holder world

/-! ### What a call knows lasts -/

section Stability

variable {offset : Nat} (relied : Rely setting caller before after)
include relied

theorem Delivers.stable (holds : Delivers caller offset before) :
    Delivers caller offset after :=
  ⟨holds.idle.of_own relied.own, relied.own.delivering.trans holds.offset⟩

theorem Admitted.stable (holds : Admitted caller offset before) :
    Admitted caller offset after :=
  ⟨relied.own.owing.not.mpr holds.owing,
    relied.own.retrying.not.mpr holds.retrying,
    relied.own.delivering.trans holds.offset⟩

theorem Raised.stable (holds : Raised caller offset before) :
    Raised caller offset after :=
  ⟨relied.own.holding.not.mpr holds.holding,
    relied.own.retrying.not.mpr holds.retrying,
    relied.own.delivering.trans holds.offset⟩

theorem Settled.stable (holds : Settled caller offset before) :
    Settled caller offset after :=
  ⟨holds.idle.of_own relied.own, relied.own.settling offset holds.settled⟩

theorem Turned.stable (holds : Turned setting caller before) :
    Turned setting caller after := by
  rcases holds with completed | ⟨holder, held, watches⟩
  · exact .inl (relied.completed completed)
  · rcases relied.watched holder held watches with still | completed
    · exact .inr ⟨holder, still, watches.of_same relied.own.sighting⟩
    · exact .inl completed

end Stability

theorem Delivers.raised {offset : Nat} (holds : Delivers caller offset world) :
    Raised caller offset world :=
  ⟨holds.idle.1, holds.idle.2.2, holds.offset⟩

theorem Delivers.admitted {offset : Nat}
    (holds : Delivers caller offset world) : Admitted caller offset world :=
  ⟨holds.idle.2.1, holds.idle.2.2, holds.offset⟩

/-- A command about which a call claims no more than that it holds no
reservation. -/
def Command.isPlain : Command → Bool
  | .delivery (.receive _) => false
  | .delivery (.findDueRetries _) => false
  | .delivery (.acknowledge _ true) => false
  | _ => true

theorem claim_plain {command : Command} (plain : Command.isPlain command)
    (free : caller ∉ world.holding) :
    (contract setting).claims caller command world := by
  constructor
  · exact fun _ => free
  · rintro offset rfl
    cases plain
  · rintro limit rfl
    cases plain
  · rintro offset rfl
    cases plain

private theorem claim_run {command : Command} (run : IsRun setting command) :
    (contract setting).claims caller command world := by
  constructor
  · exact fun other => absurd run other
  · rintro offset rfl
    rcases run with same | same <;> cases same
  · rintro limit rfl
    rcases run with same | same <;> cases same
  · rintro offset rfl
    rcases run with same | same <;> cases same

/-! ### The commands that leave the key alone -/

section Commands

variable {command : Command}
  {post : Except PyException (Reply command) → World → Prop}

/-- A command that changes nothing that the law is about. -/
theorem wp_same (sane : Sane setting world)
    (claim : (contract setting).claims caller command world)
    (effects : ∀ choice, SameDuty world (world.effect caller choice command).2)
    (failures : SameDuty world (world.failure caller command))
    (answers : ∀ choice later, (contract setting).Later caller world later →
      post (world.effect caller choice command).1 later)
    (raises : ∀ choice error later,
      (contract setting).Later caller world later →
      Allows setting caller world command choice →
      choice.outcome ≠ .succeeds → command.mayRaise error = true →
      post (.error error) later) :
    (contract setting).wp backend caller (request command) post world := by
  have leads : ∀ next (continues : World → Prop), SameDuty world next →
      (∀ later, (contract setting).Later caller world later →
        continues later) →
      Leads (contract setting) caller world next continues := by
    intro next continues same continued
    refine ⟨sane.of_same same, fun other _ => same.rely other, ?_⟩
    intro later reached
    exact continued later ⟨(same.rely caller).trans reached.1, reached.2⟩
  apply wp_request claim
  · intro choice _ _
    exact leads _ _ (effects choice) (answers choice)
  · intro choice error outcome allowed may
    apply leads _ _ failures
    intro later reached
    exact raises choice error later reached allowed (by simp [outcome]) may
  · intro choice error outcome allowed may _
    apply leads _ _ (effects choice)
    intro later reached
    exact raises choice error later reached allowed (by simp [outcome]) may

end Commands

/-! ### The commands on the key -/

section Keys

variable {offset : Nat} {record : IdempotencyRecord}

/-- Writing a record keeps the invariant when it is a reservation, or when a
handler run has returned. -/
theorem Sane.writeKey {expiresAt : Nat} (sane : Sane setting world)
    (own : record.key = setting.key)
    (finished : record.status ≠ .processing → Completed world) :
    Sane setting
      (world.writeKey setting.key ⟨record, caller⟩ expiresAt) := by
  refine ⟨?_, sane.messages, sane.settled, sane.delivering, ?_, ?_,
    sane.rows⟩
  · by_cases processing : record.status = .processing
    · right; right; right; left
      exact ⟨caller, by simp [World.writeKey, World.noteHolding, processing]⟩
    · exact .inl (finished processing)
  · intro other entry present
    by_cases same : other = setting.key
    · subst same
      simp only [World.writeKey, Function.update_self,
        Option.some.injEq] at present
      rw [← present]
      exact own
    · simp only [World.writeKey, Function.update_of_ne same] at present
      exact sane.records other entry present
  · intro entry present unprocessed
    simp only [World.writeKey, Function.update_self,
      Option.some.injEq] at present
    apply finished
    rw [← present] at unprocessed
    exact unprocessed

private theorem guarantee_writeKey {expiresAt : Nat} :
    Guarantee setting caller world
      (world.writeKey setting.key ⟨record, caller⟩ expiresAt) := by
  intro other different
  have mem : ∀ holder, holder ∈ world.holding →
      holder ∈ (world.writeKey setting.key ⟨record, caller⟩
        expiresAt).holding := by
    intro holder holds
    simp only [World.writeKey, World.noteHolding]
    split
    · exact Finset.mem_insert_of_mem holds
    · exact holds
  refine ⟨Nat.le_refl _, id, ?_, fun holder holds _ => .inl (mem holder holds),
    id⟩
  constructor
  · rfl
  · rfl
  · simp only [World.writeKey, World.noteHolding]
    split <;> simp [different]
  · rfl
  · rfl
  · exact fun _ settled => settled

theorem Sane.dropKey (sane : Sane setting world) (key : String) :
    Sane setting (world.dropKey key) := by
  refine ⟨sane.seenTo, sane.messages, sane.settled, sane.delivering, ?_, ?_,
    sane.rows⟩
  · intro other entry present
    by_cases same : other = key
    · subst same
      simp [World.dropKey] at present
    · simp only [World.dropKey, Function.update_of_ne same] at present
      exact sane.records other entry present
  · intro entry present
    by_cases same : setting.key = key
    · simp [World.dropKey, same] at present
    · simp only [World.dropKey, Function.update_of_ne same] at present
      exact sane.finished entry present

/-- What a call reads under its key: nothing; a final record, which only a
handler run that returned leaves; a stale reservation; or one that is held. -/
theorem wp_findKey
    {post : Except PyException (Reply (.findKey setting.key)) →
      World → Prop}
    (sane : Sane setting world) (delivers : Delivers caller offset world)
    (misses : ∀ later, Sane setting later → Delivers caller offset later →
      (Completed world → Completed later) → post (.ok none) later)
    (finds : ∀ existing later, Sane setting later →
      Delivers caller offset later → (Completed world → Completed later) →
      existing.key = setting.key →
      (existing.status ≠ .processing → Completed later) →
      (existing.status = .processing → Turned setting caller later ∨
        existing.createdAt + setting.processingTimeout < later.clock) →
      post (.ok (some existing)) later)
    (raises : ∀ error later, Sane setting later →
      Delivers caller offset later → (Completed world → Completed later) →
      post (.error error) later) :
    (contract setting).wp backend caller (request (.findKey setting.key)) post
      world := by
  have kept : Sane setting (world.noteSighting caller setting.key) :=
    ⟨sane.seenTo, sane.messages, sane.settled, sane.delivering, sane.records,
      sane.finished, sane.rows⟩
  have promised : Guarantee setting caller world
      (world.noteSighting caller setting.key) := by
    intro other different
    refine ⟨Nat.le_refl _, id, ?_, fun _ holds _ => .inl holds, id⟩
    constructor <;> simp [World.noteSighting, different]
  have still : Delivers caller offset
      (world.noteSighting caller setting.key) :=
    ⟨delivers.idle, delivers.offset⟩
  apply wp_request (claim_plain rfl delivers.idle.1)
  · intro choice _ allowed
    refine ⟨kept, promised, fun later reached => ?_⟩
    have stays := still.stable reached.1
    simp only [World.effect]
    cases found : world.keys.live world.clock setting.key with
    | none =>
        simp only [ExpiringStore.get, found, Option.map_none]
        exact misses later reached.2 stays reached.1.completed
    | some entry =>
        simp only [ExpiringStore.get, found, Option.map_some]
        have stored := (ExpiringStore.live_eq_some.mp found).1
        apply finds _ later reached.2 stays reached.1.completed
        · exact sane.records _ entry stored
        · intro unprocessed
          exact reached.1.completed (sane.finished entry stored unprocessed)
        · intro processing
          by_cases stale : world.clock ≤
              entry.value.record.createdAt + setting.processingTimeout
          · left
            apply Turned.stable reached.1
            right
            refine ⟨entry.value.writtenBy,
              allowed rfl entry found processing stale,
              ⟨entry.value, world.clock⟩, ?_, rfl, processing, stale⟩
            simp [World.effect, World.noteSighting, ExpiringStore.get, found]
          · right
            have clock : world.clock ≤ later.clock := reached.1.clock
            omega
  · intro choice error _ _ _
    refine ⟨sane, Guarantee.refl _ _, fun later reached => ?_⟩
    exact raises error later reached.2 (delivers.stable reached.1)
      reached.1.completed
  · intro choice error _ _ _ _
    refine ⟨kept, promised, fun later reached => ?_⟩
    exact raises error later reached.2 (still.stable reached.1)
      reached.1.completed

/-- Reserving the key. -/
theorem wp_insertProcessing
    {post : Except PyException (Reply (.insertProcessing record)) →
      World → Prop}
    (sane : Sane setting world) (delivers : Delivers caller offset world)
    (own : record.key = setting.key) (processing : record.status = .processing)
    (reserves : ∀ later, Admitted caller offset later → post (.ok ()) later)
    (raises : ∀ error later, Delivers caller offset later →
      post (.error error) later) :
    (contract setting).wp backend caller
      (request (.insertProcessing record)) post world := by
  have unreserved : Sane setting (world.noteBeaten caller record.key) :=
    sane.of_same (by constructor <;> rfl)
  have beaten : Delivers caller offset (world.noteBeaten caller record.key) :=
    ⟨delivers.idle, delivers.offset⟩
  apply wp_request (claim_plain rfl delivers.idle.1)
  · intro choice _ _
    cases found : world.keys.live world.clock record.key with
    | some entry =>
        rw [World.effect_insertProcessing_taken found]
        refine ⟨unreserved, ?_, fun later reached => ?_⟩
        · exact fun other _ => SameDuty.rely (by constructor <;> rfl) other
        · exact raises _ later (beaten.stable reached.1)
    | none =>
        rw [World.effect_insertProcessing_free found, own]
        refine ⟨sane.writeKey own fun other => absurd processing other,
          guarantee_writeKey, fun later reached => ?_⟩
        apply reserves later
        apply Admitted.stable reached.1
        exact ⟨delivers.idle.2.1, delivers.idle.2.2, delivers.offset⟩
  · intro choice error _ _ _
    refine ⟨sane, Guarantee.refl _ _, fun later reached => ?_⟩
    exact raises error later (delivers.stable reached.1)
  · intro choice error outcome allowed _ _
    exact absurd outcome (allowed error)

/-- Taking a stale reservation over. -/
theorem wp_takeOver {loaded : IdempotencyRecord}
    {post : Except PyException (Reply (.updateRecord loaded record)) →
      World → Prop}
    (sane : Sane setting world) (delivers : Delivers caller offset world)
    (own : record.key = setting.key) (processing : record.status = .processing)
    (takes : ∀ written later, Admitted caller offset later →
      post (.ok written) later)
    (raises : ∀ error later, Delivers caller offset later →
      post (.error error) later) :
    (contract setting).wp backend caller
      (request (.updateRecord loaded record)) post world := by
  apply wp_request (claim_plain rfl delivers.idle.1)
  · intro choice _ _
    cases found : world.keys.live world.clock record.key with
    | some entry =>
        rw [World.effect_updateRecord_found found, own]
        refine ⟨sane.writeKey own fun other => absurd processing other,
          guarantee_writeKey, fun later reached => ?_⟩
        apply takes _ later
        apply Admitted.stable reached.1
        exact ⟨delivers.idle.2.1, delivers.idle.2.2, delivers.offset⟩
    | none =>
        rw [World.effect_updateRecord_missing found]
        refine ⟨sane, Guarantee.refl _ _, fun later reached => ?_⟩
        exact takes _ later (delivers.stable reached.1).admitted
  · intro choice error _ _ _
    refine ⟨sane, Guarantee.refl _ _, fun later reached => ?_⟩
    exact raises error later (delivers.stable reached.1)
  · intro choice error outcome allowed _ _
    exact absurd outcome (allowed processing error)

/-- Marking the key after the handler returned. -/
theorem wp_markRecord {loaded : IdempotencyRecord}
    {post : Except PyException (Reply (.updateRecord loaded record)) →
      World → Prop}
    (sane : Sane setting world) (delivers : Delivers caller offset world)
    (completed : Completed world) (own : record.key = setting.key)
    (status : record.status = .completed)
    (continues : ∀ reply later, Delivers caller offset later →
      Completed later → post reply later) :
    (contract setting).wp backend caller
      (request (.updateRecord loaded record)) post world := by
  have leads : ∀ choice (continues : World → Prop),
      (∀ later, Delivers caller offset later → Completed later →
        continues later) →
      Leads (contract setting) caller world
        (world.effect caller choice (.updateRecord loaded record)).2
        continues := by
    intro choice continues continued
    cases found : world.keys.live world.clock record.key with
    | some entry =>
        rw [World.effect_updateRecord_found found, own]
        refine ⟨sane.writeKey own fun _ => completed, guarantee_writeKey,
          fun later reached => ?_⟩
        apply continued later _ (reached.1.completed completed)
        apply Delivers.stable reached.1
        refine ⟨⟨?_, delivers.idle.2⟩, delivers.offset⟩
        simpa [World.writeKey, World.noteHolding, status]
          using delivers.idle.1
    | none =>
        rw [World.effect_updateRecord_missing found]
        refine ⟨sane, Guarantee.refl _ _, fun later reached => ?_⟩
        exact continued later (delivers.stable reached.1)
          (reached.1.completed completed)
  apply wp_request (claim_plain rfl delivers.idle.1)
  · intro choice _ _
    exact leads choice _ (continues _)
  · intro choice error _ _ _
    refine ⟨sane, Guarantee.refl _ _, fun later reached => ?_⟩
    exact continues _ later (delivers.stable reached.1)
      (reached.1.completed completed)
  · intro choice error _ _ _ _
    exact leads choice _ (continues _)

/-- Releasing the key: the event stays to be dead-lettered. -/
theorem wp_release {post : Except PyException Bool → World → Prop}
    (sane : Sane setting world) (raised : Raised caller offset world)
    (continues : ∀ reply later, Raised caller offset later →
      post reply later) :
    (contract setting).wp backend caller
      (IdempotencyManager.release setting.key) post world := by
  have dropped : Guarantee setting caller world
      (world.dropKey setting.key) := by
    intro other _
    refine ⟨Nat.le_refl _, id, ?_, fun _ holds _ => .inl holds, id⟩
    constructor <;> simp [World.dropKey]
  have still : Raised caller offset (world.dropKey setting.key) :=
    ⟨raised.holding, raised.retrying, raised.offset⟩
  rw [IdempotencyManager.release, Contract.wp_bind]
  apply wp_request (claim_plain rfl raised.holding)
  · intro choice _ _
    exact ⟨sane.dropKey _, dropped, fun later reached =>
      continues _ later (still.stable reached.1)⟩
  · intro choice error _ _ _
    exact ⟨sane, Guarantee.refl _ _, fun later reached =>
      continues _ later (raised.stable reached.1)⟩
  · intro choice error _ _ _ _
    exact ⟨sane.dropKey _, dropped, fun later reached =>
      continues _ later (still.stable reached.1)⟩

/-- The handler: it returns, or it raises while nobody is about to act on its
reservation. -/
theorem wp_work {post : Except PyException Unit → World → Prop}
    (sane : Sane setting world) (admitted : Admitted caller offset world)
    (returns : ∀ later, Sane setting later → Delivers caller offset later →
      Completed later → post (.ok ()) later)
    (raises : ∀ error later, Sane setting later →
      Raised caller offset later → post (.error error) later) :
    (contract setting).wp backend caller (request .work) post world := by
  apply wp_request (claim_run (.inr rfl))
  · intro choice _ _
    have completed : Completed (world.noteReturn caller) := by
      simp [Completed, World.noteReturn]
    refine ⟨⟨.inl completed, sane.messages, sane.settled, sane.delivering,
      sane.records, fun _ _ _ => completed, sane.rows⟩, ?_, ?_⟩
    · intro other different
      refine ⟨Nat.le_refl _, fun _ => completed, ?_,
        fun _ _ _ => .inr completed, id⟩
      constructor <;> simp [World.effect, World.noteReturn, different]
    · intro later reached
      apply returns later reached.2 _ (reached.1.completed completed)
      apply Delivers.stable reached.1
      refine ⟨⟨?_, admitted.owing, admitted.retrying⟩, admitted.offset⟩
      simp [World.effect, World.noteReturn]
  · intro choice error outcome allowed _
    have unwatched : Unwatched setting caller world :=
      allowed.resolve_left (by simp [outcome])
    refine ⟨⟨?_, sane.messages, sane.settled, sane.delivering,
      sane.records, sane.finished, sane.rows⟩, ?_, ?_⟩
    · right; right; right; right; left
      exact ⟨caller, by simp [World.failure, World.noteRaise]⟩
    · intro other different
      refine ⟨Nat.le_refl _, id, ?_, ?_, id⟩
      · constructor <;> simp [World.failure, World.noteRaise, different]
      · intro holder holds watches
        left
        have another : holder ≠ caller := by
          rintro rfl
          exact unwatched other different watches
        simp [World.failure, World.noteRaise, another, holds]
    · intro later reached
      apply raises error later reached.2
      apply Raised.stable reached.1
      refine ⟨?_, admitted.retrying, admitted.offset⟩
      simp [World.failure, World.noteRaise]
  · intro choice error _ _ _ lost
    cases lost

end Keys

/-! ### A failure becomes a dead letter -/

section DeadLetters

variable {offset : Nat} {message : DLQMessageDocument}
  {changes : DLQMessageChanges}

/-- A row of the event in the subscriber's group. -/
def OfSetting (setting : Setting) (message : DLQMessageDocument) : Prop :=
  message.event = setting.event ∧ message.consumerGroup = setting.groupId

theorem OfSetting.isFor (own : OfSetting setting message) :
    message.isFor setting.event.base.eventId setting.groupId = true := by
  simp [DLQMessageDocument.isFor, own.1, own.2]

/-- The call saved the event's dead letter and has not scheduled it. -/
structure Owes (caller : Caller) (offset : Nat) (world : World) : Prop where
  raised : Raised caller offset world
  owing : caller ∈ world.owing
  rows : world.deadLetters ≠ []

theorem Owes.stable (relied : Rely setting caller before after)
    (owes : Owes caller offset before) : Owes caller offset after :=
  ⟨owes.raised.stable relied, relied.own.owing.mpr owes.owing,
    relied.rows owes.rows⟩

theorem mem_saveMessage {row : DLQMessageDocument}
    (member : row ∈ (world.saveMessage caller message).deadLetters) :
    row = message ∨ row ∈ world.deadLetters := by
  simp only [World.saveMessage] at member
  split at member
  · obtain ⟨old, present, same⟩ := List.mem_map.mp member
    split at same
    · exact .inl same.symm
    · exact .inr (same ▸ present)
  · exact List.mem_cons.mp member

private theorem saveMessage_ne_nil :
    (world.saveMessage caller message).deadLetters ≠ [] := by
  simp only [World.saveMessage]
  split
  · next some =>
      intro empty
      simp [List.map_eq_nil_iff.mp empty] at some
  · simp

private theorem wp_saveMessage
    {post : Except PyException Unit → World → Prop}
    (sane : Sane setting world) (raised : Raised caller offset world)
    (own : OfSetting setting message)
    (saves : ∀ later, Sane setting later → Owes caller offset later →
      post (.ok ()) later) :
    (contract setting).wp backend caller
      (request (.delivery (.saveMessage message))) post world := by
  apply wp_request (claim_plain rfl raised.holding)
  · intro choice _ _
    refine ⟨⟨?_, sane.messages, sane.settled, sane.delivering, sane.records,
      sane.finished, ?_⟩, ?_, fun later reached => ?_⟩
    · right; right; right; right; left
      exact ⟨caller, by
        simp [World.effect, World.effectDelivery, World.saveMessage]⟩
    · intro row member
      rcases mem_saveMessage member with rfl | present
      · exact own
      · exact sane.rows row present
    · intro other different
      refine ⟨Nat.le_refl _, id, ?_, fun _ holds _ => .inl holds,
        fun _ => saveMessage_ne_nil⟩
      constructor <;> simp [World.effect, World.effectDelivery,
        World.saveMessage, different]
    · apply saves later reached.2
      apply Owes.stable reached.1
      refine ⟨⟨raised.holding, raised.retrying, raised.offset⟩, ?_,
        saveMessage_ne_nil⟩
      simp [World.effect, World.effectDelivery, World.saveMessage]
  · intro choice error outcome allowed _
    rw [allowed] at outcome
    cases outcome
  · intro choice error outcome allowed _ _
    rw [allowed] at outcome
    cases outcome

/-- A change of all rows keeps them rows of the event. -/
theorem rows_change (sane : Sane setting world) :
    ∀ row ∈ (world.changeRow setting.event.base.eventId setting.groupId
      changes).deadLetters,
      OfSetting setting row ∧ row.status = changes.status := by
  intro row member
  obtain ⟨old, present, rfl⟩ := List.mem_map.mp member
  have own : OfSetting setting old := sane.rows old present
  rw [if_pos own.isFor]
  exact ⟨own, rfl⟩

theorem changeRow_ne_nil (rows : world.deadLetters ≠ []) (eventId : EventId)
    (consumerGroup : String) :
    (world.changeRow eventId consumerGroup changes).deadLetters ≠ [] := by
  simpa [World.changeRow] using rows

theorem updateStatus_settles (eventId : EventId) (consumerGroup : String)
    (settles : changes.status = .scheduled ∨ changes.status = .discarded) :
    world.updateStatus caller eventId consumerGroup changes =
      (world.changeRow eventId consumerGroup changes).noteSettled caller := by
  rcases settles with status | status <;>
    simp only [World.updateStatus, status]

/-- Scheduling or discarding the event's dead letter. -/
theorem wp_settle {post : Except PyException Unit → World → Prop}
    (sane : Sane setting world) (free : caller ∉ world.holding)
    (rows : world.deadLetters ≠ []) (own : OfSetting setting message)
    (settles : changes.status = .scheduled ∨ changes.status = .discarded)
    (continues : ∀ reply later, Sane setting later → Idle caller later →
      later.deadLetters ≠ [] →
      (∀ offset, Owes caller offset world → Settled caller offset later) →
      post reply later) :
    (contract setting).wp backend caller
      (DLQManager.updateStatus message changes) post world := by
  unfold DLQManager.updateStatus
  rw [own.1, own.2]
  have leads : ∀ (continues : World → Prop),
      (∀ later, Sane setting later → Idle caller later →
        later.deadLetters ≠ [] →
        (∀ offset, Owes caller offset world → Settled caller offset later) →
        continues later) →
      Leads (contract setting) caller world
        (world.updateStatus caller setting.event.base.eventId setting.groupId
          changes) continues := by
    intro continues continued
    rw [updateStatus_settles _ _ settles]
    have rowsAfter : ∀ row ∈ (world.changeRow setting.event.base.eventId
        setting.groupId changes).deadLetters,
        OfSetting setting row ∧ row.status = changes.status :=
      rows_change sane
    refine ⟨⟨?_, sane.messages, ?_, sane.delivering, sane.records,
      sane.finished, fun row member => (rowsAfter row member).1⟩, ?_, ?_⟩
    · right; left
      obtain ⟨row, present⟩ := List.exists_mem_of_ne_nil _
        (changeRow_ne_nil rows setting.event.base.eventId setting.groupId)
      obtain ⟨ofSetting, status⟩ := rowsAfter row present
      exact ⟨row, present, ofSetting.isFor, status ▸ settles⟩
    · intro settled member
      simp only [World.noteSettled] at member
      split at member
      · next found delivers =>
          rcases List.mem_cons.mp member with rfl | present
          · exact sane.delivering caller found delivers
          · exact sane.settled settled present
      · exact sane.settled settled member
    · intro other different
      refine ⟨Nat.le_refl _, id, ?_, fun _ holds _ => .inl holds,
        fun rows => changeRow_ne_nil rows _ _⟩
      constructor
      · rfl
      · rfl
      · rfl
      · simp [World.noteSettled, World.changeRow, different]
      · simp [World.noteSettled, World.changeRow, different]
      · intro offset settled
        simp only [World.noteSettled]
        split
        · exact List.mem_cons_of_mem _ settled
        · exact settled
    · intro later reached
      have idle : Idle caller later := by
        apply Idle.of_own _ reached.1.own
        simp [Idle, World.noteSettled, World.changeRow, free]
      apply continued later reached.2 idle
        (reached.1.rows (changeRow_ne_nil rows _ _))
      intro offset owes
      refine ⟨idle, reached.1.own.settling offset ?_⟩
      simp [World.noteSettled, World.changeRow, owes.raised.offset]
  apply wp_request (claim_plain rfl free)
  · intro choice _ _
    exact leads _ (continues _)
  · intro choice error outcome allowed _
    have neither : caller ∉ world.owing ∧ caller ∉ world.retrying := by
      constructor <;> intro member
      · exact allowed.1 (.inl member) error outcome
      · exact allowed.1 (.inr member) error outcome
    refine ⟨sane, Guarantee.refl _ _, fun later reached => ?_⟩
    apply continues _ later reached.2
    · exact Idle.of_own ⟨free, neither⟩ reached.1.own
    · exact reached.1.rows rows
    · exact fun _ owes => absurd owes.owing neither.1
  · intro choice error _ _ _ _
    exact leads _ (continues _)

/-- Reading the clock, or making up a number. -/
theorem wp_value {command : Command}
    {post : Except PyException (Reply command) → World → Prop}
    (sane : Sane setting world) (free : caller ∉ world.holding)
    (plain : Command.isPlain command = true)
    (effects : ∀ choice, (world.effect caller choice command).2 = world)
    (never : ∀ error, command.mayRaise error = false)
    (answers : ∀ choice later, (contract setting).Later caller world later →
      post (world.effect caller choice command).1 later) :
    (contract setting).wp backend caller (request command) post world := by
  apply wp_request (claim_plain plain free)
  · intro choice _ _
    rw [effects choice]
    exact ⟨sane, Guarantee.refl _ _, answers choice⟩
  · intro choice error _ _ may
    simp [never error] at may
  · intro choice error _ _ may _
    simp [never error] at may

/-- Telling about a row. -/
theorem wp_notify {event : DLQEvent}
    {post : Except PyException Unit → World → Prop}
    (sane : Sane setting world) (free : caller ∉ world.holding)
    (notified : ∀ later, (contract setting).Later caller world later →
      post (.ok ()) later)
    (raises : ∀ error later, (contract setting).Later caller world later →
      caller ∉ world.owing → post (.error error) later) :
    (contract setting).wp backend caller (DLQManager.notify event) post
      world := by
  apply wp_same sane (claim_plain rfl free) (fun _ => by constructor <;> rfl)
    (by constructor <;> rfl)
  · intro _ later reached
    exact notified later reached
  · intro choice error later reached allowed other _
    exact raises error later reached fun owing => other (allowed owing)

theorem wp_discardMessage {reason : String}
    {post : Except PyException Unit → World → Prop}
    (sane : Sane setting world) (owes : Owes caller offset world)
    (own : OfSetting setting message)
    (continues : ∀ reply later, Sane setting later →
      Settled caller offset later → post reply later) :
    (contract setting).wp backend caller
      (DLQManager.discardMessage message reason) post world := by
  rw [DLQManager.discardMessage, Contract.wp_bind]
  apply wp_value sane owes.raised.holding rfl (fun _ => rfl) (fun _ => rfl)
  intro _ stamped ⟨relied, kept⟩
  simp only [World.effect]
  have still := owes.stable relied
  rw [Contract.wp_bind]
  apply wp_settle kept still.raised.holding still.rows own (.inr rfl)
  intro reply later keptLater _ _ settles
  have settled := settles offset still
  cases reply with
  | error error => exact continues _ later keptLater settled
  | ok _ =>
      apply wp_notify keptLater settled.idle.1
      · intro final ⟨reliedFinal, keptFinal⟩
        exact continues _ final keptFinal (settled.stable reliedFinal)
      · intro error final ⟨reliedFinal, keptFinal⟩ _
        exact continues _ final keptFinal (settled.stable reliedFinal)

/-- An event that the queue keeps is scheduled or discarded. -/
theorem wp_handleMessage {now : Nat}
    {post : Except PyException Unit → World → Prop}
    (kept : setting.Kept) (sane : Sane setting world)
    (raised : Raised caller offset world) (own : OfSetting setting message)
    (recent : message.failedAt = now)
    (continues : ∀ reply later, Sane setting later →
      Settled caller offset later → post reply later) :
    (contract setting).wp backend caller
      (DLQManager.handleMessage setting.testEnvironment message now) post
      world := by
  have passes : DLQManager.passesFilters setting.testEnvironment message now
      = true := by
    have young : DLQManager.filterOldMessages message now = true := by
      simp [DLQManager.filterOldMessages, recent, seconds]
    rcases kept with test | plain
    · simp [DLQManager.passesFilters, test, young]
    · simp [DLQManager.passesFilters, DLQManager.filterTestEvents, own.1,
        plain, young]
  rw [DLQManager.handleMessage, if_pos passes, Contract.wp_bind]
  refine wp_saveMessage sane raised ⟨own.1, own.2⟩ ?_
  intro saved keptSaved owes
  rw [Contract.wp_bind]
  apply wp_notify keptSaved owes.raised.holding
  · intro told ⟨reliedTold, keptTold⟩
    have owesTold := owes.stable reliedTold
    dsimp only
    split
    · exact wp_discardMessage keptTold owesTold own continues
    · rw [Contract.wp_bind]
      apply wp_value keptTold owesTold.raised.holding rfl (fun _ => rfl)
        (fun _ => rfl)
      intro _ drawn ⟨reliedDrawn, keptDrawn⟩
      have owesDrawn := owesTold.stable reliedDrawn
      simp only [World.effect]
      rw [Contract.wp_bind]
      apply wp_value keptDrawn owesDrawn.raised.holding rfl (fun _ => rfl)
        (fun _ => rfl)
      intro _ stamped ⟨reliedStamped, keptStamped⟩
      have owesStamped := owesDrawn.stable reliedStamped
      simp only [World.effect]
      apply wp_settle keptStamped owesStamped.raised.holding owesStamped.rows
        own (.inl rfl)
      intro reply later keptLater _ _ settles
      exact continues reply later keptLater (settles offset owesStamped)
  · intro error told _ free
    exact absurd owes.owing free

end DeadLetters

/-! ### A delivery through its middlewares -/

section Delivery

variable {offset : Nat}

/-- What a check promises: a duplicate was turned away for a good reason, and
who is let through holds at most the reservation. -/
structure Checks (setting : Setting) (caller : Caller) (offset : Nat)
    (post : Except PyException IdempotencyResult → World → Prop) : Prop where
  turned : ∀ result later, result.isDuplicate = true →
    Delivers caller offset later → Turned setting caller later →
    post (.ok result) later
  admitted : ∀ result later, result.isDuplicate = false →
    Admitted caller offset later → post (.ok result) later
  raised : ∀ error later, Delivers caller offset later →
    post (.error error) later

/-- The assertions of a delivery that checks the event's key. -/
def checkRules {ttl : Nat}
    {post : Except PyException IdempotencyResult → World → Prop}
    (checks : Checks setting caller offset post) :
    CheckRules (contract setting) caller setting.config setting.key ttl post
    where
  outside := Delivers caller offset
  stamped _ := Delivers caller offset
  beaten := Delivers caller offset
  seen existing world := Delivers caller offset world ∧
    existing.key = setting.key ∧
    (existing.status ≠ .processing → Completed world) ∧
    (existing.status = .processing → Turned setting caller world ∨
      existing.createdAt + setting.processingTimeout < world.clock)
  aged existing now world := Delivers caller offset world ∧
    existing.key = setting.key ∧
    (Turned setting caller world ∨
      existing.createdAt + setting.processingTimeout < now)
  find world sane delivers := by
    apply wp_findKey sane delivers
    · intro later _ still _
      exact still
    · intro existing later _ still _ own finished processing
      exact ⟨still, own, finished, processing⟩
    · intro error later _ still _
      exact checks.raised error later still
  stamp world sane delivers := by
    apply wp_now (claim_plain rfl delivers.idle.1) sane (Guarantee.refl _ _)
    intro later reached
    exact delivers.stable reached.1
  insert world record sane delivers own processing _ _ := by
    apply wp_insertProcessing sane delivers own processing
    · intro later admitted result free
      exact checks.admitted result later free admitted
    · intro error later still
      dsimp only
      split
      · exact still
      · exact checks.raised error later still
  findAgain world sane delivers := by
    apply wp_findKey sane delivers
    · intro later _ still _ result free
      exact checks.admitted result later free still.admitted
    · intro existing later _ still _ own finished processing
      exact ⟨still, own, finished, processing⟩
    · intro error later _ still _
      exact checks.raised error later still
  age world existing sane seen processing := by
    obtain ⟨delivers, own, -, reserved⟩ := seen
    apply wp_now (claim_plain rfl delivers.idle.1) sane (Guarantee.refl _ _)
    intro later reached
    exact ⟨delivers.stable reached.1, own,
      (reserved processing).imp (Turned.stable reached.1) id⟩
  takeOver world existing now sane aged _ _ := by
    refine wp_takeOver sane aged.1 aged.2.1 rfl ?_ ?_
    · intro written later admitted result free
      exact checks.admitted result later free admitted
    · intro error later still
      exact checks.raised error later still
  young world existing now _ aged fresh _ result duplicate _ := by
    obtain ⟨delivers, -, turned⟩ := aged
    apply checks.turned result world duplicate delivers
    apply turned.resolve_right
    intro stale
    simp only [Setting.processingTimeout] at stale
    omega
  finished world existing _ seen unprocessed result duplicate _ := by
    obtain ⟨delivers, -, finished, -⟩ := seen
    exact checks.turned result world duplicate delivers
      (.inl (finished unprocessed))

/-- The assertions of a delivery that marks the key after its handler
returned. -/
def markRules {post : Except PyException Bool → World → Prop}
    (continues : ∀ reply later, Delivers caller offset later →
      Completed later → post reply later) :
    MarkRules (contract setting) caller setting.config setting.key none post
    where
  holding world := Delivers caller offset world ∧ Completed world
  marking existing world := Delivers caller offset world ∧
    Completed world ∧ existing.key = setting.key
  find world sane holding := by
    apply wp_findKey sane holding.1
    · intro later _ still lasts
      exact continues _ later still (lasts holding.2)
    · intro existing later _ still lasts own _ _
      exact ⟨still, lasts holding.2, own⟩
    · intro error later _ still lasts
      exact ⟨continues _ later still (lasts holding.2),
        continues _ later still (lasts holding.2)⟩
  read world existing sane marking := by
    apply wp_now (claim_plain rfl marking.1.idle.1) sane (Guarantee.refl _ _)
    intro later reached
    exact ⟨marking.1.stable reached.1, reached.1.completed marking.2.1,
      marking.2.2⟩
  update world existing record sane marking own status _ := by
    apply wp_markRecord sane marking.1 marking.2.1 (own.trans marking.2.2)
      status
    intro reply later still completed
    cases reply <;> exact continues _ later still completed

/-- How the middleware around the handler may end: a duplicate was turned away
for a good reason, a handled event has a handler run that returned, and an
error leaves the event to be dead-lettered. -/
def Consumed (setting : Setting) (caller : Caller) (offset : Nat) :
    Except PyException ConsumeResult → World → Prop
  | .ok .duplicate, world =>
      Delivers caller offset world ∧ Turned setting caller world
  | .ok .handled, world => Delivers caller offset world ∧ Completed world
  | .ok _, _ => False
  | .error _, world => Raised caller offset world

/-- What the check of a delivery ends with. -/
def Checked (setting : Setting) (caller : Caller) (offset : Nat)
    (result : Except PyException IdempotencyResult) (world : World) : Prop :=
  match result with
  | .ok result =>
      if result.isDuplicate then
        Delivers caller offset world ∧ Turned setting caller world
      else Admitted caller offset world
  | .error _ => Delivers caller offset world

/-- What marking the key after the handler returned ends with. -/
def Marked (caller : Caller) (offset : Nat) (reply : Except PyException Bool)
    (world : World) : Prop :=
  match reply with
  | .ok _ => Delivers caller offset world ∧ Completed world
  | .error _ => Raised caller offset world

private theorem wp_idempotencyMiddleware {ttl : Nat} (sane : Sane setting world)
    (delivers : Delivers caller offset world) :
    (contract setting).wp backend caller
      (IdempotencyMiddleware.consumeScope setting.config ttl setting.event
        (request .work)) (Consumed setting caller offset) world := by
  have checks : Checks setting caller offset
      (Checked setting caller offset) := by
    constructor
    · intro result later duplicate still turned
      simp [Checked, duplicate, still, turned]
    · intro result later free admitted
      simp [Checked, free, admitted]
    · intro error later still
      exact still
  rw [IdempotencyMiddleware.consumeScope, underKey, Contract.wp_bind]
  apply Contract.wp_mono _ sane
    ((checkRules checks).wp_checkAndReserve sane delivers)
  intro result checked keptChecked reached
  cases result with
  | error error => exact reached.raised
  | ok result =>
      dsimp only [Checked] at reached ⊢
      split at reached
      · next duplicate =>
          rw [if_pos duplicate]
          exact reached
      · next free =>
          rw [if_neg free, Contract.wp_bind]
          apply wp_same keptChecked (claim_run (.inl rfl))
            (fun _ => by constructor <;> rfl) (by constructor <;> rfl)
          · intro _ started ⟨reliedStarted, keptStarted⟩
            simp only [World.effect]
            rw [Contract.wp_bind, Contract.wp_attempt]
            apply wp_work keptStarted (Admitted.stable reliedStarted reached)
            · intro worked keptWorked still completed
              dsimp only
              rw [Contract.wp_bind]
              have marked : ∀ (reply : Except PyException Bool) later,
                  Delivers caller offset later → Completed later →
                    Marked caller offset reply later := by
                intro reply later delivers completed
                cases reply with
                | ok _ => exact ⟨delivers, completed⟩
                | error error => exact delivers.raised
              apply Contract.wp_mono _ keptWorked
                ((markRules marked).wp_markCompleted keptWorked
                  ⟨still, completed⟩)
              intro reply final _ reachedFinal
              cases reply <;> exact reachedFinal
            · intro error failed keptFailed raised
              dsimp only
              rw [Contract.wp_bind]
              apply wp_release keptFailed raised
              intro reply final raisedFinal
              cases reply <;> exact raisedFinal
          · intro choice error later _ _ _ may
            cases may

private theorem wp_deadLetterMiddleware {message : Message} {ttl : Nat}
    (kept : setting.Kept) (own : message.event = setting.event)
    (sane : Sane setting world) (delivers : Delivers caller offset world) :
    (contract setting).wp backend caller
      (DeadLetterMiddleware.consumeScope setting.testEnvironment
        setting.groupId message
        (IdempotencyMiddleware.consumeScope setting.config ttl message.event
          (request .work)))
      (fun result later => match result with
        | .ok _ => Consumed setting caller offset result later
        | .error _ => Settled caller offset later) world := by
  rw [DeadLetterMiddleware.consumeScope, Contract.wp_attempt, own]
  apply Contract.wp_mono _ sane (wp_idempotencyMiddleware sane delivers)
  intro result later keptLater consumed
  cases result with
  | ok result => exact consumed
  | error error =>
      have raised : Raised caller offset later := consumed
      dsimp only
      rw [Contract.wp_bind]
      apply wp_value keptLater raised.holding rfl (fun _ => rfl)
        (fun _ => rfl)
      intro _ stamped ⟨reliedStamped, keptStamped⟩
      simp only [World.effect]
      rw [Contract.wp_bind]
      refine wp_handleMessage kept keptStamped (raised.stable reliedStamped)
        ⟨rfl, rfl⟩ rfl ?_
      intro reply final _ settled
      cases reply <;> exact settled

theorem Turned.held (turned : Turned setting caller world) :
    Completed world ∨ world.holding.Nonempty :=
  turned.imp id fun ⟨holder, held, _⟩ => ⟨holder, held⟩

/-- Acknowledging a message on some ground: a handler run that has returned or
is in progress, or a dead letter that this delivery settled. -/
theorem Sane.acknowledge (sane : Sane setting world)
    (ground : Completed world ∨ world.holding.Nonempty ∨
      ⟨caller, offset⟩ ∈ world.settling) :
    Sane setting (world.acknowledge caller offset) := by
  refine ⟨?_, ?_, ?_, ?_, sane.records, sane.finished, sane.rows⟩
  · rcases ground with completed | held | settled
    · exact .inl completed
    · exact .inr (.inr (.inr (.inl held)))
    · rcases sane.seenTo with
        completed | row | retried | held | owed | ⟨other, message, found,
          unacknowledged, alone⟩
      · exact .inl completed
      · exact .inr (.inl row)
      · exact .inr (.inr (.inl retried))
      · exact .inr (.inr (.inr (.inl held)))
      · exact .inr (.inr (.inr (.inr (.inl owed))))
      · have different : offset ≠ other := alone _ settled
        have opened : Open other (world.acknowledge caller offset) := by
          refine ⟨message, ?_, unacknowledged, alone⟩
          simpa [World.acknowledge, different] using found
        exact .inr (.inr (.inr (.inr (.inr ⟨other, opened⟩))))
  · intro message member
    obtain ⟨index, found⟩ := List.getElem?_of_mem member
    simp only [World.acknowledge, List.getElem?_modify, Option.map_eq_map,
      Option.map_eq_some_iff] at found
    obtain ⟨old, present, same⟩ := found
    have ofSetting := sane.messages old (List.mem_of_getElem? present)
    rw [← same]
    split <;> exact ofSetting
  · intro settled member
    simpa [World.acknowledge] using sane.settled settled member
  · intro other index delivers
    simpa [World.acknowledge] using sane.delivering other index delivers

private theorem wp_acknowledge {duplicate : Bool}
    {post : Except PyException Unit → World → Prop}
    (sane : Sane setting world) (idle : Idle caller world)
    (ground : Completed world ∨ world.holding.Nonempty ∨
      ⟨caller, offset⟩ ∈ world.settling)
    (turned : duplicate = true → Completed world ∨ world.holding.Nonempty)
    (continues : ∀ reply later, Idle caller later → post reply later) :
    (contract setting).wp backend caller
      (request (.delivery (.acknowledge offset duplicate))) post world := by
  have claim : (contract setting).claims caller
      (.delivery (.acknowledge offset duplicate)) world := by
    constructor
    · exact fun _ => idle.1
    · rintro _ ⟨⟩
    · rintro _ ⟨⟩
    · rintro _ ⟨⟩
      exact turned rfl
  have acknowledged : ∀ (continues : World → Prop),
      (∀ later, Idle caller later → continues later) →
      Leads (contract setting) caller world (world.acknowledge caller offset)
        continues := by
    intro continues continued
    have stays : Idle caller (world.acknowledge caller offset) := idle
    refine ⟨sane.acknowledge ground, ?_, fun later reached =>
      continued later (stays.of_own reached.1.own)⟩
    intro other different
    refine ⟨Nat.le_refl _, id, ?_, fun _ holds _ => .inl holds, id⟩
    constructor <;> simp [World.acknowledge, World.dropSighting, different]
  apply wp_request claim
  · intro choice _ _
    exact acknowledged _ (continues _)
  · intro choice error _ _ _
    have stays : Idle caller (world.dropSighting caller) := idle
    refine ⟨⟨sane.seenTo, sane.messages, sane.settled, sane.delivering,
      sane.records, sane.finished, sane.rows⟩, ?_, fun later reached =>
        continues _ later (stays.of_own reached.1.own)⟩
    intro other different
    refine ⟨Nat.le_refl _, id, ?_, fun _ holds _ => .inl holds, id⟩
    constructor <;> simp [World.failure, World.dropSighting, different]
  · intro choice error _ _ _ _
    exact acknowledged _ (continues _)

/-- Receiving a message of the event. -/
theorem wp_receive
    {post : Except PyException (Option Message) → World → Prop}
    (sane : Sane setting world) (idle : Idle caller world)
    (misses : ∀ later, Idle caller later → post (.ok none) later)
    (receives : ∀ message later, Sane setting later →
      Delivers caller offset later → message.event = setting.event →
      (message.targetGroup = none ∨
        message.targetGroup = some setting.groupId) →
      post (.ok (some message)) later)
    (raises : ∀ error later, Idle caller later → post (.error error) later) :
    (contract setting).wp backend caller
      (request (.delivery (.receive offset))) post world := by
  have claim : (contract setting).claims caller
      (.delivery (.receive offset)) world := by
    constructor
    · exact fun _ => idle.1
    · exact fun _ _ => idle
    · exact fun _ _ => idle
    · rintro _ ⟨⟩
  have received : ∀ choice (continues : World → Prop),
      (∀ later, (contract setting).Later caller
        (world.effect caller choice (.delivery (.receive offset))).2 later →
        continues later) →
      Leads (contract setting) caller world
        (world.effect caller choice (.delivery (.receive offset))).2
        continues := by
    intro choice continues continued
    refine ⟨⟨sane.seenTo, sane.messages, sane.settled, ?_, sane.records,
      sane.finished, sane.rows⟩, ?_, continued⟩
    · intro other index delivers
      by_cases same : other = caller
      · subst same
        simp only [World.effect, World.effectDelivery, Function.update_self,
          Option.map_eq_some_iff] at delivers
        obtain ⟨message, found, rfl⟩ := delivers
        exact (List.getElem?_eq_some_iff.mp found).1
      · simp only [World.effect, World.effectDelivery,
          Function.update_of_ne same] at delivers
        exact sane.delivering other index delivers
    · intro other different
      refine ⟨Nat.le_refl _, id, ?_, fun _ holds _ => .inl holds, id⟩
      constructor <;> simp [World.effect, World.effectDelivery, different]
  have still : ∀ choice, Idle caller
      (world.effect caller choice (.delivery (.receive offset))).2 :=
    fun _ => idle
  apply wp_request claim
  · intro choice _ _
    apply received choice
    intro later reached
    have stays : Idle caller later := (still choice).of_own reached.1.own
    simp only [World.effect, World.effectDelivery] at reached ⊢
    cases found : world.messages[offset]? with
    | none => exact misses later stays
    | some message =>
        have ofSetting := sane.messages message (List.mem_of_getElem? found)
        apply receives message later reached.2 _ ofSetting.1 ofSetting.2
        refine ⟨stays, reached.1.own.delivering.trans ?_⟩
        simp [found]
  · intro choice error _ _ _
    exact ⟨sane, Guarantee.refl _ _, fun later reached =>
      raises error later (Idle.of_own idle reached.1.own)⟩
  · intro choice error _ _ _ _
    apply received choice
    intro later reached
    exact raises error later ((still choice).of_own reached.1.own)

/-- A delivery keeps the contract. -/
theorem wp_consume (kept : setting.Kept) (sane : Sane setting world)
    (idle : Idle caller world) :
    (contract setting).wp backend caller (setting.subscriber.consume offset)
      (fun _ => Idle caller) world := by
  rw [Subscriber.consume, Contract.wp_bind]
  apply wp_receive sane idle
  · intro later stays
    exact stays
  · intro message received keptReceived delivers own addressed
    have pipeline : setting.subscriber.pipeline message =
        DeadLetterMiddleware.consumeScope setting.testEnvironment
          setting.groupId message
          (IdempotencyMiddleware.consumeScope setting.config
            setting.ttlSeconds message.event (request .work)) := by
      rw [Subscriber.pipeline, RetryTargetMiddleware.consumeScope]
      rcases addressed with target | target <;> rw [target]
      · rfl
      · simp [Setting.subscriber]
    dsimp only
    rw [Contract.wp_bind, Contract.wp_attempt, pipeline]
    apply Contract.wp_mono _ keptReceived
      (wp_deadLetterMiddleware kept own keptReceived delivers)
    intro result later keptLater consumed
    match result with
    | .ok .duplicate =>
        obtain ⟨still, turned⟩ := consumed
        apply wp_acknowledge keptLater still.idle
        · exact turned.held.imp_right .inl
        · exact fun _ => turned.held
        · exact fun _ _ stays => stays
    | .ok .handled =>
        obtain ⟨still, completed⟩ := consumed
        apply wp_acknowledge keptLater still.idle (.inl completed)
        · exact fun _ => .inl completed
        · exact fun _ _ stays => stays
    | .error error =>
        have settled : Settled caller offset later := consumed
        apply wp_acknowledge keptLater settled.idle
          (.inr (.inr settled.settled))
        · intro duplicate
          cases duplicate
        · exact fun _ _ stays => stays
  · intro error later stays
    exact stays

end Delivery

/-! ### The job that publishes retries -/

section Retries

variable {message : DLQMessageDocument}

/-- The call may have marked a row that it has to publish. -/
structure Republishes (caller : Caller) (world : World) : Prop where
  holding : caller ∉ world.holding
  owing : caller ∉ world.owing
  rows : world.deadLetters ≠ []

theorem Republishes.stable (relied : Rely setting caller before after)
    (holds : Republishes caller before) : Republishes caller after :=
  ⟨relied.own.holding.not.mpr holds.holding,
    relied.own.owing.not.mpr holds.owing, relied.rows holds.rows⟩

/-- Marking a row as retried. -/
theorem wp_markRetried {changes : DLQMessageChanges}
    {post : Except PyException Unit → World → Prop}
    (sane : Sane setting world) (idle : Idle caller world)
    (rows : world.deadLetters ≠ []) (own : OfSetting setting message)
    (retried : changes.status = .retried)
    (marks : ∀ later, Sane setting later → Republishes caller later →
      post (.ok ()) later)
    (raises : ∀ error later, Idle caller later → post (.error error) later) :
    (contract setting).wp backend caller
      (DLQManager.updateStatus message changes) post world := by
  unfold DLQManager.updateStatus
  rw [own.1, own.2]
  apply wp_request (claim_plain rfl idle.1)
  · intro choice _ _
    have effect : (world.effect caller choice (.delivery (.updateStatus
        setting.event.base.eventId setting.groupId changes))).2 =
        (world.changeRow setting.event.base.eventId setting.groupId
          changes).noteMark caller ⟨setting.event.base.eventId,
            setting.groupId, changes.retryCount⟩ := by
      simp only [World.effect, World.effectDelivery, World.updateStatus,
        retried]
    rw [effect]
    refine ⟨⟨?_, sane.messages, sane.settled, sane.delivering, sane.records,
      sane.finished, fun row member => (rows_change sane row member).1⟩, ?_,
      fun later reached => ?_⟩
    · right; right; left
      exact ⟨caller, by simp [World.noteMark]⟩
    · intro other different
      refine ⟨Nat.le_refl _, id, ?_, fun _ holds _ => .inl holds,
        fun rows => changeRow_ne_nil rows _ _⟩
      constructor <;> simp [World.noteMark, World.changeRow, different]
    · apply marks later reached.2
      apply Republishes.stable reached.1
      exact ⟨idle.1, idle.2.1, changeRow_ne_nil rows _ _⟩
  · intro choice error _ _ _
    exact ⟨sane, Guarantee.refl _ _, fun later reached =>
      raises error later (Idle.of_own idle reached.1.own)⟩
  · intro choice error outcome allowed _ _
    exact absurd outcome (allowed.2 retried error)

/-- Publishing a retry opens a new message. -/
theorem Sane.republish (sane : Sane setting world) {retry : Message}
    (own : retry.event = setting.event)
    (addressed : retry.targetGroup = some setting.groupId)
    (unacknowledged : retry.acknowledged = false) :
    Sane setting (world.republish caller retry) := by
  refine ⟨?_, ?_, ?_, ?_, sane.records, sane.finished, sane.rows⟩
  · have opened : Open world.messages.length
        (world.republish caller retry) := by
      refine ⟨retry, by simp [World.republish], unacknowledged, ?_⟩
      intro settled member same
      have := sane.settled settled member
      omega
    exact .inr (.inr (.inr (.inr (.inr ⟨_, opened⟩))))
  · intro other member
    rcases List.mem_append.mp member with present | new
    · exact sane.messages other present
    · rw [List.mem_singleton.mp new]
      exact ⟨own, .inr addressed⟩
  · intro settled member
    have := sane.settled settled member
    simp only [World.republish, List.length_append]
    omega
  · intro other index delivers
    have := sane.delivering other index delivers
    simp only [World.republish, List.length_append]
    omega

theorem wp_republish {retry : Message}
    {post : Except PyException Unit → World → Prop}
    (sane : Sane setting world) (holds : Republishes caller world)
    (own : retry.event = setting.event)
    (addressed : retry.targetGroup = some setting.groupId)
    (unacknowledged : retry.acknowledged = false)
    (publishes : ∀ later, Sane setting later → Idle caller later →
      later.deadLetters ≠ [] → post (.ok ()) later)
    (raises : ∀ error later, Sane setting later → Republishes caller later →
      error.isProduceError = true → post (.error error) later) :
    (contract setting).wp backend caller
      (request (.delivery (.republish retry))) post world := by
  have others : Guarantee setting caller world
      (world.republish caller retry) := by
    intro other different
    refine ⟨Nat.le_refl _, id, ?_, fun _ holds _ => .inl holds, id⟩
    constructor <;> simp [World.republish, different]
  have idle : Idle caller (world.republish caller retry) := by
    simp [Idle, World.republish, holds.holding, holds.owing]
  have still : Republishes caller (world.republish caller retry) :=
    ⟨holds.holding, holds.owing, holds.rows⟩
  apply wp_request (claim_plain rfl holds.holding)
  · intro choice _ _
    refine ⟨sane.republish own addressed unacknowledged, others,
      fun later reached => ?_⟩
    exact publishes later reached.2 (idle.of_own reached.1.own)
      (still.stable reached.1).rows
  · intro choice error outcome allowed _
    refine ⟨sane, Guarantee.refl _ _, fun later reached => ?_⟩
    exact raises error later reached.2 (holds.stable reached.1)
      (allowed error (.inl outcome))
  · intro choice error outcome allowed _ _
    refine ⟨sane.republish own addressed unacknowledged, others,
      fun later reached => ?_⟩
    exact raises error later reached.2 (still.stable reached.1)
      (allowed error (.inr outcome))

/-- Retrying a row: its event goes back into the topic or stays scheduled. -/
theorem wp_retryMessage {post : Except PyException Unit → World → Prop}
    (sane : Sane setting world) (idle : Idle caller world)
    (rows : world.deadLetters ≠ []) (own : OfSetting setting message)
    (retries : ∀ later, Sane setting later → Idle caller later →
      later.deadLetters ≠ [] → post (.ok ()) later)
    (raises : ∀ error later, Idle caller later → post (.error error) later) :
    (contract setting).wp backend caller (DLQManager.retryMessage message)
      post world := by
  rw [DLQManager.retryMessage, Contract.wp_bind]
  apply wp_value sane idle.1 rfl (fun _ => rfl) (fun _ => rfl)
  intro _ stamped ⟨reliedStamped, keptStamped⟩
  have idleStamped := idle.of_own reliedStamped.own
  simp only [World.effect]
  rw [Contract.wp_bind]
  apply wp_markRetried keptStamped idleStamped (reliedStamped.rows rows) own
    rfl
  · intro marked keptMarked republishes
    dsimp only
    rw [Contract.wp_bind, Contract.wp_attempt]
    refine wp_republish keptMarked republishes own.1 ?_ rfl ?_ ?_
    · exact congrArg some own.2
    · intro published keptPublished idlePublished rowsPublished
      apply wp_notify keptPublished idlePublished.1
      · intro final ⟨reliedFinal, keptFinal⟩
        exact retries final keptFinal (idlePublished.of_own reliedFinal.own)
          (reliedFinal.rows rowsPublished)
      · intro error final ⟨reliedFinal, _⟩ _
        exact raises error final (idlePublished.of_own reliedFinal.own)
    · intro error failed keptFailed republishesFailed produce
      dsimp only
      rw [if_pos produce, Contract.wp_bind]
      apply wp_settle keptFailed republishesFailed.holding
        republishesFailed.rows own (.inl rfl)
      intro reply final _ idleFinal _ _
      cases reply <;> exact raises _ final idleFinal
  · intro error failed idleFailed
    exact raises error failed idleFailed

theorem wp_retryAll {messages : List DLQMessageDocument}
    (own : ∀ message ∈ messages, OfSetting setting message)
    (sane : Sane setting world) (idle : Idle caller world)
    (rows : messages ≠ [] → world.deadLetters ≠ []) :
    (contract setting).wp backend caller (DLQManager.retryAll messages)
      (fun _ => Idle caller) world := by
  induction messages generalizing world with
  | nil => exact idle
  | cons message messages inductionHypothesis =>
      rw [DLQManager.retryAll, Contract.wp_bind]
      apply wp_retryMessage sane idle (rows (by simp)) (own message (by simp))
      · intro later keptLater idleLater rowsLater
        exact inductionHypothesis
          (fun other member => own other (List.mem_cons_of_mem _ member))
          keptLater idleLater fun _ => rowsLater
      · intro error later idleLater
        exact idleLater

/-- A retry job keeps the contract. -/
theorem wp_processDueRetries (sane : Sane setting world)
    (idle : Idle caller world) :
    (contract setting).wp backend caller DLQManager.processDueRetries
      (fun _ => Idle caller) world := by
  have claim : (contract setting).claims caller
      (.delivery (.findDueRetries 100)) world := by
    constructor
    · exact fun _ => idle.1
    · exact fun _ _ => idle
    · exact fun _ _ => idle
    · rintro _ ⟨⟩
  rw [DLQManager.processDueRetries, Contract.wp_bind]
  apply wp_unchanged claim sane (Guarantee.refl _ _) (fun _ => rfl) rfl
  · intro _ later ⟨relied, kept⟩ _
    simp only [World.effect, World.effectDelivery]
    apply wp_retryAll _ kept (idle.of_own relied.own)
    · intro some
      apply relied.rows
      intro none
      simp [none] at some
    · intro message member
      have present := List.mem_of_mem_filter (List.mem_of_mem_take member)
      exact sane.rows message present
  · intro error later ⟨relied, _⟩ _
    exact idle.of_own relied.own

end Retries

end Law

/-! ### The law over runs -/

/-- What a call of the worker does for the event. -/
inductive Role where
  | delivery (offset : Nat)
  | retryJob
deriving DecidableEq, Repr

def Role.call (setting : Setting) : Role → Program Unit
  | delivery offset => setting.subscriber.consume offset
  | retryJob => DLQManager.processDueRetries

/-- The event is in the topic, in one copy or more, and nobody has received it
yet.  Any calls deliver its messages, again and again, or retry dead letters. -/
def start (setting : Setting) (copies clock : Nat) (roles : Caller → Role) :
    Backend where
  shared :=
    { clock := clock
      messages := List.replicate (copies + 1) { event := setting.event } }
  running caller := some ((roles caller).call setting)

/-- A careful step: until a handler run of the event has returned, the commands
go as the law allows, and calls are killed only as it allows. -/
def Careful (setting : Setting) (state : Backend) :
    Move Caller Choice WorldEvent → Prop
  | .caller caller choice =>
      ∀ command, state.awaited caller = some command →
        Completed state.shared ∨
          Allows setting caller state.shared command choice
  | .environment _ => True
  | .kill caller =>
      Completed state.shared ∨ MayKill setting state.shared caller

/-- A handler run is in progress: a call that was let through, or is about to
be, is at work and awaits no other command. -/
def InProgress (setting : Setting) (state : Backend) : Prop :=
  ∃ worker, state.atWork worker ∧
    ∀ command, state.awaited worker = some command → IsRun setting command

/-- No message of the event will come again, and no delivery or retry of it is
under way. -/
def AcknowledgedForGood (state : Backend) : Prop :=
  (∀ message ∈ state.shared.messages, message.acknowledged = true) ∧
    ∀ caller, state.atWork caller →
      (∃ offset, state.awaited caller = some (.delivery (.receive offset))) ∨
        ∃ limit,
          state.awaited caller = some (.delivery (.findDueRetries limit))

/-- A handler run that returned is never taken back. -/
theorem keeps_completed : backend.Keeps Completed := by
  have failure : ∀ caller world command, Completed world →
      Completed (world.failure caller command) := by
    intro caller world command completed
    obtain ⟨holding, owing, attempts, sightings, same⟩ :=
      World.failure_eq caller world command
    rw [same]
    exact completed
  constructor
  · intro caller world command choice reply next completed performed
    apply World.perform_world performed _ (failure _ _ _ completed)
    exact World.effect_completions completed
  · intro world event next completed happened
    rcases World.happen_cases happened with
      ⟨duration, -, rfl⟩ | ⟨executions, rfl⟩
    · exact completed
    · exact completed
  · intro world caller next completed killed
    cases killed
    exact completed

theorem start_safe {setting : Setting} (kept : setting.Kept)
    (copies clock : Nat) (roles : Caller → Role) :
    ((contract setting).untilGoal Completed).Safe backend
      (fun caller _ world => Completed world ∨ Idle caller world)
      (start setting copies clock roles) := by
  have sane : Sane setting (start setting copies clock roles).shared := by
    refine ⟨?_, ?_, ?_, ?_, ?_, ?_, ?_⟩
    · have opened : Open 0 (start setting copies clock roles).shared := by
        refine ⟨{ event := setting.event }, by simp [start], rfl, ?_⟩
        simp [start]
      exact .inr (.inr (.inr (.inr (.inr ⟨0, opened⟩))))
    · intro message member
      rw [List.eq_of_mem_replicate member]
      exact ⟨rfl, .inl rfl⟩
    · simp [start]
    · simp [start]
    · simp [start]
    · simp [start]
    · simp [start]
  apply Contract.Safe.start (sound.untilGoal keeps_completed)
  · exact .inr sane
  · intro caller dead
    cases dead
  · intro caller coroutine runs later reached
    cases runs
    apply Contract.wp_untilGoal keeps_completed
    by_cases completed : Completed later
    · exact .inl completed
    · right
      have keptLater : Sane setting later := reached.2.resolve_left completed
      have idle : Idle caller later := by
        apply Idle.of_own _ (reached.1.2.resolve_left completed).own
        simp [Idle, start]
      cases role : roles caller with
      | delivery offset => exact wp_consume kept keptLater idle
      | retryJob => exact wp_processDueRetries keptLater idle

/-- The careful steps are those that the contract speaks about until a handler
run has returned. -/
theorem guard_of_careful {setting : Setting} (state : Backend)
    (move : Move Caller Choice WorldEvent)
    (careful : Careful setting state move) :
    ((contract setting).untilGoal Completed).guard state move := by
  cases move with
  | caller caller choice => exact careful
  | environment event => exact .inr trivial
  | kill caller => exact careful

section Reached

variable {setting : Setting} {state : Backend}
  (safe : ((contract setting).untilGoal Completed).Safe backend
    (fun caller _ world => Completed world ∨ Idle caller world) state)
  (unfinished : ¬ Completed state.shared)
include safe unfinished

/-- A call that has something left to see to is at work. -/
theorem atWork_of_busy {caller : Caller} (busy : ¬ Idle caller state.shared) :
    state.atWork caller := by
  cases runs : state.running caller with
  | none => exact absurd ((safe.gone caller runs).resolve_left unfinished) busy
  | some coroutine =>
      cases ended : coroutine.result? with
      | none => exact ⟨coroutine, runs, ended⟩
      | some result =>
          cases coroutine with
          | done value =>
              exact absurd
                ((safe.ended caller value runs).resolve_left unfinished) busy
          | await command resume => cases ended
          | loop body resume => cases ended

private theorem claims_of_safe {caller : Caller} {command : Command}
    (awaits : state.awaited caller = some command) :
    Claims setting caller command state.shared :=
  (safe.claims (sound.untilGoal keeps_completed) awaits).resolve_left
    unfinished

private theorem inProgress_of_holding (held : state.shared.holding.Nonempty) :
    InProgress setting state := by
  obtain ⟨worker, holds⟩ := held
  refine ⟨worker, ?_, fun command awaits => ?_⟩
  · exact atWork_of_busy safe unfinished fun idle => idle.1 holds
  · by_contra other
    exact (claims_of_safe safe unfinished awaits).holding other holds

/-- Once the event is acknowledged for good, every call is idle. -/
theorem idle_of_acknowledged (acknowledged : AcknowledgedForGood state)
    (caller : Caller) : Idle caller state.shared := by
  by_contra busy
  have works := atWork_of_busy safe unfinished busy
  rcases acknowledged.2 caller works with ⟨offset, awaits⟩ | ⟨limit, awaits⟩
  · exact busy ((claims_of_safe safe unfinished awaits).receive offset rfl)
  · exact busy
      ((claims_of_safe safe unfinished awaits).findDueRetries limit rfl)

private theorem deadLettered_of_acknowledged
    (acknowledged : AcknowledgedForGood state) :
    DeadLettered setting state.shared := by
  have idle := idle_of_acknowledged safe unfinished acknowledged
  have sane : Sane setting state.shared :=
    safe.invariant.resolve_left unfinished
  rcases sane.seenTo with
    completed | row | ⟨caller, retried⟩ | ⟨caller, held⟩ | ⟨caller, owed⟩ |
      ⟨offset, message, found, unacknowledged, -⟩
  · exact absurd completed unfinished
  · exact row
  · exact absurd retried (idle caller).2.2
  · exact absurd held (idle caller).1
  · exact absurd owed (idle caller).2.1
  · have done := acknowledged.1 message (List.mem_of_getElem? found)
    rw [unacknowledged] at done
    cases done

end Reached

/-- In every careful run, a delivery that is about to be acknowledged as a
duplicate has a handler run that returned or is in progress, and an event that
is acknowledged for good has a handler run that returned, or a dead letter that
will be retried or was discarded. -/
theorem handled_when_careful {setting : Setting} (kept : setting.Kept)
    {copies clock : Nat} {roles : Caller → Role}
    {moves : List (Move Caller Choice WorldEvent)} {final : Backend}
    (along : backend.machine.Along (Careful setting)
      (start setting copies clock roles) moves)
    (reached : backend.machine.run (start setting copies clock roles) moves =
      some final) :
    (∀ caller offset,
      final.awaited caller = some (.delivery (.acknowledge offset true)) →
        Completed final.shared ∨ InProgress setting final) ∧
    (AcknowledgedForGood final →
      Completed final.shared ∨ DeadLettered setting final.shared) := by
  have safe := (sound.untilGoal keeps_completed).run
    (stable_idle.untilGoal keeps_completed)
    (start_safe kept copies clock roles) (along.mono guard_of_careful) reached
  by_cases completed : Completed final.shared
  · exact ⟨fun _ _ _ => .inl completed, fun _ => .inl completed⟩
  · constructor
    · intro caller offset awaits
      right
      apply inProgress_of_holding safe completed
      exact ((claims_of_safe safe completed awaits).duplicate offset
        rfl).resolve_left completed
    · intro acknowledged
      exact .inr (deadLettered_of_acknowledged safe completed acknowledged)

/-! ### A redelivery, and a crash

A careful run in which a message comes twice meets the law.  When the handler
is killed while it holds the key, the redelivered message is skipped and its
event is lost. -/

/-- A check by evaluation that a step is careful: the command goes through, and
a key that is read is free or held. -/
def carefulCheck (state : Backend) : Move Caller Choice WorldEvent → Bool
  | .caller caller choice =>
      choice.outcome == .succeeds &&
        match state.awaited caller with
        | some (.findKey key) =>
            match state.shared.keys.live state.shared.clock key with
            | some entry =>
                decide (entry.value.writtenBy ∈ state.shared.holding)
            | none => true
        | _ => true
  | .environment _ => true
  | .kill _ => false

theorem careful_of_check {setting : Setting} (state : Backend)
    (move : Move Caller Choice WorldEvent)
    (checked : carefulCheck state move = true) :
    Careful setting state move := by
  cases move with
  | environment event => trivial
  | kill caller => cases checked
  | caller caller choice =>
      intro command awaits
      right
      simp only [carefulCheck, awaits, Bool.and_eq_true, beq_iff_eq] at checked
      obtain ⟨succeeds, reads⟩ := checked
      cases command with
      | findKey key =>
          intro _ entry found _ _
          simpa [found] using reads
      | insertProcessing record => simp [Allows, succeeds]
      | updateRecord loaded record => simp [Allows, succeeds]
      | work => exact .inl succeeds
      | delivery command => cases command <;> simp [Allows, succeeds]
      | _ => trivial

/-- A request for an execution. -/
def requestSetting : Setting where
  event := .executionRequested
    { eventId := "v1"
      metadata :=
        { serviceName := "execution-service"
          serviceVersion := "2.0.0"
          userId := "u1" }
      executionId := "e1"
      script := "print(1)"
      language := "python"
      languageVersion := "3.11"
      runtimeImage := "python:3.11-slim"
      runtimeCommand := ["python"]
      runtimeFilename := "main.py"
      timeoutSeconds := 300
      cpuLimit := "1000m"
      memoryLimit := "128Mi"
      cpuRequest := "1000m"
      memoryRequest := "128Mi" }

/-- A delivery reserves the key, and another one finds it reserved. -/
def redelivered : List (Move Caller Choice WorldEvent) :=
  [.caller 0 {}, .caller 0 {}, .caller 0 {}, .caller 0 {}, .caller 0 {},
    .caller 1 {}, .caller 1 {}, .caller 1 {}]

/-- Whether a call is about to acknowledge a message as a duplicate. -/
def skips (state : Backend) (caller : Caller) (offset : Nat) : Bool :=
  match state.awaited caller with
  | some (.delivery (.acknowledge found true)) => found == offset
  | _ => false

theorem awaited_of_skips {state : Backend} {caller : Caller} {offset : Nat}
    (skipped : skips state caller offset = true) :
    state.awaited caller =
      some (.delivery (.acknowledge offset true)) := by
  unfold skips at skipped
  split at skipped
  · next found awaits =>
      rw [awaits, beq_iff_eq.mp skipped]
  · cases skipped

theorem handled_when_careful_redelivered :
    ∃ final, backend.machine.run
        (start requestSetting 0 0 fun _ => .delivery 0) redelivered =
        some final ∧
      ¬ Completed final.shared ∧ InProgress requestSetting final := by
  have ends : (backend.machine.run
      (start requestSetting 0 0 fun _ => .delivery 0) redelivered).map
        (fun final => (skips final 1 0, final.shared.completions)) =
      some (true, []) := by decide +kernel
  obtain ⟨final, reached, shown⟩ := Option.map_eq_some_iff.mp ends
  simp only [Prod.mk.injEq] at shown
  have unfinished : ¬ Completed final.shared := by
    simp [Completed, shown.2]
  have law := handled_when_careful
    (show requestSetting.Kept from .inr (by decide +kernel))
    (backend.machine.along_of_check careful_of_check (by decide)) reached
  have answered := law.1 1 0 (awaited_of_skips shown.1)
  exact ⟨final, reached, unfinished, answered.resolve_left unfinished⟩

/-- The first worker crashes while its handler runs. -/
def crashed : List (Move Caller Choice WorldEvent) :=
  [.caller 0 {}, .caller 0 {}, .caller 0 {}, .caller 0 {}, .caller 0 {},
    .kill 0, .caller 1 {}, .caller 1 {}, .caller 1 {}]

/-- The message comes again at once, and is skipped. -/
def crashLosesEvent : List (Move Caller Choice WorldEvent) :=
  crashed ++ [.caller 1 {}]

/-- A delivery that did not take part in a run still waits for its message. -/
theorem awaits_receive {state : Backend} {copies clock : Nat}
    {moves : List (Move Caller Choice WorldEvent)}
    (reached : backend.machine.run
      (start requestSetting copies clock fun _ => .delivery 0) moves =
        some state) {caller : Caller}
    (untouched : ∀ move ∈ moves, System.Move.about? move ≠ some caller) :
    state.awaited caller = some (.delivery (.receive 0)) := by
  have same := backend.run_running reached untouched
  simp only [Callers.awaited, same]
  rfl

/-- The redelivered event is about to be acknowledged as a duplicate while
nobody handles it, and then it is acknowledged for good, unhandled and without
a dead letter. -/
theorem crash_loses_event :
    (∃ middle, backend.machine.run
        (start requestSetting 0 0 fun _ => .delivery 0) crashed =
        some middle ∧
      middle.awaited 1 = some (.delivery (.acknowledge 0 true)) ∧
      ¬ Completed middle.shared ∧ ¬ InProgress requestSetting middle) ∧
    ∃ final, backend.machine.run
        (start requestSetting 0 0 fun _ => .delivery 0) crashLosesEvent =
        some final ∧
      AcknowledgedForGood final ∧ ¬ Completed final.shared ∧
        ¬ DeadLettered requestSetting final.shared := by
  constructor
  · have ends : (backend.machine.run
        (start requestSetting 0 0 fun _ => .delivery 0) crashed).map
          (fun middle => (skips middle 1 0, middle.hasEnded 0,
            middle.shared.completions)) =
        some (true, true, []) := by decide +kernel
    obtain ⟨middle, reached, shown⟩ := Option.map_eq_some_iff.mp ends
    simp only [Prod.mk.injEq] at shown
    have skipped := awaited_of_skips shown.1
    refine ⟨middle, reached, skipped, by simp [Completed, shown.2.2], ?_⟩
    rintro ⟨worker, works, runs⟩
    match worker with
    | 0 => exact Callers.not_atWork_of_hasEnded shown.2.1 works
    | 1 => rcases runs _ skipped with same | same <;> cases same
    | worker + 2 =>
        have waits : middle.awaited (worker + 2) = _ := awaits_receive reached
          (by simp [crashed, System.Move.about?])
        rcases runs _ waits with same | same <;> cases same
  · have ends : (backend.machine.run
        (start requestSetting 0 0 fun _ => .delivery 0) crashLosesEvent).map
          (fun final => (final.hasEnded 0, final.hasEnded 1,
            final.shared.messages.all (·.acknowledged),
            final.shared.completions, final.shared.deadLetters)) =
        some (true, true, true, [], []) := by decide +kernel
    obtain ⟨final, reached, shown⟩ := Option.map_eq_some_iff.mp ends
    simp only [Prod.mk.injEq] at shown
    obtain ⟨crashedEnded, skippedEnded, acknowledged, completions, rows⟩ :=
      shown
    refine ⟨final, reached, ⟨?_, ?_⟩, by simp [Completed, completions],
      by simp [DeadLettered, rows]⟩
    · simpa using acknowledged
    · intro caller works
      match caller with
      | 0 => exact absurd works (Callers.not_atWork_of_hasEnded crashedEnded)
      | 1 => exact absurd works (Callers.not_atWork_of_hasEnded skippedEnded)
      | caller + 2 =>
          have waits : final.awaited (caller + 2) = _ :=
            awaits_receive reached
              (by simp [crashLosesEvent, crashed, System.Move.about?])
          exact .inl ⟨0, waits⟩

end HandledEvents

end Integr8s
