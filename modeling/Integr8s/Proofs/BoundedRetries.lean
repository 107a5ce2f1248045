/-
Module: Integr8s.Proofs.BoundedRetries
Purpose: The retries of a failed event are bounded, counted and addressed to
  the group that failed, over all interleavings of any number of deliveries to
  any consumer groups with the retry job, for any pattern of handler failures
  and undelivered retries.
Trusted boundary: none
Main exports: BoundedRetries.Setup, BoundedRetries.Undisturbed,
  BoundedRetries.BoundedAndTargeted, BoundedRetries.retries_bounded_and_targeted
-/
import Integr8s.Events.Handlers
import Integr8s.Proofs.KeyCheck
import Integr8s.Proofs.LetterSteps
import Mathlib.Data.Finset.Card

namespace Integr8s

namespace BoundedRetries

/-- A delivery, or the scheduled job of the dead letter queue. -/
inductive RetryCall where
  | consume (delivery : Delivery)
  | monitor
deriving DecidableEq, Repr

/-- The job, cycle after cycle; a cycle that raises is logged. -/
def monitorRetries : Program Unit :=
  Coroutine.repeatWhile do
    DLQManager.processDueRetries.attempt fun _ => pure ()
    pure true

def RetryCall.run : RetryCall → Program Unit
  | .consume delivery => delivery.consume
  | .monitor => monitorRetries

/-- The calls over a topic, with an empty queue. -/
def start (clock : Nat) (topic : List Message) (calls : Caller → RetryCall) :
    Backend where
  shared := { clock := clock, messages := topic }
  running caller := some (calls caller).run

/-- Outside the test environment, the queue doesn't keep the events of
tests. -/
def KeptEvent (calls : Caller → RetryCall) (event : DomainEvent) : Prop :=
  ∀ caller delivery, calls caller = .consume delivery →
    delivery.testEnvironment = true ∨
      event.base.eventId.startsWith "test-" = false

/-- The topic holds published events, one message each; a message is delivered
to a group once; one process runs the job; and no event is filtered out. -/
structure Setup (topic : List Message) (calls : Caller → RetryCall) :
    Prop where
  published : (topic.map (·.event.base.eventId)).Nodup
  unaddressed : ∀ message ∈ topic, message.targetGroup = none
  uncounted : ∀ message ∈ topic, message.retryCount = 0
  deliveredOnce : ∀ first second a b, calls first = .consume a →
    calls second = .consume b → a.groupId = b.groupId →
      a.offset = b.offset → first = second
  oneMonitor : ∀ first second, calls first = .monitor →
    calls second = .monitor → first = second
  named : ∀ caller delivery, calls caller = .consume delivery →
    delivery.groupId ≠ ""
  kept : ∀ message ∈ topic, KeptEvent calls message.event

/-- How a command may go: a handler and what guards it may fail, a retry may
not be delivered, and everything else of the queue goes through. -/
def MayGo (command : Command) (choice : Choice) : Prop :=
  match command with
  | .delivery (.republish _) =>
      choice.outcome = .succeeds ∨
        ∃ error, choice.outcome = .fails error ∧ error.isProduceError = true
  | .delivery _ => choice.outcome = .succeeds
  | _ => True

/-- The commands of the queue other than the publish of a retry. -/
def served : Command → Bool
  | .delivery (.republish _) => false
  | .delivery _ => true
  | _ => false

/-- No process dies, and only handlers and retries fail. -/
def Undisturbed (state : Backend) : Move Caller Choice WorldEvent → Prop
  | .caller caller choice =>
      ∀ command, state.awaited caller = some command → MayGo command choice
  | .environment _ => True
  | .kill _ => False

/-- A message that the handler of a row's group gets to see for the row's
event. -/
def IsFor (message : Message) (key : LetterKey) : Prop :=
  message.event.base.eventId = key.eventId ∧
    (message.targetGroup = none ∨
      message.targetGroup = some key.consumerGroup)

/-- The number of delivered retries of an event for a group. -/
def delivered (world : World) (key : LetterKey) : Nat :=
  world.log.countP fun message =>
    decide (message.event.base.eventId = key.eventId ∧
      message.targetGroup = some key.consumerGroup)

/-- A failure of the group on the event has arrived, with this count. -/
def Arrived (world : World) (key : LetterKey) (count : Nat) : Prop :=
  ∃ save ∈ world.saves, save.message.key = key ∧
    save.message.retryCount = count

/-- Whether a call delivers an event to a group. -/
def runsFor (calls : Caller → RetryCall) (world : World) (key : LetterKey)
    (caller : Caller) : Bool :=
  match calls caller with
  | .consume delivery =>
      delivery.groupId == key.consumerGroup &&
        (world.log[delivery.offset]?).any fun message =>
          message.event.base.eventId == key.eventId
  | .monitor => false

/-- The number of runs of a group's handler for an event. -/
def runs (calls : Caller → RetryCall) (world : World) (key : LetterKey) :
    Nat :=
  world.attempts.countP (runsFor calls world key)

/-- A job has marked the row of a key with this count and has not published
it. -/
def Marked (world : World) (key : LetterKey) (count : Nat) : Prop :=
  ∃ caller ∈ world.retrying, world.marking caller =
    some ⟨key.eventId, key.consumerGroup, some count⟩

/-- The law.  A group's handler runs at most once more than there are retries;
a handler only runs for messages that everybody is meant to see or that are
addressed to its group, which failed on the event; a row counts the delivered
retries, and one more from its mark to its publication; and a row is discarded
when a failure has arrived whose count has reached the bound, as soon as the
call that saved it has ended, and only then. -/
structure BoundedAndTargeted (calls : Caller → RetryCall) (state : Backend) :
    Prop where
  bounded : ∀ key, runs calls state.shared key ≤ 1 + retryPolicy.maxRetries
  targeted : ∀ caller ∈ state.shared.attempts, ∃ delivery message,
    calls caller = .consume delivery ∧
      state.shared.log[delivery.offset]? = some message ∧
      ∀ group, message.targetGroup = some group → group = delivery.groupId
  failed : ∀ message ∈ state.shared.log, ∀ group,
    message.targetGroup = some group →
      ∃ count, Arrived state.shared ⟨message.event.base.eventId, group⟩ count
  counted : ∀ row ∈ state.shared.deadLetters,
    row.retryCount = delivered state.shared row.key ∨
      row.retryCount = delivered state.shared row.key + 1 ∧
        Marked state.shared row.key row.retryCount
  discarded : ∀ row ∈ state.shared.deadLetters, row.status = .discarded →
    ∃ count, retryPolicy.maxRetries ≤ count ∧
      Arrived state.shared row.key count
  exhausted : ∀ save ∈ state.shared.saves,
    retryPolicy.maxRetries ≤ save.message.retryCount →
      state.atWork save.caller ∨
        (∃ row ∈ state.shared.deadLetters, row.key = save.message.key) ∧
          ∀ row ∈ state.shared.deadLetters, row.key = save.message.key →
            row.status = .discarded

/-! ### The law and its invariant

The invariant counts, for each event and group, the retries that were
published: a saved failure, a waiting row and a marked row each stand for the
next one.  Every step below keeps that count. -/

section Law

variable (calls : Caller → RetryCall)

/-- Where a row stands: its retry was published and nothing came back yet, its
last failure arrived and nothing is decided, it waits for its retry, a job is
about to publish its retry, or it was discarded. -/
inductive Stage (world : World) (row : DLQMessageDocument) : Prop where
  | retried (status : row.status = .retried)
      (counts : row.retryCount = delivered world row.key)
      (unseen : ¬ Arrived world row.key (delivered world row.key))
  | deciding (status : row.status = .pending)
      (counts : row.retryCount = delivered world row.key)
      (arrived : Arrived world row.key (delivered world row.key))
      (owner : ∃ save ∈ world.saves, save.caller ∈ world.owing ∧
        save.message.key = row.key ∧
        save.message.retryCount = delivered world row.key)
  | waiting (status : row.status = .scheduled)
      (counts : row.retryCount = delivered world row.key)
      (arrived : Arrived world row.key (delivered world row.key))
      (few : delivered world row.key < retryPolicy.maxRetries)
  | publishing (status : row.status = .retried)
      (counts : row.retryCount = delivered world row.key + 1)
      (arrived : Arrived world row.key (delivered world row.key))
      (few : delivered world row.key < retryPolicy.maxRetries)
      (marked : Marked world row.key (delivered world row.key + 1))
  | discarded (status : row.status = .discarded)
      (counts : row.retryCount = delivered world row.key)
      (arrived : Arrived world row.key (delivered world row.key))
      (many : retryPolicy.maxRetries ≤ delivered world row.key)

/-- The message that a save is about was delivered to its group. -/
def FromDelivery (world : World) (save : SavedLetter) : Prop :=
  ∃ delivery message, calls save.caller = .consume delivery ∧
    world.log[delivery.offset]? = some message ∧
    IsFor message save.message.key ∧
    save.message.consumerGroup = delivery.groupId ∧
    save.message.retryCount = message.retryCount

/-- The part of the invariant that is about the log: counts don't pass the
number of delivered retries, one message of an event for a group has each
count, and only failures are retried. -/
structure SaneLog (world : World) : Prop where
  kept : ∀ message ∈ world.log, KeptEvent calls message.event
  bounded : ∀ key, delivered world key ≤ retryPolicy.maxRetries
  counted : ∀ message ∈ world.log, ∀ key, IsFor message key →
    message.retryCount ≤ delivered world key
  distinct : ∀ (i j : Nat) first second key, world.log[i]? = some first →
    world.log[j]? = some second → IsFor first key → IsFor second key →
      first.retryCount = second.retryCount → i = j
  addressed : ∀ message ∈ world.log, ∀ group,
    message.targetGroup = some group →
      ∃ count, Arrived world ⟨message.event.base.eventId, group⟩ count

/-- The part of the invariant that is about the saved failures and the handler
runs. -/
structure SaneSaves (world : World) : Prop where
  delivery : ∀ save ∈ world.saves, FromDelivery calls world save
  arrived : ∀ key count, count < delivered world key →
    Arrived world key count
  row : ∀ save ∈ world.saves, ∃ row ∈ world.deadLetters,
    row.key = save.message.key
  owed : ∀ save ∈ world.saves, save.caller ∈ world.owing →
    save.message.retryCount = delivered world save.message.key ∧
      ∀ row ∈ world.deadLetters, row.key = save.message.key →
        row.status = .pending
  tried : ∀ caller ∈ world.attempts, ∃ delivery message,
    calls caller = .consume delivery ∧
      world.log[delivery.offset]? = some message ∧
      ∀ group, message.targetGroup = some group → group = delivery.groupId
  once : world.attempts.Nodup

/-- The part of the invariant that is about the rows. -/
structure SaneRows (world : World) : Prop where
  kept : ∀ row ∈ world.deadLetters, KeptEvent calls row.event
  unique : world.deadLetters.Pairwise fun first second =>
    first.key ≠ second.key
  stage : ∀ row ∈ world.deadLetters, Stage world row
  marked : ∀ caller ∈ world.retrying, calls caller = .monitor ∧
    ∃ key, world.marking caller =
        some ⟨key.eventId, key.consumerGroup,
          some (delivered world key + 1)⟩ ∧
      delivered world key < retryPolicy.maxRetries ∧
      Arrived world key (delivered world key) ∧
      ∀ row ∈ world.deadLetters, row.key = key →
        row.status = .retried ∧ row.retryCount = delivered world key + 1

/-- The invariant of the law. -/
structure Sane (world : World) : Prop where
  log : SaneLog calls world
  saves : SaneSaves calls world
  rows : SaneRows calls world

/-- A row waits for its retry with this count. -/
def Waits (world : World) (doc : DLQMessageDocument) : Prop :=
  (∃ row ∈ world.deadLetters, row.key = doc.key) ∧
    ∀ row ∈ world.deadLetters, row.key = doc.key →
      row.status = .scheduled ∧ row.retryCount = doc.retryCount

/-- What a call relies on: its own history, what was published, and for the
job, that nobody else moves a row that waits. -/
structure Rely (caller : Caller) (before after : World) : Prop where
  own : Own caller before after
  log : before.log <+: after.log
  waits : calls caller = .monitor →
    ∀ doc, Waits before doc → Waits after doc

/-- The call has decided on what it saved. -/
def Decided (caller : Caller) (world : World) : Prop :=
  ∀ doc, ⟨caller, doc⟩ ∈ world.saves → caller ∉ world.owing

def contract : BackendContract where
  invariant := Sane calls
  guarantee caller before after :=
    ∀ other, other ≠ caller → Rely calls other before after
  rely := Rely calls
  gone := Decided
  allows _ _ := MayGo
  mayKill _ _ := False

variable {calls} {caller : Caller} {world before after : World}
  {key : LetterKey} {count : Nat}

/-! ### What the counts depend on -/

section Counts

private theorem delivered_eq (same : after.log = before.log) (key : LetterKey) :
    delivered after key = delivered before key := by
  simp only [delivered, same]

theorem Arrived.grow (arrived : Arrived before key count)
    (grows : ∀ save ∈ before.saves, save ∈ after.saves) :
    Arrived after key count := by
  obtain ⟨save, member, same⟩ := arrived
  exact ⟨save, grows save member, same⟩

theorem FromDelivery.grow {save : SavedLetter}
    (comes : FromDelivery calls before save)
    (log : before.log <+: after.log) : FromDelivery calls after save := by
  obtain ⟨delivery, message, is, found, its⟩ := comes
  obtain ⟨more, same⟩ := log
  refine ⟨delivery, message, is, ?_, its⟩
  rw [← same, List.getElem?_append_left]
  · exact found
  · exact (List.getElem?_eq_some_iff.mp found).1

theorem SaneLog.grow (sane : SaneLog calls before)
    (same : after.log = before.log)
    (grows : ∀ save ∈ before.saves, save ∈ after.saves) :
    SaneLog calls after where
  kept := same ▸ sane.kept
  bounded key := delivered_eq same key ▸ sane.bounded key
  counted := by
    intro message member key its
    rw [delivered_eq same]
    exact sane.counted message (same ▸ member) key its
  distinct := same ▸ sane.distinct
  addressed := by
    intro message member group target
    obtain ⟨count, arrived⟩ := sane.addressed message (same ▸ member) group
      target
    exact ⟨count, arrived.grow grows⟩

/-- Two failures with one key and one count are of one delivery. -/
theorem SaneSaves.sameCaller {topic : List Message} (setup : Setup topic calls)
    (log : SaneLog calls world) {first second : SavedLetter}
    (comesFirst : FromDelivery calls world first)
    (comesSecond : FromDelivery calls world second)
    (sameKey : first.message.key = second.message.key)
    (sameCount : first.message.retryCount = second.message.retryCount) :
    first.caller = second.caller := by
  obtain ⟨a, messageA, isA, foundA, forA, groupA, countA⟩ := comesFirst
  obtain ⟨b, messageB, isB, foundB, forB, groupB, countB⟩ := comesSecond
  apply setup.deliveredOnce _ _ a b isA isB
  · rw [← groupA, ← groupB]
    exact congrArg LetterKey.consumerGroup sameKey
  · apply log.distinct a.offset b.offset messageA messageB
      first.message.key foundA foundB forA
    · rw [sameKey]
      exact forB
    · rw [← countA, ← countB, sameCount]

/-- Nothing counts more failures than retries. -/
theorem SaneSaves.count_le (saves : SaneSaves calls world)
    (log : SaneLog calls world) {save : SavedLetter}
    (member : save ∈ world.saves) :
    save.message.retryCount ≤ delivered world save.message.key := by
  obtain ⟨delivery, message, -, found, its, -, counts⟩ :=
    saves.delivery save member
  rw [counts]
  exact log.counted message (List.mem_of_getElem? found) _ its

theorem Stage.arrived {row : DLQMessageDocument} (stage : Stage world row)
    (status : row.status ≠ .retried ∨
      row.retryCount ≠ delivered world row.key) :
    Arrived world row.key (delivered world row.key) := by
  cases stage with
  | retried retried counts _ =>
      rcases status with other | other
      · exact absurd retried other
      · exact absurd counts other
  | deciding _ _ arrived _ => exact arrived
  | waiting _ _ arrived _ => exact arrived
  | publishing _ _ arrived _ _ => exact arrived
  | discarded _ _ arrived _ => exact arrived

/-- A row that is not about to be published counts the delivered retries. -/
theorem Stage.counts {row : DLQMessageDocument} (stage : Stage world row)
    (status : row.status ≠ .retried) :
    row.retryCount = delivered world row.key := by
  cases stage with
  | retried retried _ _ => exact absurd retried status
  | deciding _ counts _ _ => exact counts
  | waiting _ counts _ _ => exact counts
  | publishing retried _ _ _ _ => exact absurd retried status
  | discarded _ counts _ _ => exact counts

/-- A row stands where it did when nothing about its key changed. -/
theorem Stage.keep {row : DLQMessageDocument} (stage : Stage before row)
    (same : delivered after row.key = delivered before row.key)
    (arrived : ∀ count,
      Arrived after row.key count ↔ Arrived before row.key count)
    (owner : ∀ save ∈ before.saves, save.caller ∈ before.owing →
      save.message.key = row.key →
        save ∈ after.saves ∧ save.caller ∈ after.owing)
    (marked : ∀ count, Marked before row.key count →
      Marked after row.key count) : Stage after row := by
  cases stage with
  | retried status counts unseen =>
      apply Stage.retried status
      · rw [same]
        exact counts
      · rw [same, arrived]
        exact unseen
  | deciding status counts arrival owned =>
      obtain ⟨save, member, owes, its⟩ := owned
      obtain ⟨present, still⟩ := owner save member owes its.1
      apply Stage.deciding status
      · rw [same]
        exact counts
      · rw [same, arrived]
        exact arrival
      · rw [same]
        exact ⟨save, present, still, its⟩
  | waiting status counts arrival few =>
      apply Stage.waiting status
      · rw [same]
        exact counts
      · rw [same, arrived]
        exact arrival
      · rw [same]
        exact few
  | publishing status counts arrival few mark =>
      apply Stage.publishing status
      · rw [same]
        exact counts
      · rw [same, arrived]
        exact arrival
      · rw [same]
        exact few
      · rw [same]
        exact marked _ mark
  | discarded status counts arrival many =>
      apply Stage.discarded status
      · rw [same]
        exact counts
      · rw [same, arrived]
        exact arrival
      · rw [same]
        exact many

end Counts

/-! ### What each command does to the counts

A failure is saved, its row is decided on, a row is marked, and its retry is
published or not.  Only the publish adds to the count, and only the one job
that marked the row makes it. -/

section Steps

theorem Sane.same (sane : Sane calls before) (same : SameLetters before after) :
    Sane calls after := by
  obtain ⟨log, rows, owing, retrying, marking, saves, attempts⟩ := same
  have arrived : ∀ key count,
      Arrived after key count ↔ Arrived before key count := by
    simp [Arrived, saves]
  constructor
  · exact sane.log.grow log fun save member => saves ▸ member
  · constructor
    · intro save member
      apply (sane.saves.delivery save (saves ▸ member)).grow
      rw [log]
    · intro key count less
      rw [delivered_eq log] at less
      exact (arrived key count).mpr (sane.saves.arrived key count less)
    · rw [saves, rows]
      exact sane.saves.row
    · simp only [saves, owing, rows, delivered_eq log]
      exact sane.saves.owed
    · rw [attempts, log]
      exact sane.saves.tried
    · rw [attempts]
      exact sane.saves.once
  · constructor
    · rw [rows]
      exact sane.rows.kept
    · rw [rows]
      exact sane.rows.unique
    · intro row member
      apply (sane.rows.stage row (rows ▸ member)).keep
      · exact delivered_eq log row.key
      · exact arrived row.key
      · exact fun save member owes _ => ⟨saves ▸ member, owing ▸ owes⟩
      · simp [Marked, retrying, marking]
    · simp only [retrying, marking, delivered_eq log, arrived, rows]
      exact sane.rows.marked

/-- A handler run. -/
theorem Sane.attempt (sane : Sane calls before) {delivery : Delivery}
    {message : Message} (is : calls caller = .consume delivery)
    (found : before.log[delivery.offset]? = some message)
    (meant : ∀ group, message.targetGroup = some group →
      group = delivery.groupId)
    (first : caller ∉ before.attempts)
    (quiet : ∀ other, ⟨caller, other⟩ ∉ before.saves)
    (owing : ∀ other, other ≠ caller →
      (other ∈ after.owing ↔ other ∈ before.owing))
    (more : caller ∈ before.owing → caller ∈ after.owing)
    (attempts : after.attempts = caller :: before.attempts)
    (log : after.log = before.log)
    (rows : after.deadLetters = before.deadLetters)
    (retrying : after.retrying = before.retrying)
    (marking : after.marking = before.marking)
    (saves : after.saves = before.saves) : Sane calls after := by
  have arrived : ∀ key count,
      Arrived after key count ↔ Arrived before key count := by
    simp [Arrived, saves]
  constructor
  · exact sane.log.grow log fun save member => saves ▸ member
  · constructor
    · intro save member
      apply (sane.saves.delivery save (saves ▸ member)).grow
      rw [log]
    · intro key count less
      rw [delivered_eq log] at less
      exact (arrived key count).mpr (sane.saves.arrived key count less)
    · rw [saves, rows]
      exact sane.saves.row
    · intro save member owes
      rw [saves] at member
      have different : save.caller ≠ caller := by
        rintro rfl
        exact quiet save.message member
      rw [delivered_eq log, rows]
      exact sane.saves.owed save member ((owing _ different).mp owes)
    · intro other member
      rw [log]
      rw [attempts] at member
      rcases List.mem_cons.mp member with rfl | earlier
      · exact ⟨delivery, message, is, found, meant⟩
      · exact sane.saves.tried other earlier
    · rw [attempts]
      exact List.nodup_cons.mpr ⟨first, sane.saves.once⟩
  · constructor
    · rw [rows]
      exact sane.rows.kept
    · rw [rows]
      exact sane.rows.unique
    · intro row member
      apply (sane.rows.stage row (rows ▸ member)).keep
      · exact delivered_eq log row.key
      · exact arrived row.key
      · intro save member owes _
        refine ⟨saves ▸ member, ?_⟩
        by_cases same : save.caller = caller
        · rw [same]
          exact more (same ▸ owes)
        · exact (owing _ same).mpr owes
      · simp [Marked, retrying, marking]
    · simp only [retrying, marking, delivered_eq log, arrived, rows]
      exact sane.rows.marked

/-- A failure that a call is about to save. -/
structure Failure (calls : Caller → RetryCall) (caller : Caller)
    (doc : DLQMessageDocument) (world : World) : Prop where
  comes : FromDelivery calls world ⟨caller, doc⟩
  kept : KeptEvent calls doc.event
  quiet : ∀ other, ⟨caller, other⟩ ∉ world.saves

variable {topic : List Message} {doc : DLQMessageDocument}

/-- The failure is the first with its count. -/
theorem Failure.unseen (failure : Failure calls caller doc world)
    (setup : Setup topic calls) (sane : Sane calls world) :
    ¬ Arrived world doc.key doc.retryCount := by
  rintro ⟨save, member, sameKey, sameCount⟩
  have same : save.caller = caller :=
    SaneSaves.sameCaller setup sane.log (sane.saves.delivery save member)
      failure.comes sameKey sameCount
  exact failure.quiet save.message (same ▸ member)

/-- The failure is of the retry that was delivered last. -/
theorem Failure.latest (failure : Failure calls caller doc world)
    (setup : Setup topic calls) (sane : Sane calls world) :
    doc.retryCount = delivered world doc.key := by
  obtain ⟨delivery, message, -, found, its, -, counts⟩ := failure.comes
  have most : doc.retryCount ≤ delivered world doc.key :=
    counts ▸ sane.log.counted message (List.mem_of_getElem? found) _ its
  rcases Nat.lt_or_eq_of_le most with less | same
  · exact absurd (sane.saves.arrived _ _ less) (failure.unseen setup sane)
  · exact same

theorem Failure.fresh (failure : Failure calls caller doc world)
    (setup : Setup topic calls) (sane : Sane calls world) :
    ¬ Arrived world doc.key (delivered world doc.key) := by
  rw [← failure.latest setup sane]
  exact failure.unseen setup sane

/-- Nothing waits under the key of a failure. -/
theorem Failure.not_waits (failure : Failure calls caller doc world)
    (setup : Setup topic calls) (sane : Sane calls world)
    {other : DLQMessageDocument} (waits : Waits world other) :
    other.key ≠ doc.key := by
  intro same
  obtain ⟨row, member, its⟩ := waits.1
  have stage := sane.rows.stage row member
  apply failure.fresh setup sane
  rw [← same, ← its]
  apply stage.arrived
  left
  rw [(waits.2 row member its).1]
  decide

/-- A saved failure takes the place of the row whose retry failed. -/
theorem Sane.saveMessage (sane : Sane calls world) (setup : Setup topic calls)
    (failure : Failure calls caller doc world)
    (pending : doc.status = .pending) :
    Sane calls (world.saveMessage caller doc) := by
  have latest := failure.latest setup sane
  have fresh := failure.fresh setup sane
  have arrived : ∀ key, key ≠ doc.key → ∀ count,
      Arrived (world.saveMessage caller doc) key count ↔
        Arrived world key count := by
    intro key different count
    constructor
    · rintro ⟨save, member, its⟩
      rcases List.mem_cons.mp member with rfl | earlier
      · exact absurd its.1.symm different
      · exact ⟨save, earlier, its⟩
    · exact fun arrival => arrival.grow fun _ => List.mem_cons_of_mem _
  constructor
  · exact sane.log.grow rfl fun _ => List.mem_cons_of_mem _
  · constructor
    · intro save member
      rcases List.mem_cons.mp member with rfl | earlier
      · exact failure.comes.grow List.prefix_rfl
      · exact (sane.saves.delivery save earlier).grow List.prefix_rfl
    · intro key count less
      exact (sane.saves.arrived key count less).grow
        fun _ => List.mem_cons_of_mem _
    · intro save member
      rcases List.mem_cons.mp member with rfl | earlier
      · exact ⟨doc, World.saveMessage_self doc, rfl⟩
      · obtain ⟨row, present, same⟩ := sane.saves.row save earlier
        obtain ⟨kept, still, its⟩ := World.rows_saveMessage doc row present
        exact ⟨kept, still, its.trans same⟩
    · intro save member owes
      rcases List.mem_cons.mp member with rfl | earlier
      · refine ⟨latest, fun row present same => ?_⟩
        rcases World.saveMessage_cases present with rfl | ⟨-, other⟩
        · exact pending
        · exact absurd same other
      · have different : save.caller ≠ caller := by
          rintro rfl
          exact failure.quiet save.message earlier
        have still := (Finset.mem_insert.mp owes).resolve_left different
        obtain ⟨counts, decides⟩ := sane.saves.owed save earlier still
        refine ⟨counts, fun row present same => ?_⟩
        rcases World.saveMessage_cases present with rfl | ⟨old, -⟩
        · exact pending
        · exact decides row old same
    · exact sane.saves.tried
    · exact sane.saves.once
  · constructor
    · intro row member
      rcases World.saveMessage_cases member with rfl | ⟨present, -⟩
      · exact failure.kept
      · exact sane.rows.kept row present
    · exact World.unique_saveMessage sane.rows.unique
    · intro row member
      rcases World.saveMessage_cases member with rfl | ⟨present, other⟩
      · have mine : (⟨caller, row⟩ : SavedLetter) ∈
            (world.saveMessage caller row).saves := List.mem_cons_self
        apply Stage.deciding pending
        · exact latest
        · exact ⟨_, mine, rfl, latest⟩
        · exact ⟨_, mine, Finset.mem_insert_self .., rfl, latest⟩
      · apply (sane.rows.stage row present).keep
        · rfl
        · exact arrived row.key other
        · intro save earlier owes _
          exact ⟨List.mem_cons_of_mem _ earlier, Finset.mem_insert_of_mem owes⟩
        · exact fun _ marked => marked
    · intro marker member
      obtain ⟨job, key, mark, few, arrival, rows⟩ :=
        sane.rows.marked marker member
      have different : key ≠ doc.key := by
        rintro rfl
        exact fresh arrival
      refine ⟨job, key, mark, few, (arrived key different _).mpr arrival, ?_⟩
      intro row present same
      rcases World.saveMessage_cases present with rfl | ⟨old, -⟩
      · exact absurd same.symm different
      · exact rows row old same

/-- A failure that a call has saved and not decided on. -/
structure Undecided (caller : Caller) (doc : DLQMessageDocument)
    (world : World) : Prop where
  owing : caller ∈ world.owing
  retrying : caller ∉ world.retrying
  saved : ⟨caller, doc⟩ ∈ world.saves
  only : ∀ other, ⟨caller, other⟩ ∈ world.saves → other = doc

/-- Only its own call decides on a failure. -/
theorem Undecided.alone (undecided : Undecided caller doc world)
    (setup : Setup topic calls) (sane : Sane calls world) {save : SavedLetter}
    (member : save ∈ world.saves) (owes : save.caller ∈ world.owing)
    (same : save.message.key = doc.key) : save.caller = caller := by
  have latest := (sane.saves.owed _ undecided.saved undecided.owing).1
  have counts := (sane.saves.owed save member owes).1
  have comes := sane.saves.delivery ⟨caller, doc⟩ undecided.saved
  apply SaneSaves.sameCaller setup sane.log (sane.saves.delivery save member)
    comes same
  rw [counts, same]
  exact latest.symm

/-- A row that waits is not about to be decided on. -/
theorem Undecided.not_waits (undecided : Undecided caller doc world)
    (sane : Sane calls world) {other : DLQMessageDocument}
    (waits : Waits world other) : other.key ≠ doc.key := by
  intro same
  obtain ⟨row, member, its⟩ := waits.1
  have pending := (sane.saves.owed _ undecided.saved undecided.owing).2 row
    member (its.trans same)
  rw [(waits.2 row member its).1] at pending
  cases pending

/-- Changing a row keeps what doesn't depend on where a row stands. -/
theorem Sane.moveRow (sane : Sane calls world) {changes : DLQMessageChanges}
    {key : LetterKey}
    (rows : after.deadLetters =
      (world.changeRow key.eventId key.consumerGroup changes).deadLetters)
    (log : after.log = world.log) (saves : after.saves = world.saves)
    (attempts : after.attempts = world.attempts)
    (owed : ∀ save ∈ after.saves, save.caller ∈ after.owing →
      save.message.retryCount = delivered after save.message.key ∧
        ∀ row ∈ after.deadLetters, row.key = save.message.key →
          row.status = .pending)
    (stage : ∀ row ∈ after.deadLetters, Stage after row)
    (marked : ∀ caller ∈ after.retrying, calls caller = .monitor ∧
      ∃ key, after.marking caller =
          some ⟨key.eventId, key.consumerGroup,
            some (delivered after key + 1)⟩ ∧
        delivered after key < retryPolicy.maxRetries ∧
        Arrived after key (delivered after key) ∧
        ∀ row ∈ after.deadLetters, row.key = key →
          row.status = .retried ∧
            row.retryCount = delivered after key + 1) :
    Sane calls after := by
  have grows : ∀ save ∈ world.saves, save ∈ after.saves := fun _ =>
    saves ▸ id
  constructor
  · exact sane.log.grow log grows
  · constructor
    · intro save member
      exact (sane.saves.delivery save (saves ▸ member)).grow
        (log ▸ List.prefix_rfl)
    · intro key count less
      rw [delivered_eq log] at less
      exact (sane.saves.arrived key count less).grow grows
    · intro save member
      obtain ⟨row, present, same⟩ := sane.saves.row save (saves ▸ member)
      obtain ⟨kept, stays, its⟩ := World.rows_changeRow key.eventId
        key.consumerGroup changes row present
      exact ⟨kept, rows ▸ stays, its.trans same⟩
    · exact owed
    · rw [attempts, log]
      exact sane.saves.tried
    · rw [attempts]
      exact sane.saves.once
  · constructor
    · intro row member
      rw [rows] at member
      rcases World.changeRow_cases member with
        ⟨old, present, -, rfl⟩ | ⟨present, -⟩
      · exact sane.rows.kept old present
      · exact sane.rows.kept row present
    · rw [rows]
      exact World.unique_changeRow sane.rows.unique
    · exact stage
    · exact marked

/-- Scheduling or discarding the row of a failure. -/
theorem Sane.decide (sane : Sane calls world) (setup : Setup topic calls)
    (undecided : Undecided caller doc world) {changes : DLQMessageChanges}
    (counts : changes.retryCount = none)
    (decides :
      changes.status = .scheduled ∧
          doc.retryCount < retryPolicy.maxRetries ∨
        changes.status = .discarded ∧
          retryPolicy.maxRetries ≤ doc.retryCount) :
    Sane calls ((world.changeRow doc.key.eventId doc.key.consumerGroup
      changes).noteSettled caller) := by
  obtain ⟨latest, pending⟩ :=
    sane.saves.owed _ undecided.saved undecided.owing
  have still : ∀ marker ∈ world.retrying,
      marker ∈ world.retrying.erase caller := by
    intro marker member
    refine Finset.mem_erase_of_ne_of_mem ?_ member
    rintro rfl
    exact undecided.retrying member
  refine sane.moveRow rfl rfl rfl rfl ?_ ?_ ?_
  · intro save member owes
    obtain ⟨different, owed⟩ := Finset.mem_erase.mp owes
    obtain ⟨its, decided⟩ := sane.saves.owed save member owed
    refine ⟨its, fun row present same => ?_⟩
    rcases World.changeRow_cases present with
      ⟨old, -, key, rfl⟩ | ⟨present, -⟩
    · exact absurd (undecided.alone setup sane member owed
        (same.symm.trans key)) different
    · exact decided row present same
  · intro row member
    rcases World.changeRow_cases member with
      ⟨old, present, key, rfl⟩ | ⟨present, other⟩
    · have was := pending old present key
      have stage := sane.rows.stage old present
      have count : (old.change changes world.clock).retryCount =
          delivered world old.key := by
        simp only [DLQMessageDocument.change, counts, Option.getD_none]
        exact stage.counts (by simp [was])
      have arrival : Arrived world old.key (delivered world old.key) :=
        stage.arrived (.inl (by simp [was]))
      have same : doc.retryCount = delivered world old.key := by
        rw [key]
        exact latest
      rcases decides with ⟨status, few⟩ | ⟨status, many⟩
      · exact .waiting status count arrival (same ▸ few)
      · exact .discarded status count arrival (same ▸ many)
    · apply (sane.rows.stage row present).keep
      · rfl
      · exact fun _ => Iff.rfl
      · intro save saved owes its
        refine ⟨saved, Finset.mem_erase_of_ne_of_mem ?_ owes⟩
        rintro rfl
        have same := undecided.only save.message saved
        exact other (its.symm.trans (congrArg (·.key) same))
      · rintro count ⟨marker, marks, mark⟩
        exact ⟨marker, still marker marks, mark⟩
  · intro marker member
    obtain ⟨job, key, mark, few, arrival, rows⟩ :=
      sane.rows.marked marker (Finset.mem_of_mem_erase member)
    refine ⟨job, key, mark, few, arrival, fun row present same => ?_⟩
    rcases World.changeRow_cases present with
      ⟨old, earlier, its, rfl⟩ | ⟨earlier, -⟩
    · have was := pending old earlier its
      rw [(rows old earlier same).1] at was
      cases was
    · exact rows row earlier same

/-- What a row that waits counts. -/
theorem Waits.counts (waits : Waits world doc) (sane : Sane calls world) :
    doc.retryCount = delivered world doc.key ∧
      delivered world doc.key < retryPolicy.maxRetries ∧
      Arrived world doc.key (delivered world doc.key) := by
  obtain ⟨row, member, its⟩ := waits.1
  obtain ⟨scheduled, same⟩ := waits.2 row member its
  cases sane.rows.stage row member with
  | waiting _ counts arrival few =>
      rw [its] at counts arrival few
      exact ⟨same.symm.trans counts, few, arrival⟩
  | retried status _ _ => cases scheduled.symm.trans status
  | deciding status _ _ _ => cases scheduled.symm.trans status
  | publishing status _ _ _ _ => cases scheduled.symm.trans status
  | discarded status _ _ _ => cases scheduled.symm.trans status

/-- Marking a row that waits. -/
theorem Sane.mark (sane : Sane calls world) (job : calls caller = .monitor)
    (idle : caller ∉ world.retrying) (waits : Waits world doc)
    {changes : DLQMessageChanges} (retried : changes.status = .retried)
    (counts : changes.retryCount = some (doc.retryCount + 1)) :
    Sane calls ((world.changeRow doc.key.eventId doc.key.consumerGroup
      changes).noteMark caller ⟨doc.key.eventId, doc.key.consumerGroup,
        some (doc.retryCount + 1)⟩) := by
  obtain ⟨latest, few, arrival⟩ := waits.counts sane
  have another : ∀ marker ∈ world.retrying, marker ≠ caller := by
    rintro marker member rfl
    exact idle member
  refine sane.moveRow rfl rfl rfl rfl ?_ ?_ ?_
  · intro save member owes
    obtain ⟨its, decided⟩ := sane.saves.owed save member owes
    refine ⟨its, fun row present same => ?_⟩
    rcases World.changeRow_cases present with
      ⟨old, earlier, key, rfl⟩ | ⟨earlier, -⟩
    · have was := decided old earlier same
      rw [(waits.2 old earlier key).1] at was
      cases was
    · exact decided row earlier same
  · intro row member
    rcases World.changeRow_cases member with
      ⟨old, present, key, rfl⟩ | ⟨present, other⟩
    · have count : (old.change changes world.clock).retryCount =
          delivered world old.key + 1 := by
        simp only [DLQMessageDocument.change, counts, Option.getD_some,
          latest, key]
      have mark : (some ⟨doc.key.eventId, doc.key.consumerGroup,
            some (doc.retryCount + 1)⟩ : Option RetryMark) =
          some ⟨old.key.eventId, old.key.consumerGroup,
            some (delivered world old.key + 1)⟩ := by
        rw [key, ← latest]
      exact .publishing retried count (key ▸ arrival) (key ▸ few)
        ⟨caller, Finset.mem_insert_self ..,
          (Function.update_self ..).trans mark⟩
    · apply (sane.rows.stage row present).keep
      · rfl
      · exact fun _ => Iff.rfl
      · exact fun save saved owes _ => ⟨saved, owes⟩
      · rintro count ⟨marker, marks, mark⟩
        exact ⟨marker, Finset.mem_insert_of_mem marks,
          (Function.update_of_ne (another marker marks) ..).trans mark⟩
  · intro marker member
    by_cases same : marker = caller
    · subst same
      refine ⟨job, doc.key, ?_, few, arrival, fun row present key => ?_⟩
      · rw [latest]
        exact Function.update_self ..
      · rcases World.changeRow_cases present with
          ⟨old, -, its, rfl⟩ | ⟨-, other⟩
        · refine ⟨retried, ?_⟩
          simp only [DLQMessageDocument.change, counts, Option.getD_some,
            latest]
          rfl
        · exact absurd key other
    · have marks := Finset.mem_of_mem_insert_of_ne member same
      obtain ⟨theirs, key, mark, rest⟩ := sane.rows.marked marker marks
      refine ⟨theirs, key, (Function.update_of_ne same ..).trans mark, rest.1,
        rest.2.1, fun row present its => ?_⟩
      · rcases World.changeRow_cases present with
          ⟨old, earlier, mine, rfl⟩ | ⟨earlier, -⟩
        · have was := (rest.2.2 old earlier its).1
          rw [(waits.2 old earlier mine).1] at was
          cases was
        · exact rest.2.2 row earlier its

/-- A job has marked a row that it has to publish. -/
structure Publishes (calls : Caller → RetryCall) (caller : Caller)
    (doc : DLQMessageDocument) (world : World) : Prop where
  job : calls caller = .monitor
  retrying : caller ∈ world.retrying
  mark : world.marking caller =
    some ⟨doc.key.eventId, doc.key.consumerGroup, some (doc.retryCount + 1)⟩

/-- What a marked row counts. -/
theorem Publishes.counts (publishes : Publishes calls caller doc world)
    (sane : Sane calls world) :
    doc.retryCount = delivered world doc.key ∧
      delivered world doc.key < retryPolicy.maxRetries ∧
      Arrived world doc.key (delivered world doc.key) ∧
      ∀ row ∈ world.deadLetters, row.key = doc.key →
        row.status = .retried ∧
          row.retryCount = delivered world doc.key + 1 := by
  obtain ⟨-, key, mark, few, arrival, rows⟩ :=
    sane.rows.marked caller publishes.retrying
  have same := publishes.mark.symm.trans mark
  simp only [Option.some.injEq, RetryMark.mk.injEq] at same
  obtain ⟨sameEvent, sameGroup, sameCount⟩ := same
  have is : key = doc.key := LetterKey.ext sameEvent.symm sameGroup.symm
  subst is
  exact ⟨Nat.succ_injective sameCount, few, arrival, rows⟩

/-- No other job publishes. -/
theorem Publishes.alone (publishes : Publishes calls caller doc world)
    (setup : Setup topic calls) (sane : Sane calls world) {marker : Caller}
    (marks : marker ∈ world.retrying) : marker = caller :=
  setup.oneMonitor marker caller (sane.rows.marked marker marks).1
    publishes.job

/-- Whoever is to decide on a failure decides on another row. -/
theorem Publishes.not_owed (publishes : Publishes calls caller doc world)
    (sane : Sane calls world) {save : SavedLetter}
    (member : save ∈ world.saves) (owes : save.caller ∈ world.owing) :
    save.message.key ≠ doc.key := by
  intro same
  obtain ⟨row, present, its⟩ := sane.saves.row save member
  have pending := (sane.saves.owed save member owes).2 row present its
  rw [((publishes.counts sane).2.2.2 row present (its.trans same)).1]
    at pending
  cases pending

/-- A marked row is not the row of another key's mark. -/
theorem Publishes.others (publishes : Publishes calls caller doc world)
    {key : LetterKey} (other : key ≠ doc.key) {count : Nat}
    (marked : Marked world key count) :
    ∃ marker ∈ world.retrying.erase caller, world.marking marker =
      some ⟨key.eventId, key.consumerGroup, some count⟩ := by
  obtain ⟨marker, marks, mark⟩ := marked
  refine ⟨marker, Finset.mem_erase_of_ne_of_mem ?_ marks, mark⟩
  rintro rfl
  have same := publishes.mark.symm.trans mark
  simp only [Option.some.injEq, RetryMark.mk.injEq] at same
  exact other (LetterKey.ext same.1.symm same.2.1.symm)

theorem found_append {log : List Message} {new message : Message} {index : Nat}
    (found : (log ++ [new])[index]? = some message) :
    log[index]? = some message ∨ index = log.length ∧ message = new := by
  rcases Nat.lt_trichotomy index log.length with inside | rfl | outside
  · left
    rwa [List.getElem?_append_left inside] at found
  · right
    simp only [List.getElem?_concat_length, Option.some.injEq] at found
    exact ⟨rfl, found.symm⟩
  · rw [List.getElem?_eq_none (by
      rw [List.length_append]
      exact outside)] at found
    cases found

private theorem delivered_republish (retry : Message) (key : LetterKey) :
    delivered (world.republish caller retry) key = delivered world key +
      if retry.event.base.eventId = key.eventId ∧
          retry.targetGroup = some key.consumerGroup then 1 else 0 := by
  simp [delivered, List.countP_append, List.countP_singleton, Message.sent]

/-- One more retry counts for the row's key, and for no other. -/
structure Republished (doc : DLQMessageDocument) (retry : Message)
    (world next : World) : Prop where
  log : next.log = world.log ++ [retry.sent]
  mine : delivered next doc.key = delivered world doc.key + 1
  others : ∀ key, key ≠ doc.key → delivered next key = delivered world key
  its : ∀ key, IsFor retry.sent key → key = doc.key

private theorem republished {doc : DLQMessageDocument} {retry : Message}
    (event : retry.event = doc.event)
    (addressed : retry.targetGroup = some doc.consumerGroup) :
    Republished doc retry world (world.republish caller retry) where
  log := World.log_republish retry
  mine := by
    rw [delivered_republish, if_pos]
    exact ⟨congrArg (·.base.eventId) event, addressed⟩
  others key other := by
    rw [delivered_republish, if_neg, Nat.add_zero]
    rintro ⟨sameEvent, sameGroup⟩
    rw [event] at sameEvent
    rw [addressed, Option.some.injEq] at sameGroup
    exact other (LetterKey.ext sameEvent.symm sameGroup.symm)
  its := by
    rintro key ⟨sameEvent, sameGroup⟩
    simp only [Message.sent, event, addressed, reduceCtorEq, Option.some.injEq,
      false_or] at sameEvent sameGroup
    exact LetterKey.ext sameEvent.symm sameGroup.symm

section Retries

variable {doc : DLQMessageDocument} {retry : Message}

theorem Republished.more {next : World}
    (adds : Republished doc retry world next) (key : LetterKey) :
    delivered world key ≤ delivered next key := by
  by_cases same : key = doc.key
  · rw [same, adds.mine]
    exact Nat.le_succ _
  · rw [adds.others key same]

/-- The retry counts one more than any message before it for the same key. -/
theorem Republished.above {next : World}
    (adds : Republished doc retry world next) (sane : SaneLog calls world)
    (count : retry.retryCount = delivered world doc.key + 1)
    {message : Message} (member : message ∈ world.log) {key : LetterKey}
    (isFor : IsFor message key) (isRetry : IsFor retry.sent key) :
    message.retryCount ≠ retry.sent.retryCount := by
  intro number
  have most := sane.counted message member key isFor
  rw [number, adds.its key isRetry] at most
  exact absurd (count ▸ most) (Nat.not_succ_le_self _)

theorem SaneLog.republish (sane : SaneLog calls world)
    (adds : Republished doc retry world (world.republish caller retry))
    (kept : KeptEvent calls retry.event)
    (count : retry.retryCount = delivered world doc.key + 1)
    (few : delivered world doc.key < retryPolicy.maxRetries)
    (arrival : Arrived world doc.key (delivered world doc.key)) :
    SaneLog calls (world.republish caller retry) := by
  constructor
  case kept =>
    intro message member
    rw [adds.log] at member
    rcases List.mem_append.mp member with earlier | new
    · exact sane.kept message earlier
    · rw [List.mem_singleton.mp new]
      exact kept
  case bounded =>
    intro key
    by_cases same : key = doc.key
    · rw [same, adds.mine]
      exact few
    · rw [adds.others key same]
      exact sane.bounded key
  case counted =>
    intro message member key isFor
    rw [adds.log] at member
    rcases List.mem_append.mp member with earlier | new
    · exact (sane.counted message earlier key isFor).trans (adds.more key)
    · rw [List.mem_singleton.mp new] at isFor ⊢
      rw [adds.its key isFor, adds.mine]
      exact count.le
  case distinct =>
    intro i j first second key foundFirst foundSecond isFirst isSecond same
    rw [adds.log] at foundFirst foundSecond
    rcases found_append foundFirst with earlier | ⟨rfl, rfl⟩ <;>
      rcases found_append foundSecond with old | ⟨rfl, rfl⟩
    · exact sane.distinct i j first second key earlier old isFirst isSecond
        same
    · exact absurd same (adds.above sane count (List.mem_of_getElem? earlier)
        isFirst isSecond)
    · exact absurd same.symm (adds.above sane count
        (List.mem_of_getElem? old) isSecond isFirst)
    · rfl
  case addressed =>
    intro message member group target
    rw [adds.log] at member
    rcases List.mem_append.mp member with earlier | new
    · exact sane.addressed message earlier group target
    · rw [List.mem_singleton.mp new] at target ⊢
      have is := adds.its ⟨retry.event.base.eventId, group⟩ ⟨rfl, .inr target⟩
      exact ⟨_, is ▸ arrival⟩

theorem SaneSaves.republish (sane : SaneSaves calls world)
    (adds : Republished doc retry world (world.republish caller retry))
    (arrival : Arrived world doc.key (delivered world doc.key))
    (unowed : ∀ save ∈ world.saves, save.caller ∈ world.owing →
      save.message.key ≠ doc.key) :
    SaneSaves calls (world.republish caller retry) := by
  constructor
  case delivery =>
    intro save member
    exact (sane.delivery save member).grow ⟨_, adds.log.symm⟩
  case arrived =>
    intro key number less
    by_cases same : key = doc.key
    · rw [same, adds.mine] at less
      rw [same]
      rcases Nat.lt_succ_iff_lt_or_eq.mp less with before | last
      · exact sane.arrived _ _ before
      · exact last ▸ arrival
    · rw [adds.others key same] at less
      exact sane.arrived key number less
  case row => exact sane.row
  case owed =>
    intro save member owes
    rw [adds.others _ (unowed save member owes)]
    exact sane.owed save member owes
  case tried =>
    intro other member
    obtain ⟨delivery, message, is, found, meant⟩ := sane.tried other member
    refine ⟨delivery, message, is, ?_, meant⟩
    rw [adds.log, List.getElem?_append_left]
    · exact found
    · exact (List.getElem?_eq_some_iff.mp found).1
  case once => exact sane.once

theorem SaneRows.republish (sane : Sane calls world)
    (setup : Setup topic calls) (publishes : Publishes calls caller doc world)
    (adds : Republished doc retry world (world.republish caller retry)) :
    SaneRows calls (world.republish caller retry) := by
  obtain ⟨-, -, -, rows⟩ := publishes.counts sane
  constructor
  case kept => exact sane.rows.kept
  case unique => exact sane.rows.unique
  case stage =>
    intro row member
    by_cases same : row.key = doc.key
    · obtain ⟨status, counts⟩ := rows row member same
      apply Stage.retried status
      · rw [same, adds.mine]
        exact counts
      · rw [same, adds.mine]
        rintro ⟨save, saved, key, number⟩
        have most := sane.saves.count_le sane.log saved
        rw [key, number] at most
        exact absurd most (Nat.not_succ_le_self _)
    · apply (sane.rows.stage row member).keep
      · exact adds.others row.key same
      · exact fun _ => Iff.rfl
      · exact fun save saved owes _ => ⟨saved, owes⟩
      · exact fun number marked => publishes.others same marked
  case marked =>
    intro marker member
    have is := publishes.alone setup sane (Finset.mem_of_mem_erase member)
    exact absurd is (Finset.ne_of_mem_erase member)

/-- A delivered retry. -/
theorem Sane.republish (sane : Sane calls world) (setup : Setup topic calls)
    (publishes : Publishes calls caller doc world)
    (kept : KeptEvent calls doc.event)
    (event : retry.event = doc.event)
    (addressed : retry.targetGroup = some doc.consumerGroup)
    (count : retry.retryCount = doc.retryCount + 1) :
    Sane calls (world.republish caller retry) := by
  obtain ⟨latest, few, arrival, -⟩ := publishes.counts sane
  have adds := @republished caller world doc retry event addressed
  exact ⟨sane.log.republish adds (event ▸ kept) (latest ▸ count) few arrival,
    sane.saves.republish adds arrival fun _ => publishes.not_owed sane,
    SaneRows.republish sane setup publishes adds⟩

end Retries

/-- A retry that was not delivered waits again. -/
theorem Sane.revert (sane : Sane calls world) (setup : Setup topic calls)
    (publishes : Publishes calls caller doc world)
    {changes : DLQMessageChanges} (scheduled : changes.status = .scheduled)
    (counts : changes.retryCount = some doc.retryCount) :
    Sane calls ((world.changeRow doc.key.eventId doc.key.consumerGroup
      changes).noteSettled caller) := by
  obtain ⟨latest, few, arrival, rows⟩ := publishes.counts sane
  refine sane.moveRow rfl rfl rfl rfl ?_ ?_ ?_
  · intro save member owes
    have owed := Finset.mem_of_mem_erase owes
    obtain ⟨its, decided⟩ := sane.saves.owed save member owed
    refine ⟨its, fun row present same => ?_⟩
    rcases World.changeRow_cases present with
      ⟨old, -, key, rfl⟩ | ⟨earlier, -⟩
    · exact absurd (same.symm.trans key)
        (publishes.not_owed sane member owed)
    · exact decided row earlier same
  · intro row member
    rcases World.changeRow_cases member with
      ⟨old, present, key, rfl⟩ | ⟨present, other⟩
    · have count : (old.change changes world.clock).retryCount =
          delivered world old.key := by
        simp only [DLQMessageDocument.change, counts, Option.getD_some,
          latest, key]
      exact .waiting scheduled count (key ▸ arrival) (key ▸ few)
    · apply (sane.rows.stage row present).keep
      · rfl
      · exact fun _ => Iff.rfl
      · intro save saved owes _
        refine ⟨saved, Finset.mem_erase_of_ne_of_mem ?_ owes⟩
        rintro rfl
        obtain ⟨delivery, _, is, _⟩ := sane.saves.delivery save saved
        cases publishes.job.symm.trans is
      · exact fun number marked => publishes.others other marked
  · intro marker member
    have is := publishes.alone setup sane (Finset.mem_of_mem_erase member)
    exact absurd is (Finset.ne_of_mem_erase member)

end Steps

/-! ### The rules for calls -/

section Coroutines

/-- A command that leaves the dead letters alone. -/
abbrev Quiet (command : Command) : Prop := command.isQuiet = true

theorem goes_through {command : Command} (serves : served command = true)
    (choice : Choice) (may : MayGo command choice) :
    choice.outcome = .succeeds := by
  cases command with
  | delivery command =>
      cases command with
      | republish message => cases serves
      | _ => exact may
  | _ => cases serves

theorem Rely.refl (caller : Caller) (world : World) :
    Rely calls caller world world :=
  ⟨Own.refl caller world, List.prefix_rfl, fun _ _ waits => waits⟩

theorem Rely.trans {first second third : World}
    (earlier : Rely calls caller first second)
    (later : Rely calls caller second third) :
    Rely calls caller first third :=
  ⟨earlier.own.trans later.own, earlier.log.trans later.log,
    fun job doc waits => later.waits job doc (earlier.waits job doc waits)⟩

theorem Waits.same {doc : DLQMessageDocument} (waits : Waits before doc)
    (same : SameLetters before after) : Waits after doc := by
  unfold Waits
  rw [same.deadLetters]
  exact waits

/-- A change of other rows lets a row wait. -/
theorem Waits.changeRow {doc : DLQMessageDocument} (waits : Waits world doc)
    {key : LetterKey} (other : doc.key ≠ key) {changes : DLQMessageChanges} :
    Waits (world.changeRow key.eventId key.consumerGroup changes) doc := by
  constructor
  · obtain ⟨row, member, its⟩ := waits.1
    obtain ⟨kept, still, same⟩ := World.rows_changeRow key.eventId
      key.consumerGroup changes row member
    exact ⟨kept, still, same.trans its⟩
  · intro row member its
    rcases World.changeRow_cases member with
      ⟨old, -, same, rfl⟩ | ⟨present, -⟩
    · exact absurd (its.symm.trans same) other
    · exact waits.2 row present its

theorem Waits.saveMessage {doc saved : DLQMessageDocument}
    (waits : Waits world doc) (other : doc.key ≠ saved.key) :
    Waits (world.saveMessage caller saved) doc := by
  constructor
  · obtain ⟨row, member, its⟩ := waits.1
    obtain ⟨kept, still, same⟩ := World.rows_saveMessage saved row member
    exact ⟨kept, still, same.trans its⟩
  · intro row member its
    rcases World.saveMessage_cases member with rfl | ⟨present, -⟩
    · exact absurd its.symm other
    · exact waits.2 row present its

private theorem rely_same (same : SameLetters before after) (caller : Caller) :
    Rely calls caller before after :=
  ⟨same.own caller, by rw [same.log], fun _ _ waits => waits.same same⟩

theorem Decided.stable (relied : Rely calls caller before after)
    (decided : Decided caller before) : Decided caller after :=
  fun doc member => relied.own.owing.not.mpr
    (decided doc ((relied.own.saves doc).mp member))

theorem sound : (contract calls).Sound backend := by
  constructor
  · exact Rely.refl
  · intro caller first second third
    exact Rely.trans
  · intro world
    trivial
  · intro caller other before after different _ _ promised
    exact promised other different
  · intros
    trivial
  · intro atWork world event next sane _ happened
    have same : SameLetters world next := by
      rcases World.happen_cases happened with
        ⟨duration, -, rfl⟩ | ⟨executions, rfl⟩ <;>
      exact ⟨rfl, rfl, rfl, rfl, rfl, rfl, rfl⟩
    have relied : ∀ caller, Rely calls caller world next := rely_same same
    exact ⟨sane.same same, trivial, fun caller _ => relied caller,
      fun caller decided => decided.stable (relied caller)⟩
  · intro world caller next _ may
    cases may
  · intro caller before after relied decided
    exact decided.stable relied

/-- What a call's command leaves to the others, once nobody's waiting rows
have moved. -/
theorem promise {command : Command} {choice : Choice}
    {reply : Except PyException (Reply command)}
    (performed : world.perform caller command choice = some (reply, after))
    (setup : Setup topic calls)
    (waits : calls caller ≠ .monitor →
      ∀ doc, Waits world doc → Waits after doc) :
    ∀ other, other ≠ caller → Rely calls other world after := by
  intro other different
  refine ⟨World.perform_own different performed, World.perform_log performed,
    fun job doc waiting => waits ?_ doc waiting⟩
  intro mine
  exact different (setup.oneMonitor other caller job mine)

variable {topic : List Message} {command : Command}
  {post : Except PyException (Reply command) → World → Prop}

/-- A quiet command: what it answers, and where the others lead from there. -/
theorem wp_quiet (setup : Setup topic calls) (quiet : Quiet command)
    (sane : Sane calls world)
    (answers : ∀ choice reply next later, MayGo command choice →
      world.perform caller command choice = some (reply, next) →
        Rely calls caller world later → Sane calls later → post reply later) :
    (contract calls).wp backend caller (request command) post world := by
  apply Contract.wp_call trivial
  intro choice reply next may performed
  have same := World.perform_quiet quiet performed
  refine ⟨sane.same same, ?_, fun later reached => ?_⟩
  · exact promise performed setup fun _ _ waits => waits.same same
  · exact answers choice reply next later may performed
      ((rely_same same caller).trans reached.1) reached.2

/-- A coroutine that only awaits quiet commands keeps what its caller relies
on. -/
theorem wp_quietly {α : Type} {coroutine : Program α} {holds : World → Prop}
    (setup : Setup topic calls) (asks : coroutine.Asks Quiet)
    (stable : ∀ before after, Rely calls caller before after →
      holds before → holds after)
    (sane : Sane calls world) (here : holds world) :
    (contract calls).wp backend caller coroutine (fun _ => holds) world := by
  apply Contract.wp_asks _ asks sane here
  intro command before quiet keptBefore holdsBefore
  refine ⟨trivial, fun choice reply next may performed => ?_⟩
  have same := World.perform_quiet quiet performed
  refine ⟨keptBefore.same same, ?_, fun later reached => ?_⟩
  · exact promise performed setup fun _ _ waits => waits.same same
  · exact stable before later ((rely_same same caller).trans reached.1)
      holdsBefore

/-- A command that cannot raise. -/
theorem wp_value (setup : Setup topic calls) (quiet : Quiet command)
    (sane : Sane calls world)
    (never : ∀ error, command.mayRaise error = false)
    (answers : ∀ choice later, Rely calls caller world later →
      Sane calls later →
        post (world.effect caller choice command).1 later) :
    (contract calls).wp backend caller (request command) post world := by
  apply wp_quiet setup quiet sane
  intro choice reply next later _ performed relied keptLater
  rcases World.perform_cases performed with ⟨-, went⟩ | ⟨error, -, may, -⟩
  · have answered := answers choice later relied keptLater
    rw [went] at answered
    exact answered
  · rw [never error] at may
    cases may

/-- A quiet command of the queue, which goes through. -/
theorem wp_served (setup : Setup topic calls) (quiet : Quiet command)
    (sane : Sane calls world)
    (serves : ∀ choice, MayGo command choice → choice.outcome = .succeeds)
    (answers : ∀ choice later, Rely calls caller world later →
      Sane calls later →
        post (world.effect caller choice command).1 later) :
    (contract calls).wp backend caller (request command) post world := by
  apply wp_quiet setup quiet sane
  intro choice reply next later may performed relied keptLater
  have answered := answers choice later relied keptLater
  rcases World.perform_cases performed with
    ⟨-, went⟩ | ⟨error, -, -, ⟨outcome, -⟩ | ⟨outcome, -⟩⟩
  · rw [went] at answered
    exact answered
  · rw [serves choice may] at outcome
    cases outcome
  · rw [serves choice may] at outcome
    cases outcome

/-- A command of the queue that changes its rows, and goes through. -/
theorem wp_effect (setup : Setup topic calls)
    (goes : ∀ choice, MayGo command choice → choice.outcome = .succeeds)
    (keeps : ∀ choice, Sane calls (world.effect caller choice command).2)
    (waits : calls caller ≠ .monitor → ∀ choice doc, Waits world doc →
      Waits (world.effect caller choice command).2 doc)
    (answers : ∀ choice later,
      Rely calls caller (world.effect caller choice command).2 later →
        Sane calls later →
          post (world.effect caller choice command).1 later) :
    (contract calls).wp backend caller (request command) post world := by
  apply Contract.wp_call trivial
  intro choice reply next may performed
  rcases World.perform_cases performed with
    ⟨-, went⟩ | ⟨error, -, -, ⟨outcome, -⟩ | ⟨outcome, -⟩⟩
  · have keptNext := keeps choice
    have waitsNext := fun other doc => waits other choice doc
    have answered := answers choice
    rw [went] at keptNext waitsNext answered
    exact ⟨keptNext, promise performed setup waitsNext, fun later reached =>
      answered later reached.1 reached.2⟩
  · rw [goes choice may] at outcome
    cases outcome
  · rw [goes choice may] at outcome
    cases outcome

end Coroutines

/-! ### A delivery through its middlewares -/

section Deliveries

open IdempotencyManager

private theorem asks_handleExistingKey (config : IdempotencyConfig)
    (existing : IdempotencyRecord) (fullKey : String) :
    (handleExistingKey config existing fullKey).Asks Quiet := by
  unfold handleExistingKey
  split
  · apply Coroutine.Asks.bind
    · exact Coroutine.Asks.call rfl
    intro now
    split
    · apply Coroutine.Asks.bind
      · exact Coroutine.Asks.call rfl
      intro _
      trivial
    · trivial
  · trivial
  · trivial

theorem asks_checkAndReserve (config : IdempotencyConfig) (fullKey : String)
    (eventType : EventType) (eventId : EventId) (ttl : Nat) :
    (checkAndReserve config fullKey eventType eventId ttl).Asks Quiet := by
  apply Coroutine.Asks.bind
  · exact Coroutine.Asks.call rfl
  intro found
  cases found with
  | some existing => exact asks_handleExistingKey config existing fullKey
  | none =>
      apply Coroutine.Asks.bind
      · exact Coroutine.Asks.call rfl
      intro createdAt
      apply Coroutine.Asks.attempt
      · apply Coroutine.Asks.bind
        · exact Coroutine.Asks.call rfl
        intro _
        trivial
      intro error
      split
      · apply Coroutine.Asks.bind
        · exact Coroutine.Asks.call rfl
        intro again
        cases again with
        | some existing => exact asks_handleExistingKey config existing fullKey
        | none => trivial
      · trivial

theorem asks_markCompleted (config : IdempotencyConfig) (fullKey : String) :
    (markCompleted config fullKey).Asks Quiet := by
  apply Coroutine.Asks.bind
  · apply Coroutine.Asks.attempt
    · exact Coroutine.Asks.call rfl
    intro error
    split <;> trivial
  intro found
  cases found with
  | none => trivial
  | some existing =>
      apply Coroutine.Asks.bind
      · exact Coroutine.Asks.call rfl
      intro completedAt
      apply Coroutine.Asks.bind
      · exact Coroutine.Asks.call rfl
      intro written
      trivial

variable {topic : List Message} {delivery : Delivery} {message : Message}

/-- A call that has received its message and has not saved a failure. -/
structure Received (caller : Caller) (delivery : Delivery) (message : Message)
    (world : World) : Prop where
  found : world.log[delivery.offset]? = some message.sent
  retrying : caller ∉ world.retrying
  quiet : ∀ other, ⟨caller, other⟩ ∉ world.saves

/-- The handler of the call has not run. -/
structure Ready (caller : Caller) (delivery : Delivery) (message : Message)
    (world : World) : Prop where
  received : Received caller delivery message world
  owing : caller ∉ world.owing
  first : caller ∉ world.attempts

/-- The handler of the call has not failed. -/
structure Passed (caller : Caller) (delivery : Delivery) (message : Message)
    (world : World) : Prop where
  received : Received caller delivery message world
  owing : caller ∉ world.owing

theorem Received.stable (relied : Rely calls caller before after)
    (received : Received caller delivery message before) :
    Received caller delivery message after := by
  refine ⟨?_, relied.own.retrying.not.mpr received.retrying, fun other =>
    (relied.own.saves other).not.mpr (received.quiet other)⟩
  obtain ⟨more, same⟩ := relied.log
  rw [← same, List.getElem?_append_left]
  · exact received.found
  · exact (List.getElem?_eq_some_iff.mp received.found).1

theorem Ready.stable (relied : Rely calls caller before after)
    (ready : Ready caller delivery message before) :
    Ready caller delivery message after :=
  ⟨ready.received.stable relied, relied.own.owing.not.mpr ready.owing,
    relied.own.attempts.not.mpr ready.first⟩

theorem Passed.stable (relied : Rely calls caller before after)
    (passed : Passed caller delivery message before) :
    Passed caller delivery message after :=
  ⟨passed.received.stable relied, relied.own.owing.not.mpr passed.owing⟩

theorem Ready.passed (ready : Ready caller delivery message world) :
    Passed caller delivery message world :=
  ⟨ready.received, ready.owing⟩

/-- What the end of a handler leaves: only a failed one has something to
save. -/
def Handled {α : Type} (caller : Caller) (delivery : Delivery)
    (message : Message) (reply : Except PyException α) (world : World) :
    Prop :=
  match reply with
  | .ok _ => Passed caller delivery message world
  | .error _ => Received caller delivery message world

theorem wp_work (setup : Setup topic calls) (sane : Sane calls world)
    (is : calls caller = .consume delivery)
    (meant : ∀ group, message.targetGroup = some group →
      group = delivery.groupId)
    (ready : Ready caller delivery message world) :
    (contract calls).wp backend caller (request .work)
      (Handled caller delivery message) world := by
  apply Contract.wp_call trivial
  intro choice reply next may performed
  have waits : ∀ {other : World}, other.deadLetters = world.deadLetters →
      ∀ doc, Waits world doc → Waits other doc := by
    intro other rows doc waiting
    unfold Waits
    rw [rows]
    exact waiting
  have goes := promise performed setup
  rcases World.perform_cases performed with
    ⟨-, went⟩ | ⟨error, rfl, -, ⟨-, rfl⟩ | ⟨-, loses, -⟩⟩
  · cases went
    have passed : Passed caller delivery message (world.noteReturn caller) :=
      ⟨⟨ready.received.found, ready.received.retrying, ready.received.quiet⟩,
        ready.owing⟩
    refine ⟨?_, goes fun _ => waits rfl, fun later reached =>
      passed.stable reached.1⟩
    apply sane.attempt is ready.received.found meant ready.first
      ready.received.quiet
    · exact fun _ _ => Iff.rfl
    · exact id
    all_goals rfl
  · have received : Received caller delivery message
        (world.noteRaise caller) :=
      ⟨ready.received.found, ready.received.retrying, ready.received.quiet⟩
    refine ⟨?_, goes fun _ => waits rfl, fun later reached =>
      received.stable reached.1⟩
    apply sane.attempt is ready.received.found meant ready.first
      ready.received.quiet
    · intro other different
      exact Finset.mem_insert.trans (or_iff_right different)
    · exact fun owes => Finset.mem_insert_of_mem owes
    all_goals rfl
  · cases loses

/-- The guard of the scheduler's router around its handler. -/
theorem wp_guarded {config : IdempotencyConfig} {ttlSeconds : Nat}
    (setup : Setup topic calls) (sane : Sane calls world)
    (is : calls caller = .consume delivery)
    (meant : ∀ group, message.targetGroup = some group →
      group = delivery.groupId)
    (ready : Ready caller delivery message world) :
    (contract calls).wp backend caller
      (IdempotencyMiddleware.consumeScope config ttlSeconds message.event
        (request .work)) (Handled caller delivery message) world := by
  unfold IdempotencyMiddleware.consumeScope underKey
  dsimp only
  rw [Contract.wp_bind]
  apply Contract.wp_mono _ sane (wp_quietly setup
    (asks_checkAndReserve config _ _ _ _) (fun _ _ => Ready.stable) sane ready)
  intro reply checked keptChecked readyChecked
  cases reply with
  | error error => exact readyChecked.received
  | ok reservation =>
      dsimp only
      split
      · exact readyChecked.passed
      rw [Contract.wp_bind]
      apply wp_value setup rfl keptChecked fun _ => rfl
      intro _ through relied keptThrough
      simp only [World.effect]
      rw [Contract.wp_bind, Contract.wp_attempt]
      apply Contract.wp_mono _ keptThrough
        (wp_work setup keptThrough is meant (readyChecked.stable relied))
      intro answer worked keptWorked handled
      cases answer with
      | ok _ =>
          have passed : Passed caller delivery message worked := handled
          dsimp only
          rw [Contract.wp_bind]
          apply Contract.wp_mono _ keptWorked (wp_quietly setup
            (asks_markCompleted config _) (fun _ _ => Passed.stable)
            keptWorked passed)
          intro marked final _ passedFinal
          cases marked with
          | ok _ => exact passedFinal
          | error error => exact passedFinal.received
      | error error =>
          have received : Received caller delivery message worked := handled
          dsimp only
          rw [Contract.wp_bind, release, Contract.wp_bind]
          apply wp_quiet setup rfl keptWorked
          intro _ dropped _ final _ _ reliedFinal _
          cases dropped <;> exact received.stable reliedFinal

/-- The handler of the notifications' router. -/
theorem wp_handler (setup : Setup topic calls) (sane : Sane calls world)
    (is : calls caller = .consume delivery)
    (meant : ∀ group, message.targetGroup = some group →
      group = delivery.groupId)
    (ready : Ready caller delivery message world) :
    (contract calls).wp backend caller handler
      (Handled caller delivery message) world := by
  rw [handler, Contract.wp_bind]
  apply Contract.wp_mono _ sane (wp_work setup sane is meant ready)
  intro reply later _ handled
  cases reply with
  | ok _ => exact handled
  | error error => exact handled

variable {doc : DLQMessageDocument}

theorem Undecided.stable (relied : Rely calls caller before after)
    (undecided : Undecided caller doc before) : Undecided caller doc after :=
  ⟨relied.own.owing.mpr undecided.owing,
    relied.own.retrying.not.mpr undecided.retrying,
    (relied.own.saves doc).mpr undecided.saved, fun other member =>
      undecided.only other ((relied.own.saves other).mp member)⟩

/-- What the dead letter queue gets about a failed delivery. -/
theorem Received.failure (received : Received caller delivery message world)
    (sane : Sane calls world) (is : calls caller = .consume delivery)
    (meant : ∀ group, message.targetGroup = some group →
      group = delivery.groupId)
    (event : doc.event = message.event)
    (group : doc.consumerGroup = delivery.groupId)
    (count : doc.retryCount = message.retryCount) :
    Failure calls caller doc world := by
  have its : IsFor message.sent doc.key := by
    refine ⟨congrArg (·.base.eventId) event.symm, ?_⟩
    cases target : message.targetGroup with
    | none => exact .inl target
    | some addressed =>
        refine .inr (target.trans (congrArg some ?_))
        exact (meant addressed target).trans group.symm
  refine ⟨⟨delivery, message.sent, is, received.found, its, group, count⟩, ?_,
    received.quiet⟩
  rw [event]
  exact sane.log.kept message.sent (List.mem_of_getElem? received.found)

/-- Scheduling or discarding the row of a failure. -/
theorem wp_decide {changes : DLQMessageChanges} {saved : DLQMessageDocument}
    {post : Except PyException Unit → World → Prop}
    (setup : Setup topic calls) (sane : Sane calls world)
    (undecided : Undecided caller saved world) (same : doc.key = saved.key)
    (counts : changes.retryCount = none)
    (decides :
      changes.status = .scheduled ∧
          saved.retryCount < retryPolicy.maxRetries ∨
        changes.status = .discarded ∧
          retryPolicy.maxRetries ≤ saved.retryCount)
    (answers : ∀ later, Sane calls later → caller ∉ later.owing →
      post (.ok ()) later) :
    (contract calls).wp backend caller (DLQManager.updateStatus doc changes)
      post world := by
  have effect : ∀ choice, (world.effect caller choice (.delivery
      (.updateStatus doc.event.base.eventId doc.consumerGroup changes))).2 =
      (world.changeRow saved.key.eventId saved.key.consumerGroup
        changes).noteSettled caller := by
    intro choice
    rw [← same]
    rcases decides with ⟨status, -⟩ | ⟨status, -⟩ <;>
      simp only [World.effect, World.effectDelivery, World.updateStatus,
        status] <;> rfl
  apply wp_effect setup (goes_through rfl)
  · intro choice
    rw [effect choice]
    exact sane.decide setup undecided counts decides
  · intro _ choice other waits
    rw [effect choice]
    exact waits.changeRow (undecided.not_waits sane waits)
  · intro choice later relied keptLater
    rw [effect choice] at relied
    apply answers later keptLater
    apply relied.own.owing.not.mpr
    exact Finset.notMem_erase caller world.owing

/-- The manager decides on a failure before it is done with it. -/
theorem wp_handleMessage {now : Nat} (setup : Setup topic calls)
    (sane : Sane calls world) (is : calls caller = .consume delivery)
    (meant : ∀ group, message.targetGroup = some group →
      group = delivery.groupId)
    (event : doc.event = message.event)
    (group : doc.consumerGroup = delivery.groupId)
    (count : doc.retryCount = message.retryCount)
    (failed : doc.failedAt = now)
    (received : Received caller delivery message world) :
    (contract calls).wp backend caller
      (DLQManager.handleMessage delivery.testEnvironment doc now)
      (fun _ later => caller ∉ later.owing) world := by
  have failure := received.failure sane is meant event group count
  have passes : DLQManager.passesFilters delivery.testEnvironment doc now =
      true := by
    have kept := failure.kept caller delivery is
    simp only [DLQManager.passesFilters, DLQManager.filterTestEvents,
      DLQManager.filterOldMessages, failed, Nat.sub_self, Bool.and_eq_true,
      Bool.or_eq_true, Bool.not_eq_true', decide_eq_true_eq]
    exact ⟨kept, by decide⟩
  rw [DLQManager.handleMessage, if_pos passes, Contract.wp_bind]
  apply wp_effect setup (goes_through rfl)
  · intro choice
    have same : Failure calls caller
        { doc with status := .pending, lastUpdated := some now } world :=
      ⟨failure.comes, failure.kept, failure.quiet⟩
    exact sane.saveMessage setup same rfl
  · intro _ choice other waits
    exact waits.saveMessage (failure.not_waits setup sane waits)
  intro choice stored relied keptStored
  simp only [World.effect, World.effectDelivery]
  have undecided : Undecided caller
      { doc with status := .pending, lastUpdated := some now } stored := by
    apply Undecided.stable relied
    refine ⟨Finset.mem_insert_self .., received.retrying,
      List.mem_cons_self, fun other member => ?_⟩
    rcases List.mem_cons.mp member with mine | earlier
    · exact congrArg SavedLetter.message mine
    · exact absurd earlier (received.quiet other)
  rw [Contract.wp_bind]
  apply wp_served setup rfl keptStored (goes_through rfl)
  intro _ notified reliedNotified keptNotified
  have undecidedNotified := undecided.stable reliedNotified
  simp only [World.effect, World.effectDelivery]
  split
  · next many =>
      rw [DLQManager.discardMessage, Contract.wp_bind]
      apply wp_value setup rfl keptNotified fun _ => rfl
      intro _ stamped reliedStamped keptStamped
      have undecidedStamped := undecidedNotified.stable reliedStamped
      simp only [World.effect]
      rw [Contract.wp_bind]
      apply wp_decide setup keptStamped undecidedStamped rfl rfl
        (.inr ⟨rfl, many⟩)
      intro discarded keptDiscarded done
      apply wp_served setup rfl keptDiscarded (goes_through rfl)
      intro _ final reliedFinal _
      exact reliedFinal.own.owing.not.mpr done
  · next few =>
      rw [Contract.wp_bind]
      apply wp_value setup rfl keptNotified fun _ => rfl
      intro choice drawn reliedDrawn keptDrawn
      have undecidedDrawn := undecidedNotified.stable reliedDrawn
      simp only [World.effect]
      rw [Contract.wp_bind]
      apply wp_value setup rfl keptDrawn fun _ => rfl
      intro _ planned reliedPlanned keptPlanned
      have undecidedPlanned := undecidedDrawn.stable reliedPlanned
      simp only [World.effect]
      apply wp_decide setup keptPlanned undecidedPlanned rfl rfl
        (.inl ⟨rfl, Nat.not_le.mp few⟩)
      intro scheduled _ done
      exact done

/-- The dead letters of a router around what it guards. -/
theorem wp_deadLetters {callNext : Program ConsumeResult}
    (setup : Setup topic calls) (sane : Sane calls world)
    (is : calls caller = .consume delivery)
    (meant : ∀ group, message.targetGroup = some group →
      group = delivery.groupId)
    (runs : (contract calls).wp backend caller callNext
      (Handled caller delivery message) world) :
    (contract calls).wp backend caller
      (DeadLetterMiddleware.consumeScope delivery.testEnvironment
        delivery.groupId message callNext)
      (fun _ later => caller ∉ later.owing) world := by
  unfold DeadLetterMiddleware.consumeScope
  rw [Contract.wp_attempt]
  apply Contract.wp_mono _ sane runs
  intro reply ended keptEnded handled
  cases reply with
  | ok result =>
      have passed : Passed caller delivery message ended := handled
      exact passed.owing
  | error error =>
      have received : Received caller delivery message ended := handled
      dsimp only
      rw [Contract.wp_bind]
      apply wp_value setup rfl keptEnded fun _ => rfl
      intro _ stamped relied keptStamped
      simp only [World.effect]
      rw [Contract.wp_bind]
      apply Contract.wp_mono _ keptStamped
        (wp_handleMessage setup keptStamped is meant rfl rfl rfl rfl
          (received.stable relied))
      intro answer final _ done
      cases answer <;> exact done

theorem Ready.decided (ready : Ready caller delivery message world) :
    Decided caller world :=
  fun _ _ => ready.owing

/-- What a router does with a message that is meant for its group. -/
theorem wp_middlewares (setup : Setup topic calls) (sane : Sane calls world)
    (is : calls caller = .consume delivery)
    (meant : ∀ group, message.targetGroup = some group →
      group = delivery.groupId)
    (ready : Ready caller delivery message world) :
    (contract calls).wp backend caller
      (delivery.router.middlewares delivery.testEnvironment delivery.groupId
        message) (fun _ => Decided caller) world := by
  unfold Router.middlewares
  split
  · apply Contract.wp_mono _ sane (wp_deadLetters setup sane is meant
      (wp_guarded setup sane is meant ready))
    exact fun _ _ _ done _ _ => done
  · apply Contract.wp_mono _ sane (wp_deadLetters setup sane is meant
      (wp_handler setup sane is meant ready))
    exact fun _ _ _ done _ _ => done
  · apply Contract.wp_mono _ sane (wp_handler setup sane is meant ready)
    intro reply ended _ handled doc saved
    have quiet : ∀ other, ⟨caller, other⟩ ∉ ended.saves := by
      cases reply with
      | ok _ => exact handled.received.quiet
      | error error => exact handled.quiet
    exact absurd saved (quiet doc)

/-- A message names the group it is for, if any; no group has an empty id. -/
theorem target_ne_empty (setup : Setup topic calls) (sane : Sane calls world)
    (ready : Ready caller delivery message world) {group : String}
    (target : message.targetGroup = some group) : group ≠ "" := by
  have member : message.sent ∈ world.log :=
    List.mem_of_getElem? ready.received.found
  obtain ⟨count, save, saved, key, -⟩ :=
    sane.log.addressed message.sent member group target
  obtain ⟨from_, -, is, -, -, same, -⟩ := sane.saves.delivery save saved
  have named := setup.named save.caller from_ is
  rw [← same] at named
  have its : save.message.consumerGroup = group :=
    congrArg LetterKey.consumerGroup key
  rwa [its] at named

theorem wp_pipeline (setup : Setup topic calls) (sane : Sane calls world)
    (is : calls caller = .consume delivery)
    (ready : Ready caller delivery message world) :
    (contract calls).wp backend caller (delivery.pipeline message)
      (fun _ => Decided caller) world := by
  have passes : (∀ group, message.targetGroup = some group →
      group = delivery.groupId) →
      (contract calls).wp backend caller
        (delivery.router.middlewares delivery.testEnvironment delivery.groupId
          message) (fun _ => Decided caller) world :=
    fun meant => wp_middlewares setup sane is meant ready
  have ends : (contract calls).wp backend caller
      (RetryTargetMiddleware.consumeScope delivery.groupId message
        (delivery.router.middlewares delivery.testEnvironment delivery.groupId
          message)) (fun _ => Decided caller) world := by
    unfold RetryTargetMiddleware.consumeScope
    cases target : message.targetGroup with
    | none =>
        apply passes
        intro group same
        cases target.symm.trans same
    | some addressed =>
        dsimp only
        split
        · exact ready.decided
        · next accepted =>
            apply passes
            intro group same
            cases target.symm.trans same
            by_contra other
            exact accepted
              ⟨target_ne_empty setup sane ready target, other⟩
  rw [Delivery.pipeline, Contract.wp_attempt]
  apply Contract.wp_mono _ sane ends
  intro reply later _ decided
  cases reply <;> exact decided

/-- A delivery keeps the contract, and decides on what it saves. -/
theorem wp_consume (setup : Setup topic calls) (sane : Sane calls world)
    (is : calls caller = .consume delivery)
    (owing : caller ∉ world.owing) (retrying : caller ∉ world.retrying)
    (quiet : ∀ other, ⟨caller, other⟩ ∉ world.saves)
    (first : caller ∉ world.attempts) :
    (contract calls).wp backend caller delivery.consume
      (fun _ => Decided caller) world := by
  rw [Delivery.consume, Contract.wp_bind]
  apply wp_served setup rfl sane (goes_through rfl)
  intro _ later relied keptLater
  simp only [World.effect, World.effectDelivery]
  cases received : world.messages[delivery.offset]? with
  | none =>
      intro doc saved
      exact absurd ((relied.own.saves doc).mp saved) (quiet doc)
  | some message =>
      have found : world.log[delivery.offset]? = some message.sent := by
        rw [World.log, List.getElem?_map, received]
        rfl
      have ready : Ready caller delivery message later :=
        Ready.stable relied ⟨⟨found, retrying, quiet⟩, owing, first⟩
      dsimp only
      split
      · rw [Contract.wp_bind]
        apply wp_served setup rfl keptLater (goes_through rfl)
        intro _ early reliedEarly keptEarly
        simp only [World.effect, World.effectDelivery]
        rw [Contract.wp_bind]
        apply Contract.wp_mono _ keptEarly
          (wp_pipeline setup keptEarly is (ready.stable reliedEarly))
        intro reply final _ decided
        cases reply <;> exact decided
      · rw [Contract.wp_bind]
        apply Contract.wp_mono _ keptLater
          (wp_pipeline setup keptLater is ready)
        intro reply ended keptEnded decided
        cases reply with
        | error error => exact decided
        | ok result =>
            apply wp_served setup rfl keptEnded (goes_through rfl)
            intro _ final reliedFinal _
            exact decided.stable reliedFinal

end Deliveries

/-! ### The job that publishes retries -/

section Job

variable {topic : List Message} {doc : DLQMessageDocument}
  {docs : List DLQMessageDocument}

/-- The job has nothing left to see to, and these rows wait for their
retries. -/
structure Turning (caller : Caller) (docs : List DLQMessageDocument)
    (world : World) : Prop where
  owing : caller ∉ world.owing
  retrying : caller ∉ world.retrying
  waits : ∀ doc ∈ docs, Waits world doc

theorem Turning.stable (job : calls caller = .monitor)
    (relied : Rely calls caller before after)
    (turning : Turning caller docs before) : Turning caller docs after :=
  ⟨relied.own.owing.not.mpr turning.owing,
    relied.own.retrying.not.mpr turning.retrying, fun doc member =>
      relied.waits job doc (turning.waits doc member)⟩

/-- The job has marked one row, and others wait for their retries. -/
structure Midway (calls : Caller → RetryCall) (caller : Caller)
    (doc : DLQMessageDocument) (docs : List DLQMessageDocument)
    (world : World) : Prop where
  owing : caller ∉ world.owing
  publishes : Publishes calls caller doc world
  waits : ∀ doc ∈ docs, Waits world doc

theorem Midway.stable (relied : Rely calls caller before after)
    (midway : Midway calls caller doc docs before) :
    Midway calls caller doc docs after :=
  ⟨relied.own.owing.not.mpr midway.owing,
    ⟨midway.publishes.job, relied.own.retrying.mpr midway.publishes.retrying,
      relied.own.marking.trans midway.publishes.mark⟩, fun other member =>
      relied.waits midway.publishes.job other (midway.waits other member)⟩

/-- Marking a row as retried. -/
theorem wp_markRetried {changes : DLQMessageChanges}
    {post : Except PyException Unit → World → Prop}
    (setup : Setup topic calls) (sane : Sane calls world)
    (job : calls caller = .monitor)
    (turning : Turning caller (doc :: docs) world)
    (others : ∀ other ∈ docs, other.key ≠ doc.key)
    (retried : changes.status = .retried)
    (counts : changes.retryCount = some (doc.retryCount + 1))
    (answers : ∀ later, Sane calls later →
      Midway calls caller doc docs later → post (.ok ()) later) :
    (contract calls).wp backend caller (DLQManager.updateStatus doc changes)
      post world := by
  have effect : ∀ choice, (world.effect caller choice (.delivery
      (.updateStatus doc.event.base.eventId doc.consumerGroup changes))).2 =
      (world.changeRow doc.key.eventId doc.key.consumerGroup
        changes).noteMark caller ⟨doc.key.eventId, doc.key.consumerGroup,
          some (doc.retryCount + 1)⟩ := by
    intro choice
    simp only [World.effect, World.effectDelivery, World.updateStatus, retried,
      counts]
    rfl
  apply wp_effect setup (goes_through rfl)
  · intro choice
    rw [effect choice]
    exact sane.mark job turning.retrying
      (turning.waits doc List.mem_cons_self) retried counts
  · exact fun other => absurd job other
  · intro choice later relied keptLater
    rw [effect choice] at relied
    apply answers later keptLater
    apply Midway.stable relied
    refine ⟨turning.owing, ⟨job, Finset.mem_insert_self ..,
      Function.update_self ..⟩, fun other member => ?_⟩
    exact (turning.waits other (List.mem_cons_of_mem _ member)).changeRow
      (others other member)

/-- A retry that was not delivered. -/
theorem wp_revert {changes : DLQMessageChanges}
    {post : Except PyException Unit → World → Prop}
    (setup : Setup topic calls) (sane : Sane calls world)
    (midway : Midway calls caller doc docs world)
    (others : ∀ other ∈ docs, other.key ≠ doc.key)
    (scheduled : changes.status = .scheduled)
    (counts : changes.retryCount = some doc.retryCount)
    (answers : ∀ later, Sane calls later → Turning caller docs later →
      post (.ok ()) later) :
    (contract calls).wp backend caller (DLQManager.updateStatus doc changes)
      post world := by
  have effect : ∀ choice, (world.effect caller choice (.delivery
      (.updateStatus doc.event.base.eventId doc.consumerGroup changes))).2 =
      (world.changeRow doc.key.eventId doc.key.consumerGroup
        changes).noteSettled caller := by
    intro choice
    simp only [World.effect, World.effectDelivery, World.updateStatus,
      scheduled]
    rfl
  have job := midway.publishes.job
  apply wp_effect setup (goes_through rfl)
  · intro choice
    rw [effect choice]
    exact sane.revert setup midway.publishes scheduled counts
  · exact fun other => absurd job other
  · intro choice later relied keptLater
    rw [effect choice] at relied
    apply answers later keptLater
    apply Turning.stable job relied
    refine ⟨Finset.notMem_erase caller _, Finset.notMem_erase caller _,
      fun other member => ?_⟩
    exact (midway.waits other member).changeRow (others other member)

/-- Retrying a row, whether its retry is delivered or not. -/
theorem wp_retryMessage (setup : Setup topic calls) (sane : Sane calls world)
    (job : calls caller = .monitor)
    (turning : Turning caller (doc :: docs) world)
    (others : ∀ other ∈ docs, other.key ≠ doc.key)
    (kept : KeptEvent calls doc.event) :
    (contract calls).wp backend caller (DLQManager.retryMessage doc)
      (fun _ => Turning caller docs) world := by
  rw [DLQManager.retryMessage, Contract.wp_bind]
  apply wp_value setup rfl sane fun _ => rfl
  intro _ stamped relied keptStamped
  simp only [World.effect]
  rw [Contract.wp_bind]
  apply wp_markRetried setup keptStamped job (turning.stable job relied) others
    rfl rfl
  intro marked keptMarked midway
  dsimp only
  rw [Contract.wp_bind, Contract.wp_attempt]
  apply Contract.wp_call trivial
  intro choice reply next may performed
  have goes := promise performed setup fun other => absurd job other
  rcases World.perform_cases performed with
    ⟨-, went⟩ | ⟨error, rfl, -, ⟨outcome, rfl⟩ | ⟨outcome, -⟩⟩
  · cases went
    have published : Turning caller docs (marked.republish caller
        { event := doc.event
          targetGroup := some doc.consumerGroup
          retryCount := doc.retryCount + 1 }) :=
      ⟨midway.owing, Finset.notMem_erase caller _, midway.waits⟩
    refine ⟨keptMarked.republish setup midway.publishes kept rfl rfl rfl, goes,
      fun later reached => ?_⟩
    apply wp_served setup rfl reached.2 (goes_through rfl)
    intro _ final reliedFinal _
    exact (published.stable job reached.1).stable job reliedFinal
  · refine ⟨keptMarked, goes, fun later reached => ?_⟩
    have produce : error.isProduceError = true := by
      rcases may with succeeds | ⟨expected, fails, its⟩
      · rw [outcome] at succeeds
        cases succeeds
      · rw [outcome] at fails
        cases fails
        exact its
    dsimp only
    rw [if_pos produce, Contract.wp_bind]
    apply wp_revert setup reached.2 (midway.stable reached.1) others rfl rfl
    intro final _ turningFinal
    exact turningFinal
  · rcases may with succeeds | ⟨expected, fails, -⟩
    · rw [outcome] at succeeds
      cases succeeds
    · rw [outcome] at fails
      cases fails

theorem wp_retryAll (setup : Setup topic calls)
    (job : calls caller = .monitor)
    (unique : docs.Pairwise fun first second => first.key ≠ second.key)
    (kept : ∀ doc ∈ docs, KeptEvent calls doc.event)
    (sane : Sane calls world) (turning : Turning caller docs world) :
    (contract calls).wp backend caller (DLQManager.retryAll docs)
      (fun _ => Turning caller []) world := by
  induction docs generalizing world with
  | nil => exact turning
  | cons doc docs inductionHypothesis =>
      obtain ⟨different, rest⟩ := List.pairwise_cons.mp unique
      rw [DLQManager.retryAll, Contract.wp_bind]
      apply Contract.wp_mono _ sane (wp_retryMessage setup sane job turning
        (fun other member => Ne.symm (different other member))
        (kept doc List.mem_cons_self))
      intro reply later keptLater turningLater
      cases reply with
      | ok _ =>
          exact inductionHypothesis rest
            (fun other member => kept other (List.mem_cons_of_mem _ member))
            keptLater turningLater
      | error error =>
          exact ⟨turningLater.owing, turningLater.retrying, by simp⟩

/-- One cycle of the job. -/
theorem wp_processDueRetries (setup : Setup topic calls)
    (job : calls caller = .monitor) (sane : Sane calls world)
    (turning : Turning caller [] world) :
    (contract calls).wp backend caller DLQManager.processDueRetries
      (fun _ => Turning caller []) world := by
  rw [DLQManager.processDueRetries, Contract.wp_bind]
  apply wp_served setup rfl sane (goes_through rfl)
  intro _ later relied keptLater
  simp only [World.effect, World.effectDelivery]
  have listed : ∀ doc ∈ (world.deadLetters.filter fun row =>
      row.isDue world.clock).take 100,
      doc ∈ world.deadLetters ∧ doc.isDue world.clock = true :=
    fun doc member => List.mem_filter.mp (List.mem_of_mem_take member)
  apply wp_retryAll setup job
  · exact List.Pairwise.sublist
      ((List.take_sublist ..).trans List.filter_sublist) sane.rows.unique
  · exact fun doc member => sane.rows.kept doc (listed doc member).1
  · exact keptLater
  · apply Turning.stable job relied
    refine ⟨turning.owing, turning.retrying, fun doc member => ?_⟩
    obtain ⟨present, due⟩ := listed doc member
    have keys : (world.deadLetters.map DLQMessageDocument.key).Nodup :=
      List.pairwise_map.mpr sane.rows.unique
    refine ⟨⟨doc, present, rfl⟩, fun row found same => ?_⟩
    rw [List.inj_on_of_nodup_map keys found present same]
    simp only [DLQMessageDocument.isDue, Bool.and_eq_true, beq_iff_eq] at due
    exact ⟨due.1, rfl⟩

/-- The job keeps the contract. -/
theorem wp_monitorRetries (setup : Setup topic calls)
    (job : calls caller = .monitor) (turning : Turning caller [] world) :
    (contract calls).wp backend caller monitorRetries
      (fun _ => Decided caller) world := by
  apply Contract.wp_repeatWhile (Turning caller []) turning
  intro head turningHead keptHead
  rw [Contract.wp_bind, Contract.wp_attempt]
  apply Contract.wp_mono _ keptHead
    (wp_processDueRetries setup job keptHead turningHead)
  intro reply later _ turningLater
  cases reply <;> exact turningLater

end Job

end Law

/-! ### The law over runs -/

section Runs

variable {calls : Caller → RetryCall} {topic : List Message} {clock : Nat}
  {world : World}

private theorem start_sane (setup : Setup topic calls) :
    Sane calls (start clock topic calls).shared := by
  have none : ∀ message ∈ topic.map Message.sent,
      message.targetGroup = none ∧ message.retryCount = 0 := by
    intro message member
    obtain ⟨original, present, rfl⟩ := List.mem_map.mp member
    exact ⟨setup.unaddressed original present,
      setup.uncounted original present⟩
  have zero : ∀ key, delivered (start clock topic calls).shared key = 0 := by
    intro key
    apply List.countP_eq_zero.mpr
    intro message member its
    simp [(none message member).1] at its
  constructor
  · constructor
    · intro message member
      obtain ⟨original, present, rfl⟩ := List.mem_map.mp member
      exact setup.kept original present
    · intro key
      rw [zero]
      exact Nat.zero_le _
    · intro message member key _
      rw [(none message member).2]
      exact Nat.zero_le _
    · intro i j first second key foundFirst foundSecond isFirst isSecond _
      have ids : ((topic.map Message.sent).map
          (·.event.base.eventId)).Nodup := by
        rw [List.map_map]
        exact setup.published
      have idOf : ∀ (index : Nat) message,
          (topic.map Message.sent)[index]? = some message →
            ((topic.map Message.sent).map (·.event.base.eventId))[index]? =
              some message.event.base.eventId :=
        fun index message found => (List.getElem?_map ..).trans
          (congrArg (Option.map (·.event.base.eventId)) found)
      have first := idOf i first foundFirst
      have second := idOf j second foundSecond
      apply (List.getElem?_inj (List.getElem?_eq_some_iff.mp first).1 ids).mp
      rw [first, second, isFirst.1, isSecond.1]
    · intro message member group target
      cases (none message member).1.symm.trans target
  · constructor
    · intro save member
      cases member
    · intro key count less
      rw [zero] at less
      cases less
    · intro save member
      cases member
    · intro save member
      cases member
    · intro caller member
      cases member
    · exact List.nodup_nil
  · constructor
    · intro row member
      cases member
    · exact List.Pairwise.nil
    · intro row member
      cases member
    · intro marker member
      exact absurd member (Finset.notMem_empty marker)

private theorem stable_decided : (contract calls).Stable backend
    (fun caller (_ : Except PyException Unit) => Decided caller) :=
  BackendContract.stable (fun _ _ _ relied decided => decided.stable relied)
    (fun _ _ _ decided => decided) (fun _ _ _ decided => decided)

theorem start_safe (setup : Setup topic calls) :
    (contract calls).Safe backend (fun caller _ => Decided caller)
      (start clock topic calls) := by
  apply Contract.Safe.start sound
  · exact start_sane setup
  · intro caller dead
    cases dead
  · intro caller coroutine runs later ⟨relied, sane⟩
    cases runs
    have owing : caller ∉ later.owing :=
      relied.own.owing.not.mpr (Finset.notMem_empty caller)
    have retrying : caller ∉ later.retrying :=
      relied.own.retrying.not.mpr (Finset.notMem_empty caller)
    cases is : calls caller with
    | consume delivery =>
        apply wp_consume setup sane is owing retrying
        · exact fun other =>
            (relied.own.saves other).not.mpr List.not_mem_nil
        · exact relied.own.attempts.not.mpr List.not_mem_nil
    | monitor =>
        exact wp_monitorRetries setup is ⟨owing, retrying, by simp⟩

/-- The count of the message that a call received. -/
def countOf (calls : Caller → RetryCall) (world : World) (caller : Caller) :
    Nat :=
  match calls caller with
  | .consume delivery =>
      ((world.log[delivery.offset]?).map Message.retryCount).getD 0
  | .monitor => 0

/-- What a handler run for a key was given. -/
theorem Sane.run (sane : Sane calls world) {key : LetterKey} {caller : Caller}
    (ran : caller ∈ world.attempts)
    (its : runsFor calls world key caller = true) :
    ∃ delivery message, calls caller = .consume delivery ∧
      world.log[delivery.offset]? = some message ∧ IsFor message key ∧
      delivery.groupId = key.consumerGroup ∧
      countOf calls world caller = message.retryCount := by
  obtain ⟨delivery, message, is, found, meant⟩ := sane.saves.tried caller ran
  simp only [runsFor, is, found, Option.any_some, Bool.and_eq_true, beq_iff_eq]
    at its
  refine ⟨delivery, message, is, found, ⟨its.2, ?_⟩, its.1, ?_⟩
  · cases target : message.targetGroup with
    | none => exact .inl rfl
    | some group =>
        exact .inr (congrArg some ((meant group target).trans its.1))
  · simp [countOf, is, found]

/-- Each run of a group's handler for an event is for another count. -/
theorem Sane.bounded (sane : Sane calls world) (setup : Setup topic calls)
    (key : LetterKey) : runs calls world key ≤ 1 + retryPolicy.maxRetries := by
  have once : (world.attempts.filter (runsFor calls world key)).Nodup :=
    sane.saves.once.filter _
  have few : (world.attempts.filter (runsFor calls world key)).toFinset.card ≤
      (Finset.range (1 + retryPolicy.maxRetries)).card := by
    apply Finset.card_le_card_of_injOn (countOf calls world)
    · intro caller member
      obtain ⟨ran, its⟩ := List.mem_filter.mp (List.mem_toFinset.mp member)
      obtain ⟨delivery, message, -, found, isFor, -, count⟩ := sane.run ran its
      have most := sane.log.counted message (List.mem_of_getElem? found) key
        isFor
      have bound := sane.log.bounded key
      exact Finset.mem_coe.mpr (Finset.mem_range.mpr (by omega))
    · intro first memberFirst second memberSecond same
      obtain ⟨ranFirst, itsFirst⟩ :=
        List.mem_filter.mp (List.mem_toFinset.mp memberFirst)
      obtain ⟨ranSecond, itsSecond⟩ :=
        List.mem_filter.mp (List.mem_toFinset.mp memberSecond)
      obtain ⟨a, messageA, isA, foundA, forA, groupA, countA⟩ :=
        sane.run ranFirst itsFirst
      obtain ⟨b, messageB, isB, foundB, forB, groupB, countB⟩ :=
        sane.run ranSecond itsSecond
      apply setup.deliveredOnce first second a b isA isB
        (groupA.trans groupB.symm)
      exact sane.log.distinct a.offset b.offset messageA messageB key foundA
        foundB forA forB (countA.symm.trans (same.trans countB))
  rw [List.toFinset_card_of_nodup once, Finset.card_range] at few
  rw [runs, List.countP_eq_length_filter]
  exact few

/-- In every run in which only handlers and retries fail, and each published
message is delivered once, the retries of every event for every group are
bounded and targeted.  The invariant above holds at the start, each step keeps
it, and the count in it is what the bound is about. -/
theorem retries_bounded_and_targeted (setup : Setup topic calls)
    {moves : List (Move Caller Choice WorldEvent)} {final : Backend}
    (undisturbed : backend.machine.Along Undisturbed (start clock topic calls)
      moves)
    (reached : backend.machine.run (start clock topic calls) moves =
      some final) : BoundedAndTargeted calls final := by
  have guarded : backend.machine.Along (contract calls).guard
      (start clock topic calls) moves := by
    apply undisturbed.mono
    intro state move meets
    cases move with
    | caller caller choice => exact meets
    | environment event => trivial
    | kill caller => exact meets
  have safe := sound.run stable_decided (start_safe setup) guarded reached
  have sane : Sane calls final.shared := safe.invariant
  constructor
  · exact sane.bounded setup
  · exact sane.saves.tried
  · exact sane.log.addressed
  · intro row member
    cases sane.rows.stage row member with
    | retried _ counts _ => exact .inl counts
    | deciding _ counts _ _ => exact .inl counts
    | waiting _ counts _ _ => exact .inl counts
    | publishing _ counts _ _ marked => exact .inr ⟨counts, counts ▸ marked⟩
    | discarded _ counts _ _ => exact .inl counts
  · intro row member status
    cases sane.rows.stage row member with
    | discarded _ _ arrived many => exact ⟨_, many, arrived⟩
    | retried other _ _ => cases status.symm.trans other
    | deciding other _ _ _ => cases status.symm.trans other
    | waiting other _ _ _ => cases status.symm.trans other
    | publishing other _ _ _ _ => cases status.symm.trans other
  · intro save saved many
    by_cases works : final.atWork save.caller
    · exact .inl works
    have decided : save.caller ∉ final.shared.owing := by
      cases runs : final.running save.caller with
      | none => exact safe.gone save.caller runs save.message saved
      | some coroutine =>
          cases ended : coroutine.result? with
          | none => exact absurd ⟨coroutine, runs, ended⟩ works
          | some result =>
              rw [Coroutine.result_eq_some ended] at runs
              exact safe.ended save.caller result runs save.message saved
    refine .inr ⟨sane.saves.row save saved, fun row member same => ?_⟩
    have count : save.message.retryCount = delivered final.shared row.key := by
      have most := sane.saves.count_le sane.log saved
      have bound := sane.log.bounded row.key
      rw [same] at bound ⊢
      omega
    cases sane.rows.stage row member with
    | discarded status _ _ _ => exact status
    | retried _ _ unseen => exact absurd ⟨save, saved, same.symm, count⟩ unseen
    | deciding _ _ _ owner =>
        obtain ⟨other, savedOther, owes, key, its⟩ := owner
        have caller := SaneSaves.sameCaller setup sane.log
          (sane.saves.delivery other savedOther)
          (sane.saves.delivery save saved) (key.trans same)
          (its.trans count.symm)
        exact absurd (caller ▸ owes) decided
    | waiting _ _ _ few => omega
    | publishing _ _ _ few _ => omega

end Runs

section Examples

/-- A failed execution that is announced. -/
def announcement : Message where
  event := .executionFailed
    { eventId := "v1"
      metadata :=
        { serviceName := "result-processor"
          serviceVersion := "1.0.0"
          userId := "u1" }
      executionId := "e1"
      errorType := .timeout }

/-- The notifications' group gets every message once, and the job runs. -/
def notifications : Caller → RetryCall
  | 0 => .monitor
  | offset + 1 =>
      .consume
        { router := .notificationRouter
          groupId := "notification-service"
          offset := offset }

private theorem notifications_setup : Setup [announcement] notifications := by
  have consumes : ∀ {caller delivery},
      notifications caller = .consume delivery →
        caller = delivery.offset + 1 ∧
          delivery.groupId = "notification-service" := by
    intro caller delivery is
    cases caller with
    | zero => cases is
    | succ offset =>
        cases is
        exact ⟨rfl, rfl⟩
  constructor
  · exact List.nodup_singleton _
  · intro message member
    rw [List.mem_singleton.mp member]
    rfl
  · intro message member
    rw [List.mem_singleton.mp member]
    rfl
  · intro first second a b isA isB _ same
    rw [(consumes isA).1, (consumes isB).1, same]
  · intro first second isFirst isSecond
    cases first with
    | zero =>
        cases second with
        | zero => rfl
        | succ offset => cases isSecond
    | succ offset => cases isFirst
  · intro caller delivery is
    rw [(consumes is).2]
    decide
  · intro message member caller delivery _
    rw [List.mem_singleton.mp member]
    right
    decide +kernel

/-- The handler fails, its event is retried a minute later, and the handler
goes through. -/
def failsOnce : List (Move Caller Choice WorldEvent) :=
  [.caller 1 {}, .caller 1 { outcome := .fails .pyMongoError }] ++
    List.replicate 7 (.caller 1 {}) ++ [.environment (.tick (seconds 60))] ++
    List.replicate 6 (.caller 0 {}) ++ List.replicate 3 (.caller 2 {})

/-- A check by evaluation that nothing fails but a handler. -/
def undisturbedCheck (state : Backend) : Move Caller Choice WorldEvent → Bool
  | .caller caller choice =>
      choice.outcome == .succeeds ||
        match state.awaited caller with
        | some .work => true
        | _ => false
  | .environment _ => true
  | .kill _ => false

private theorem undisturbed_of_check (state : Backend)
    (move : Move Caller Choice WorldEvent)
    (checked : undisturbedCheck state move = true) :
    Undisturbed state move := by
  cases move with
  | environment event => trivial
  | kill caller => cases checked
  | caller caller choice =>
      intro command awaits
      simp only [undisturbedCheck, awaits, Bool.or_eq_true, beq_iff_eq]
        at checked
      rcases checked with succeeds | works
      · unfold MayGo
        split
        · exact .inl succeeds
        · exact succeeds
        · trivial
      · split at works
        · next its => cases its; trivial
        · cases works

theorem retries_bounded_and_targeted_fails_once :
    ∃ final, backend.machine.run (start 0 [announcement] notifications)
        failsOnce = some final ∧
      final.shared.attempts = [2, 1] ∧
      delivered final.shared ⟨"v1", "notification-service"⟩ = 1 ∧
      BoundedAndTargeted notifications final := by
  have ends : (backend.machine.run (start 0 [announcement] notifications)
      failsOnce).map (fun final => (final.shared.attempts,
        delivered final.shared ⟨"v1", "notification-service"⟩)) =
      some ([2, 1], 1) := by decide +kernel
  obtain ⟨final, reached, shown⟩ := Option.map_eq_some_iff.mp ends
  simp only [Prod.mk.injEq] at shown
  exact ⟨final, reached, shown.1, shown.2,
    retries_bounded_and_targeted notifications_setup
      (backend.machine.along_of_check undisturbed_of_check
        (show backend.machine.checkAlong undisturbedCheck
          (start 0 [announcement] notifications) failsOnce = true by
            decide +kernel)) reached⟩

end Examples

end BoundedRetries

end Integr8s
