/-
Module: Integr8s.Infrastructure.World
Purpose: The stores and brokers around the backend's coroutines, the commands
  that the coroutines await, how a command may go, and what other writers do
  to the stores meanwhile.
Trusted boundary: human-reviewed spec
Main exports: World, Command, Reply, World.effect, Outcome, Choice,
  WorldEvent, backend, Program
-/
import Integr8s.Lib.RelyGuarantee
import Integr8s.Db.ExecutionRepository
import Integr8s.Lib.ExpiringStore
import Integr8s.Domain.Idempotency
import Integr8s.Domain.DeadLetters
import Integr8s.Domain.Settings
import Integr8s.Infrastructure.Cluster
import Integr8s.Infrastructure.QueueStore
import Mathlib.Data.Finset.Basic

namespace Integr8s

/-- One running call of a handler, a job or a request. -/
abbrev Caller := Nat

/-- A message in a topic, with the call that produced it. -/
structure Publication where
  caller : Caller
  event : DomainEvent
deriving DecidableEq, Repr

/-- A terminal write that modified its document. -/
structure TerminalWrite where
  caller : Caller
  result : ExecutionResultDomain
deriving DecidableEq, Repr

/-- The record under an idempotency key, with the call that wrote it. -/
structure HeldRecord where
  record : IdempotencyRecord
  writtenBy : Caller
deriving DecidableEq, Repr

/-- A call and an idempotency key. -/
structure KeyUse where
  caller : Caller
  key : String
deriving DecidableEq, Repr

/-- The record that a call last read, and when. -/
structure Sighting where
  held : HeldRecord
  seenAt : Nat
deriving DecidableEq, Repr

/-- A delivery that settled what becomes of its message, before the message is
acknowledged. -/
structure Settlement where
  caller : Caller
  offset : Nat
deriving DecidableEq, Repr

/-- A dead letter that a call saved. -/
structure SavedLetter where
  caller : Caller
  message : DLQMessageDocument
deriving DecidableEq, Repr

/-- The row that a call marked as retried, with the count it gave it. -/
structure RetryMark where
  eventId : EventId
  consumerGroup : String
  retryCount : Option Nat
deriving DecidableEq, Repr

/-- What the coroutines share, and what they did so far, which no command
reads: the terminal writes that modified their document, the calls that a check
of their key let through, the reservations that found their key taken, the
calls whose handler returned, what each call last read under its key and which
message it received, the calls that reserved a key and whose handler has not
ended, the calls whose handler raised or that saved a dead letter without
having scheduled or discarded it, the deliveries that have done so, the calls
that marked a dead letter as retried and have not published it, the row each
call last marked so, the saved dead letters, and the calls whose handler
ran. -/
structure World where
  clock : Nat := 0
  executions : Executions := fun _ => none
  storedEvents : List DomainEvent := []
  published : List Publication := []
  keys : ExpiringStore String HeldRecord := fun _ => none
  messages : List Message := []
  deadLetters : List DLQMessageDocument := []
  terminalWrites : List TerminalWrite := []
  admissions : List KeyUse := []
  beatenInserts : List KeyUse := []
  completions : List Caller := []
  sightings : Caller → Option Sighting := fun _ => none
  delivering : Caller → Option Nat := fun _ => none
  holding : Finset Caller := ∅
  owing : Finset Caller := ∅
  settling : List Settlement := []
  retrying : Finset Caller := ∅
  marking : Caller → Option RetryMark := fun _ => none
  saves : List SavedLetter := []
  attempts : List Caller := []
  queue : QueueStore := {}
  cluster : Cluster := {}

/-! ### Commands and how they go -/

/-- What the consumers and the dead letter queue await.  An acknowledgement
says whether the delivery was skipped as a duplicate. -/
inductive DeliveryCommand where
  | receive (offset : Nat)
  | acknowledge (offset : Nat) (duplicate : Bool)
  | saveMessage (message : DLQMessageDocument)
  | updateStatus (eventId : EventId) (consumerGroup : String)
      (changes : DLQMessageChanges)
  | findDueRetries (limit : Nat)
  | republish (message : Message)
  | notify (event : DLQEvent)

/-- What a coroutine awaits.  Overwriting a key sends only the new record; the
loaded one says what the caller means to overwrite.  `letThrough` marks the
point at which a check lets its caller through, and `work` stands for a handler
outside of this model. -/
inductive Command where
  | now
  | uuid
  | random
  | effectiveSettings
  | createExecution (doc : ExecutionDocument)
  | findExecution (executionId : ExecutionId)
  | writeTerminalResult (result : ExecutionResultDomain)
  | advanceStatus (executionId : ExecutionId) (status : ExecutionStatus)
  | updatePriority (executionId : ExecutionId) (priority : QueuePriority)
  | deleteExecution (executionId : ExecutionId)
  | memoryLimit (lang : String)
  | storeEvent (event : DomainEvent)
  | publish (event : DomainEvent)
  | findKey (key : String)
  | insertProcessing (record : IdempotencyRecord)
  | updateRecord (loaded record : IdempotencyRecord)
  | deleteKey (key : String)
  | letThrough (key : String)
  | work
  | delivery (command : DeliveryCommand)
  | queue (command : QueueCommand)
  | cluster (command : ClusterCommand)

abbrev DeliveryReply : DeliveryCommand → Type
  | .receive _ => Option Message
  | .acknowledge .. => Unit
  | .saveMessage _ => Unit
  | .updateStatus .. => Unit
  | .findDueRetries _ => List DLQMessageDocument
  | .republish _ => Unit
  | .notify _ => Unit

/-- What a command answers when it doesn't raise. -/
abbrev Reply : Command → Type
  | .now => Nat
  | .uuid => String
  | .random => Nat
  | .effectiveSettings => SystemSettings
  | .createExecution _ => Unit
  | .findExecution _ => Option ExecutionDocument
  | .writeTerminalResult _ => Bool
  | .advanceStatus .. => Bool
  | .updatePriority .. => Option ExecutionDocument
  | .deleteExecution _ => Unit
  | .memoryLimit _ => Unit
  | .storeEvent _ => Unit
  | .publish _ => Unit
  | .findKey _ => Option IdempotencyRecord
  | .insertProcessing _ => Unit
  | .updateRecord .. => Nat
  | .deleteKey _ => Nat
  | .letThrough _ => Unit
  | .work => Unit
  | .delivery command => DeliveryReply command
  | .queue command => QueueReply command
  | .cluster command => ClusterReply command

/-- Whether a command that goes wrong may raise this.  What only reads the
clock or makes up a value does not go wrong, and only an insert that finds its
key taken raises `DuplicateKeyError`. -/
def Command.mayRaise : Command → PyException → Bool
  | .now, _ | .uuid, _ | .random, _ | .letThrough _, _ => false
  | .insertProcessing _, error => error != .duplicateKeyError
  | .createExecution _, error => error != .duplicateKeyError
  | .cluster command, error => Cluster.mayRaise command error
  | _, _ => true

/-- Whether a command can take effect and lose its answer; the code of a
handler returns or raises. -/
def Command.mayLoseAnswer : Command → Bool
  | .work => false
  | _ => true

/-- How a command goes: it goes through, it raises without an effect, or it
takes effect and its answer is lost, so that it raises all the same. -/
inductive Outcome where
  | succeeds
  | fails (error : PyException)
  | unacknowledged (error : PyException)
deriving DecidableEq, Repr

/-- What the environment decides when a command runs. -/
structure Choice where
  outcome : Outcome := .succeeds
  fresh : String := ""
  random : Nat := 0
  settings : SystemSettings := {}
  file : Option String := none
  podLog : PyBytes := []
deriving DecidableEq, Repr

namespace World

/-- The conditional write of a terminal result, recorded when it modified the
document. -/
def writeTerminalResult (world : World) (caller : Caller)
    (result : ExecutionResultDomain) : Bool × World :=
  let (written, executions) :=
    Executions.writeTerminalResult world.executions result world.clock
  (written,
    { world with
      executions := executions
      terminalWrites :=
        if written then ⟨caller, result⟩ :: world.terminalWrites
        else world.terminalWrites })

/-- The world after a command read a key. -/
def noteSighting (world : World) (caller : Caller) (key : String) : World :=
  { world with
    sightings := Function.update world.sightings caller
      ((world.keys.get world.clock key).map (⟨·, world.clock⟩)) }

/-- The world after a call wrote a record; who writes a reservation holds
it. -/
def noteHolding (world : World) (caller : Caller)
    (record : IdempotencyRecord) : World :=
  { world with
    holding :=
      if record.status = .processing then insert caller world.holding
      else world.holding }

/-- The world after a record was written under a key. -/
def writeKey (world : World) (key : String) (held : HeldRecord)
    (expiresAt : Nat) : World :=
  { world.noteHolding held.writtenBy held.record with
    keys := Function.update world.keys key (some ⟨held, expiresAt⟩) }

/-- The world after a reservation found its key taken. -/
def noteBeaten (world : World) (caller : Caller) (key : String) : World :=
  { world with beatenInserts := ⟨caller, key⟩ :: world.beatenInserts }

/-- The world after a command deleted a key. -/
def dropKey (world : World) (key : String) : World :=
  { world with keys := Function.update world.keys key none }

/-- The world after a handler returned. -/
def noteReturn (world : World) (caller : Caller) : World :=
  { world with
    completions := caller :: world.completions
    attempts := caller :: world.attempts
    holding := world.holding.erase caller }

/-- The world after a handler raised. -/
def noteRaise (world : World) (caller : Caller) : World :=
  { world with
    attempts := caller :: world.attempts
    holding := world.holding.erase caller
    owing := insert caller world.owing }

/-- The world after a call forgot the record that it read. -/
def dropSighting (world : World) (caller : Caller) : World :=
  { world with sightings := Function.update world.sightings caller none }

/-- Save a row over the one of its event and consumer group, or add it. -/
def saveMessage (world : World) (caller : Caller)
    (message : DLQMessageDocument) : World :=
  let same := fun row : DLQMessageDocument =>
    row.isFor message.event.base.eventId message.consumerGroup
  { world with
    deadLetters :=
      if world.deadLetters.any same then
        world.deadLetters.map fun row => if same row then message else row
      else message :: world.deadLetters
    saves := ⟨caller, message⟩ :: world.saves
    owing := insert caller world.owing }

/-- The world after a call scheduled or discarded its dead letter: nothing
depends on it any more. -/
def noteSettled (world : World) (caller : Caller) : World :=
  { world with
    owing := world.owing.erase caller
    retrying := world.retrying.erase caller
    settling :=
      match world.delivering caller with
      | some offset => ⟨caller, offset⟩ :: world.settling
      | none => world.settling }

/-- Change the row of an event in a consumer group. -/
def changeRow (world : World) (eventId : EventId) (consumerGroup : String)
    (changes : DLQMessageChanges) : World :=
  { world with
    deadLetters := world.deadLetters.map fun row =>
      if row.isFor eventId consumerGroup then row.change changes world.clock
      else row }

/-- Saving a row replaces the one with its key. -/
theorem mem_saveMessage {world : World} {caller : Caller}
    {message row : DLQMessageDocument}
    (member : row ∈ (world.saveMessage caller message).deadLetters) :
    row = message ∨ row ∈ world.deadLetters ∧
      row.isFor message.event.base.eventId message.consumerGroup = false := by
  simp only [saveMessage] at member
  split at member
  · obtain ⟨old, present, same⟩ := List.mem_map.mp member
    split at same
    · exact .inl same.symm
    · next other => exact .inr (same ▸ ⟨present, by simpa using other⟩)
  · next none =>
      rcases List.mem_cons.mp member with is | present
      · exact .inl is
      · refine .inr ⟨present, ?_⟩
        simp only [Bool.not_eq_true, List.any_eq_false] at none
        simpa using none row present

/-- A row of the stores after a change is a changed one or another's. -/
theorem mem_changeRow {world : World} {eventId : EventId}
    {consumerGroup : String} {changes : DLQMessageChanges}
    {row : DLQMessageDocument}
    (member :
      row ∈ (world.changeRow eventId consumerGroup changes).deadLetters) :
    (∃ old ∈ world.deadLetters, old.isFor eventId consumerGroup = true ∧
      row = old.change changes world.clock) ∨
    row ∈ world.deadLetters ∧ row.isFor eventId consumerGroup = false := by
  obtain ⟨old, present, same⟩ := List.mem_map.mp member
  split at same
  · next its => exact .inl ⟨old, present, its, same.symm⟩
  · next other => exact .inr (same ▸ ⟨present, by simpa using other⟩)

/-- The world after a call marked a row as retried: it has to publish it. -/
def noteMark (world : World) (caller : Caller) (mark : RetryMark) : World :=
  { world with
    retrying := insert caller world.retrying
    marking := Function.update world.marking caller (some mark) }

/-- Change the status of a row. -/
def updateStatus (world : World) (caller : Caller) (eventId : EventId)
    (consumerGroup : String) (changes : DLQMessageChanges) : World :=
  let changed := world.changeRow eventId consumerGroup changes
  match changes.status with
  | .pending => changed
  | .retried =>
      changed.noteMark caller ⟨eventId, consumerGroup, changes.retryCount⟩
  | .scheduled | .discarded => changed.noteSettled caller

/-- A message that goes through the topic once more. -/
def republish (world : World) (caller : Caller) (message : Message) : World :=
  { world with
    messages := world.messages ++ [message]
    retrying := world.retrying.erase caller }

def acknowledge (world : World) (caller : Caller) (offset : Nat) : World :=
  { world.dropSighting caller with
    messages := world.messages.modify offset fun message =>
      { message with acknowledged := true } }

/-- A delivery command that goes through. -/
def effectDelivery (caller : Caller) (world : World) :
    (command : DeliveryCommand) → DeliveryReply command × World
  | .receive offset =>
      (world.messages[offset]?,
        { world with
          delivering := Function.update world.delivering caller
            (world.messages[offset]?.map fun _ => offset) })
  | .acknowledge offset _ => ((), world.acknowledge caller offset)
  | .saveMessage message => ((), world.saveMessage caller message)
  | .updateStatus eventId consumerGroup changes =>
      ((), world.updateStatus caller eventId consumerGroup changes)
  | .findDueRetries limit =>
      ((world.deadLetters.filter fun row => row.isDue world.clock).take limit,
        world)
  | .republish message => ((), world.republish caller message)
  | .notify _ => ((), world)

/-- A command that goes through: its answer, or the exception that is its
answer, and the world after it. -/
def effect (caller : Caller) (choice : Choice) (world : World) :
    (command : Command) → Except PyException (Reply command) × World
  | .now => (.ok world.clock, world)
  | .uuid => (.ok choice.fresh, world)
  | .random => (.ok choice.random, world)
  | .effectiveSettings => (.ok choice.settings, world)
  | .createExecution doc =>
      let (answer, executions) :=
        Executions.createExecution world.executions doc
      (answer, { world with executions := executions })
  | .findExecution executionId =>
      (.ok (Executions.getExecution world.executions executionId), world)
  | .writeTerminalResult result =>
      let (written, world) := world.writeTerminalResult caller result
      (.ok written, world)
  | .advanceStatus executionId status =>
      match Executions.advanceStatus world.executions executionId status
          world.clock with
      | .error error => (.error error, world)
      | .ok (advanced, executions) =>
          (.ok advanced, { world with executions := executions })
  | .updatePriority executionId priority =>
      let (doc, executions) := Executions.updatePriority world.executions
        executionId priority world.clock
      (.ok doc, { world with executions := executions })
  | .deleteExecution executionId =>
      (.ok (), { world with
        executions :=
          (Executions.deleteExecution world.executions executionId).2 })
  | .memoryLimit _ => (.ok (), world)
  | .storeEvent event =>
      (.ok (), { world with storedEvents := event :: world.storedEvents })
  | .publish event =>
      (.ok (), { world with published := ⟨caller, event⟩ :: world.published })
  | .findKey key =>
      (.ok ((world.keys.get world.clock key).map HeldRecord.record),
        world.noteSighting caller key)
  | .insertProcessing record =>
      let (inserted, keys) := world.keys.setIfAbsent world.clock record.key
        ⟨record, caller⟩ (seconds record.ttlSeconds)
      if inserted then
        (.ok (), { world.noteHolding caller record with keys := keys })
      else (.error .duplicateKeyError, world.noteBeaten caller record.key)
  | .updateRecord _ record =>
      let (written, keys) := world.keys.setIfPresent world.clock record.key
        ⟨record, caller⟩
      if written then
        (.ok 1, { world.noteHolding caller record with keys := keys })
      else (.ok 0, world)
  | .deleteKey key =>
      let (deleted, keys) := world.keys.delete world.clock key
      (.ok deleted, { world with keys := keys })
  | .letThrough key =>
      (.ok (), { world with admissions := ⟨caller, key⟩ :: world.admissions })
  | .work => (.ok (), world.noteReturn caller)
  | .delivery command =>
      let (answer, world) := world.effectDelivery caller command
      (.ok answer, world)
  | .queue command =>
      let (answer, queue) := world.queue.perform world.clock command
      (.ok answer, { world with queue := queue })
  | .cluster command =>
      let (answer, cluster) :=
        world.cluster.perform choice.file choice.podLog command
      (answer, { world with cluster := cluster })

/-- The world after a command failed.  A failed command has no effect; that a
handler failed, and that a delivery ended without its acknowledgement, is
recorded. -/
def failure (caller : Caller) (world : World) : Command → World
  | .work => world.noteRaise caller
  | .delivery (.acknowledge ..) => world.dropSighting caller
  | _ => world

/-- A failed command leaves the stores as they were. -/
theorem failure_eq (caller : Caller) (world : World) (command : Command) :
    ∃ holding owing attempts sightings, world.failure caller command =
      { world with
        holding := holding
        owing := owing
        attempts := attempts
        sightings := sightings } := by
  cases command with
  | work => exact ⟨_, _, _, _, rfl⟩
  | delivery command => cases command <;> exact ⟨_, _, _, _, rfl⟩
  | _ => exact ⟨_, _, _, _, rfl⟩

/-! ### Effects of single commands -/

section Effects

variable {caller : Caller} {choice : Choice} {world : World}
  {record : IdempotencyRecord}

theorem effect_writeTerminalResult (result : ExecutionResultDomain) :
    world.effect caller choice (.writeTerminalResult result) =
      (.ok (world.writeTerminalResult caller result).1,
        (world.writeTerminalResult caller result).2) :=
  rfl

theorem effect_insertProcessing_free
    (free : world.keys.live world.clock record.key = none) :
    world.effect caller choice (.insertProcessing record) =
      (.ok (), world.writeKey record.key ⟨record, caller⟩
        (world.clock + seconds record.ttlSeconds)) := by
  simp [effect, ExpiringStore.setIfAbsent, free, writeKey]

theorem effect_insertProcessing_taken {entry : Expiring HeldRecord}
    (taken : world.keys.live world.clock record.key = some entry) :
    world.effect caller choice (.insertProcessing record) =
      (.error .duplicateKeyError, world.noteBeaten caller record.key) := by
  simp [effect, ExpiringStore.setIfAbsent, taken]

theorem effect_updateRecord_found {entry : Expiring HeldRecord}
    (found : world.keys.live world.clock record.key = some entry)
    (loaded : IdempotencyRecord) :
    world.effect caller choice (.updateRecord loaded record) =
      (.ok 1, world.writeKey record.key ⟨record, caller⟩
        entry.expiresAt) := by
  simp [effect, ExpiringStore.setIfPresent, found, writeKey]

theorem effect_updateRecord_missing
    (missing : world.keys.live world.clock record.key = none)
    (loaded : IdempotencyRecord) :
    world.effect caller choice (.updateRecord loaded record) =
      (.ok 0, world) := by
  simp [effect, ExpiringStore.setIfPresent, missing]

/-- A handler that returned is never taken back. -/
theorem effect_completions {command : Command}
    (completed : world.completions ≠ []) :
    (world.effect caller choice command).2.completions ≠ [] := by
  cases command with
  | work => simp [effect, noteReturn]
  | advanceStatus executionId status =>
      simp only [effect]
      split <;> exact completed
  | insertProcessing record =>
      cases found : world.keys.live world.clock record.key with
      | none =>
          rw [effect_insertProcessing_free found]
          exact completed
      | some entry =>
          rw [effect_insertProcessing_taken found]
          exact completed
  | updateRecord loaded record =>
      cases found : world.keys.live world.clock record.key with
      | none =>
          rw [effect_updateRecord_missing found]
          exact completed
      | some entry =>
          rw [effect_updateRecord_found found]
          exact completed
  | delivery command =>
      cases command with
      | updateStatus eventId consumerGroup changes =>
          simp only [effect, effectDelivery, updateStatus]
          split <;> exact completed
      | _ => exact completed
  | _ => exact completed

/-- Only the queue's commands touch the queue's keys, and none moves the
clock. -/
theorem effect_queue (command : Command) :
    (world.effect caller choice command).2.clock = world.clock ∧
      ((world.effect caller choice command).2.queue = world.queue ∨
        ∃ queueCommand, command = .queue queueCommand ∧
          (world.effect caller choice command).2.queue =
            (world.queue.perform world.clock queueCommand).2) := by
  cases command with
  | queue queueCommand => exact ⟨rfl, .inr ⟨queueCommand, rfl, rfl⟩⟩
  | advanceStatus executionId status =>
      simp only [effect]
      split <;> exact ⟨rfl, .inl rfl⟩
  | insertProcessing record =>
      cases found : world.keys.live world.clock record.key with
      | none =>
          rw [effect_insertProcessing_free found]
          exact ⟨rfl, .inl rfl⟩
      | some entry =>
          rw [effect_insertProcessing_taken found]
          exact ⟨rfl, .inl rfl⟩
  | updateRecord loaded record =>
      cases found : world.keys.live world.clock record.key with
      | none =>
          rw [effect_updateRecord_missing found]
          exact ⟨rfl, .inl rfl⟩
      | some entry =>
          rw [effect_updateRecord_found found]
          exact ⟨rfl, .inl rfl⟩
  | delivery command =>
      cases command with
      | updateStatus eventId consumerGroup changes =>
          simp only [effect, effectDelivery, updateStatus]
          split <;> exact ⟨rfl, .inl rfl⟩
      | _ => exact ⟨rfl, .inl rfl⟩
  | _ => exact ⟨rfl, .inl rfl⟩

end Effects

end World

/-! ### What other writers do -/

/-- What happens without a coroutine of this model: time passes, the API
writes a failed submission's error or the admin's priority, pods report
progress, and records are deleted. -/
inductive WorldEvent where
  | tick (duration : Nat)
  | updateExecutionError (executionId : ExecutionId) (errorMessage : String)
  | advanceStatus (executionId : ExecutionId) (status : ExecutionStatus)
  | updatePriority (executionId : ExecutionId) (priority : QueuePriority)
  | deleteExecution (executionId : ExecutionId)
deriving DecidableEq, Repr

/-- The result that the API stores for a submission that failed. -/
def executionErrorResult (executionId : ExecutionId) (errorMessage : String) :
    ExecutionResultDomain where
  executionId := executionId
  status := .error
  exitCode := some (-1)
  stdout := some ""
  stderr := some errorMessage

namespace World

/-- What becomes of a command: it goes through, fails, or takes effect without
its answer. -/
def perform (caller : Caller) (world : World) (command : Command)
    (choice : Choice) :
    Option (Except PyException (Reply command) × World) :=
  match choice.outcome with
  | .succeeds => some (world.effect caller choice command)
  | .fails error =>
      if command.mayRaise error then
        some (.error error, world.failure caller command)
      else none
  | .unacknowledged error =>
      if command.mayRaise error ∧ command.mayLoseAnswer then
        some (.error error, (world.effect caller choice command).2)
      else none

section Performed

variable {caller : Caller} {world next : World} {command : Command}
  {choice : Choice} {reply : Except PyException (Reply command)}

/-- The three ways in which a command can go. -/
theorem perform_cases
    (performed : world.perform caller command choice = some (reply, next)) :
    (choice.outcome = .succeeds ∧
      world.effect caller choice command = (reply, next)) ∨
    ∃ error, reply = .error error ∧ command.mayRaise error = true ∧
      (choice.outcome = .fails error ∧
          next = world.failure caller command ∨
        choice.outcome = .unacknowledged error ∧
          command.mayLoseAnswer = true ∧
          next = (world.effect caller choice command).2) := by
  unfold perform at performed
  cases outcome : choice.outcome with
  | succeeds =>
      simp only [outcome, Option.some.injEq] at performed
      exact .inl ⟨rfl, performed⟩
  | fails error =>
      simp only [outcome, Option.ite_none_right_eq_some, Option.some.injEq,
        Prod.mk.injEq] at performed
      obtain ⟨may, sameReply, sameWorld⟩ := performed
      exact .inr ⟨error, sameReply.symm, may, .inl ⟨rfl, sameWorld.symm⟩⟩
  | unacknowledged error =>
      simp only [outcome, Option.ite_none_right_eq_some, Option.some.injEq,
        Prod.mk.injEq] at performed
      obtain ⟨⟨may, loses⟩, sameReply, sameWorld⟩ := performed
      exact .inr ⟨error, sameReply.symm, may,
        .inr ⟨rfl, loses, sameWorld.symm⟩⟩

/-- What holds of the world after a command that went through and of the world
after one that failed holds however the command goes. -/
theorem perform_world {holds : World → Prop}
    (performed : world.perform caller command choice = some (reply, next))
    (effects : holds (world.effect caller choice command).2)
    (failures : holds (world.failure caller command)) : holds next := by
  rcases perform_cases performed with
    ⟨-, went⟩ | ⟨error, -, -, ⟨-, rfl⟩ | ⟨-, -, rfl⟩⟩
  · rw [went] at effects
    exact effects
  · exact failures
  · exact effects

/-- What becomes of the queue's keys and of the clock, however a command
goes. -/
theorem perform_queue
    (performed : world.perform caller command choice = some (reply, next)) :
    next.clock = world.clock ∧
      (next.queue = world.queue ∨
        ∃ queueCommand, command = .queue queueCommand ∧
          next.queue = (world.queue.perform world.clock queueCommand).2) := by
  apply perform_world performed (effect_queue command)
  obtain ⟨holding, owing, attempts, sightings, same⟩ :=
    failure_eq caller world command
  rw [same]
  exact ⟨rfl, .inl rfl⟩

/-- The answer of a queue command that doesn't raise, and what it did. -/
theorem perform_queue_ok {queueCommand : QueueCommand}
    {answer : QueueReply queueCommand}
    (performed : world.perform caller (.queue queueCommand) choice =
      some (.ok answer, next)) :
    (world.queue.perform world.clock queueCommand).1 = answer ∧
      next = { world with
        queue := (world.queue.perform world.clock queueCommand).2 } := by
  rcases perform_cases performed with ⟨-, went⟩ | ⟨error, raised, -, -⟩
  · cases went
    exact ⟨rfl, rfl⟩
  · cases raised

end Performed

/-- A repository call by a writer outside of this model. -/
def applyCall (world : World) (call : RepositoryCall) : World :=
  { world with executions := (call.perform world.executions).2 }

def happen (world : World) : WorldEvent → Option World
  | .tick duration => some { world with clock := world.clock + duration }
  | .updateExecutionError executionId errorMessage =>
      some (world.applyCall (.writeTerminalResult
        (executionErrorResult executionId errorMessage) world.clock))
  | .advanceStatus executionId status =>
      some (world.applyCall (.advanceStatus executionId status world.clock))
  | .updatePriority executionId priority =>
      some (world.applyCall
        (.updatePriority executionId priority world.clock))
  | .deleteExecution executionId =>
      some { world with
        executions :=
          (Executions.deleteExecution world.executions executionId).2 }

/-- The environment lets time pass or touches the executions. -/
theorem happen_cases {world next : World} {event : WorldEvent}
    (happened : world.happen event = some next) :
    (∃ duration, event = .tick duration ∧
      next = { world with clock := world.clock + duration }) ∨
    ∃ executions, next = { world with executions := executions } := by
  cases event with
  | tick duration =>
      cases happened
      exact .inl ⟨duration, rfl, rfl⟩
  | _ =>
      cases happened
      exact .inr ⟨_, rfl⟩

end World

/-- A killed call is no longer in charge of anything. -/
def World.depart (world : World) (caller : Caller) : World :=
  { world.dropSighting caller with
    holding := world.holding.erase caller
    owing := world.owing.erase caller
    retrying := world.retrying.erase caller
    settling := world.settling.filter fun settled =>
      decide (settled.caller ≠ caller) }

/-- The backend: any number of calls over one world.  A killed call leaves
the stores as they are. -/
def backend : System Caller World Command Reply PyException Choice WorldEvent
    where
  perform := World.perform
  environment := World.happen
  kill world caller := some (world.depart caller)

/-- A coroutine of the backend. -/
abbrev Program (α : Type) : Type 1 := Coroutine Command Reply PyException α

/-- Await a command. -/
abbrev request (command : Command) : Program (Reply command) :=
  Coroutine.call command

/-- The state of a run: the world and the calls that still live. -/
abbrev Backend := Callers Caller World Command Reply PyException Unit

/-- A step of the backend changes the queue's keys only by a command of the
queue that some caller awaited. -/
theorem Backend.step_queue {state next : Backend}
    {move : Move Caller Choice WorldEvent}
    (stepped : backend.machine.step state move = some next) :
    next.shared.queue = state.shared.queue ∨
      ∃ caller choice queueCommand, move = .caller caller choice ∧
        state.awaited caller = some (.queue queueCommand) ∧
        next.shared.queue = (state.shared.queue.perform state.shared.clock
          queueCommand).2 := by
  cases move with
  | caller caller choice =>
      obtain ⟨coroutine, runs, moved⟩ := Option.bind_eq_some_iff.mp stepped
      obtain ⟨⟨shared, rest⟩, advanced, rfl⟩ := Option.map_eq_some_iff.mp moved
      cases coroutine with
      | done result => cases advanced
      | await command resume =>
          obtain ⟨⟨reply, after⟩, performed, same⟩ :=
            Option.map_eq_some_iff.mp advanced
          cases same
          rcases (World.perform_queue performed).2 with
            kept | ⟨queueCommand, rfl, changed⟩
          · exact .inl kept
          · exact .inr ⟨caller, choice, queueCommand, rfl,
              by simp [Callers.awaited, runs], changed⟩
      | loop body resume =>
          cases advanced
          exact .inl rfl
  | environment event =>
      obtain ⟨shared, happened, rfl⟩ := Option.map_eq_some_iff.mp stepped
      rcases World.happen_cases happened with
        ⟨duration, -, rfl⟩ | ⟨executions, rfl⟩ <;> exact .inl rfl
  | kill caller =>
      obtain ⟨coroutine, -, killed⟩ := Option.bind_eq_some_iff.mp stepped
      obtain ⟨shared, happened, rfl⟩ := Option.map_eq_some_iff.mp killed
      cases happened
      exact .inl rfl

end Integr8s
