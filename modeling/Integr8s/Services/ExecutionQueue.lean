/-
Module: Integr8s.Services.ExecutionQueue
Purpose: The queue service: reserve and release user slots, enqueue, hand out
  the next execution with a running slot, release, move between priorities and
  remove.
Trusted boundary: human-reviewed spec
Main exports: ExecutionQueueService.reserveUserSlot,
  ExecutionQueueService.releaseUserSlot, ExecutionQueueService.enqueue,
  ExecutionQueueService.trySchedule, ExecutionQueueService.release,
  ExecutionQueueService.updatePriority, ExecutionQueueService.remove,
  QueueCall, QueueCall.run
-/
import Integr8s.Domain.Runtimes
import Integr8s.Infrastructure.World

namespace Integr8s

namespace ExecutionQueueService

/-- Await a command on the queue's keys. -/
abbrev await (command : QueueCommand) : Program (QueueReply command) :=
  request (.queue command)

/-- Count an execution against its user's limit; false when the user already
has as many in flight. -/
def reserveUserSlot (userId : UserId) (executionId : ExecutionId)
    (limit : Nat) : Program Bool := do
  let now ← request .now
  await (.reserveUserSlot userId executionId now limit)

/-- An error of the store is only logged: the slot expires on its own. -/
def releaseUserSlot (executionId : ExecutionId) : Program Unit :=
  let release : Program Unit := do
    match ← await (.owner executionId) with
    | none => pure ()
    | some userId => await (.dropUserSlot userId executionId)
  release.attempt fun error =>
    if error = .redisError then pure () else Coroutine.raise error

def enqueue (event : ExecutionRequestedEvent) : Program Nat := do
  let score ← request .now
  let _ ← await (.enqueue event score)
  let rank ← await (.rank event.priority event.executionId)
  pure (rank.getD 0)

/-- How long the running slot of an event's execution lasts, in seconds. -/
def slotSeconds (event : ExecutionRequestedEvent) : Nat :=
  ((podRuntimeConfig event.language).timeoutFor event.timeoutSeconds).toNat +
    slotGraceSeconds

/-- Move the next pending execution into a running slot that expires shortly
after its pod deadline.  An execution whose stored request expired loses its
slots. -/
def trySchedule (maxActive : Nat) :
    Program (Option (ExecutionId × ExecutionRequestedEvent)) := do
  let now ← request .now
  match ← await (.trySchedule maxActive now
      (now + seconds provisionalSlotSeconds)) with
  | none => pure none
  | some (executionId, _, _) => do
      match ← await (.event executionId) with
      | none => do
          let _ ← await (.dropRunning executionId)
          releaseUserSlot executionId
          Coroutine.raise (.queuedRequestLostError executionId)
      | some event => do
          let scheduledAt ← request .now
          let _ ← await (.moveDeadlines executionId event.metadata.userId
            (scheduledAt + seconds (slotSeconds event)))
          pure (some (executionId, event))

def release (executionId : ExecutionId) : Program Unit :=
  await (.release executionId)

def updatePriority (executionId : ExecutionId) (newPriority : QueuePriority) :
    Program Bool :=
  await (.updatePriority executionId newPriority)

def remove (executionId : ExecutionId) : Program Bool :=
  await (.remove executionId)

def getQueueStatus : Program (Nat × Nat) := do
  let now ← request .now
  await (.status now)

end ExecutionQueueService

/-- One call of the queue service. -/
inductive QueueCall where
  | reserveUserSlot (userId : UserId) (executionId : ExecutionId)
      (limit : Nat)
  | releaseUserSlot (executionId : ExecutionId)
  | enqueue (event : ExecutionRequestedEvent)
  | trySchedule (maxActive : Nat)
  | release (executionId : ExecutionId)
  | updatePriority (executionId : ExecutionId) (newPriority : QueuePriority)
  | remove (executionId : ExecutionId)
  | getQueueStatus

/-- Run a call for its effect. -/
def QueueCall.run : QueueCall → Program Unit
  | reserveUserSlot userId executionId limit => do
      let _ ← ExecutionQueueService.reserveUserSlot userId executionId limit
      pure ()
  | releaseUserSlot executionId =>
      ExecutionQueueService.releaseUserSlot executionId
  | enqueue event => do
      let _ ← ExecutionQueueService.enqueue event
      pure ()
  | trySchedule maxActive => do
      let _ ← ExecutionQueueService.trySchedule maxActive
      pure ()
  | release executionId => ExecutionQueueService.release executionId
  | updatePriority executionId newPriority => do
      let _ ← ExecutionQueueService.updatePriority executionId newPriority
      pure ()
  | remove executionId => do
      let _ ← ExecutionQueueService.remove executionId
      pure ()
  | getQueueStatus => do
      let _ ← ExecutionQueueService.getQueueStatus
      pure ()

end Integr8s
