/-
Module: Integr8s.Services.ExecutionScheduler
Purpose: The scheduler that starts queued executions while the concurrency
  limit has room, and frees an execution's slots when it ends.
Trusted boundary: human-reviewed spec
Main exports: ExecutionScheduler.handleExecutionRequested,
  ExecutionScheduler.handleExecutionCancelled, ExecutionScheduler.finish,
  ExecutionScheduler.schedulePending
-/
import Integr8s.Services.ExecutionQueue
import Integr8s.Services.KubernetesWorker

namespace Integr8s

namespace ExecutionScheduler

open ExecutionQueueService (await)

variable (deployment : Deployment)

/-- The event of an execution whose pod could not be created. -/
def podFailure (event : ExecutionRequestedEvent) (eventId : EventId)
    (executionId : ExecutionId) (error : PyException) :
    ExecutionFailedEvent where
  eventId := eventId
  executionId := executionId
  aggregateId := event.aggregateId
  errorType := .systemError
  exitCode := -1
  stderr := "Failed to create pod: " ++ deployment.text error
  metadata := event.metadata

/-- Create the pod of a scheduled execution.  One whose pod can't be created
ends as failed, and its slots are freed. -/
def startPod (executionId : ExecutionId) (event : ExecutionRequestedEvent) :
    Program Unit :=
  (KubernetesWorker.createPod deployment.settings event).attempt
    fun error => do
      let eventId ← request .uuid
      ResultProcessor.handleExecutionFailed
        (podFailure deployment event eventId executionId error)
      ExecutionQueueService.release executionId
      ExecutionQueueService.releaseUserSlot executionId

/-- What the queue hands out: the execution and its request, nothing, or an
execution whose request is lost. -/
def nextScheduled (maxActive : Nat) :
    Program (Except ExecutionId
      (Option (ExecutionId × ExecutionRequestedEvent))) :=
  let schedule : Program (Except ExecutionId
      (Option (ExecutionId × ExecutionRequestedEvent))) := do
    let scheduled ← ExecutionQueueService.trySchedule maxActive
    pure (.ok scheduled)
  schedule.attempt fun error =>
    match error with
    | .queuedRequestLostError executionId => pure (.error executionId)
    | error => Coroutine.raise error

/-- One round of `schedule_pending`; false when nothing more can start. -/
def scheduleNext (maxActive : Nat) : Program Bool := do
  match ← nextScheduled maxActive with
  | .error executionId => do
      ResultProcessor.handleLostRequest executionId
      pure true
  | .ok none => pure false
  | .ok (some (executionId, event)) => do
      startPod deployment executionId event
      pure true

/-- Start queued executions while slots are free. -/
def schedulePending : Program Unit := do
  let settings ← request .effectiveSettings
  Coroutine.repeatWhile
    (scheduleNext deployment settings.maxConcurrentExecutions)
  let _ ← ExecutionQueueService.getQueueStatus
  pure ()

/-- Queue a new execution and start it if a slot is free. -/
def handleExecutionRequested (event : ExecutionRequestedEvent) :
    Program Unit := do
  let _ ← ExecutionQueueService.enqueue event
  schedulePending deployment

/-- Free an ended execution's slots, then start what the queue holds. -/
def finish (executionId : ExecutionId) : Program Unit := do
  ExecutionQueueService.release executionId
  ExecutionQueueService.releaseUserSlot executionId
  schedulePending deployment

/-- Take the execution out of the queue, store it as cancelled, delete its pod
and free its slots. -/
def handleExecutionCancelled (event : ExecutionCancelledEvent) :
    Program Unit := do
  let _ ← ExecutionQueueService.remove event.executionId
  ResultProcessor.handleExecutionCancelled event
  KubernetesWorker.deletePod event.executionId
  finish deployment event.executionId

end ExecutionScheduler

end Integr8s
