/-
Module: Integr8s.Services.Executions
Purpose: The services behind the API's routes for executions: submit a script,
  also under an idempotency key, delete one, and change a priority.
Trusted boundary: human-reviewed spec
Main exports: ExecutionService.executeScript,
  ExecutionService.deleteExecution, AdminExecutionService.updatePriority
-/
import Integr8s.Services.ExecutionQueue
import Integr8s.Services.KubernetesWorker

namespace Integr8s

/-- What a user submits. -/
structure Submission where
  script : String
  userId : UserId
  lang : String := "python"
  langVersion : String := "3.14"
  priority : QueuePriority := .normal
deriving DecidableEq, Repr

namespace ExecutionService

/-- The longest script that an execution document takes. -/
def maxScriptLength : Nat := 50000

/-- The document of a new execution. -/
def newExecution (submission : Submission) (executionId : ExecutionId)
    (now : Nat) : ExecutionDocument where
  executionId := executionId
  script := submission.script
  lang := submission.lang
  langVersion := submission.langVersion
  userId := some submission.userId
  createdAt := now
  updatedAt := now

def createEventMetadata (userId : UserId) : EventMetadata where
  serviceName := "execution-service"
  serviceVersion := "2.0.0"
  userId := userId

/-- The request event of a new execution, with admin-configurable limits. -/
def requestedEvent (settings : Settings) (submission : Submission)
    (runtimeCfg : RuntimeConfig) (effective : SystemSettings)
    (executionId : ExecutionId) (eventId : EventId) :
    ExecutionRequestedEvent where
  eventId := eventId
  aggregateId := some executionId
  metadata := createEventMetadata submission.userId
  executionId := executionId
  script := submission.script
  language := submission.lang
  languageVersion := submission.langVersion
  runtimeImage := runtimeCfg.image
  runtimeCommand := runtimeCfg.command
  runtimeFilename := runtimeCfg.fileName
  timeoutSeconds := effective.maxTimeoutSeconds
  cpuLimit := effective.cpuLimit
  memoryLimit := effective.memoryLimit
  cpuRequest := settings.k8sPodCpuRequest
  memoryRequest := settings.k8sPodMemoryRequest
  priority := submission.priority

/-- Store the error of a submission that failed. -/
def updateExecutionError (executionId : ExecutionId) (errorMessage : String) :
    Program Unit := do
  let _ ← request (.writeTerminalResult
    (executionErrorResult executionId errorMessage))
  pure ()

/-- Store a new execution; when that fails its user slot is released. -/
def createExecution (doc : ExecutionDocument) : Program Unit :=
  (request (.createExecution doc)).attempt fun error => do
    ExecutionQueueService.releaseUserSlot doc.executionId
    Coroutine.raise error

/-- Publish the request of a new execution; when that fails its user slot is
released and the execution ends with an error. -/
def submit (deployment : Deployment) (event : ExecutionRequestedEvent) :
    Program Unit :=
  (produce (.executionRequested event)).attempt fun error => do
    ExecutionQueueService.releaseUserSlot event.executionId
    updateExecutionError event.executionId
      ("Failed to submit execution: " ++ deployment.text error)
    Coroutine.raise .infrastructureError

/-- Execute a script by creating an execution record and publishing an
event. -/
def executeScript (deployment : Deployment) (submission : Submission) :
    Program ExecutionDocument := do
  match runtimeRegistry submission.lang submission.langVersion with
  | none =>
      Coroutine.raise
        (.runtimeNotSupportedError submission.lang submission.langVersion)
  | some runtimeCfg => do
      let effective ← request .effectiveSettings
      if maxScriptLength < submission.script.length then
        Coroutine.raise .validationError
      else do
        let executionId ← request .uuid
        let now ← request .now
        let createdExecution := newExecution submission executionId now
        let limit := effective.maxExecutionsPerUser
        let reserved ← ExecutionQueueService.reserveUserSlot
          submission.userId executionId limit
        if !reserved then Coroutine.raise (.executionLimitExceededError limit)
        else do
          createExecution createdExecution
          let eventId ← request .uuid
          submit deployment (requestedEvent deployment.settings submission
            runtimeCfg effective executionId eventId)
          pure createdExecution

/-- The repository's deletion: look the document up, then delete it; false when
there is none. -/
def deleteDocument (executionId : ExecutionId) : Program Bool := do
  match ← request (.findExecution executionId) with
  | none => pure false
  | some _ => do
      let _ ← request (.deleteExecution executionId)
      pure true

/-- The cancel event of a deleted execution; there is no event type for
deletions. -/
def deletionEvent (executionId : ExecutionId) (userId : UserId)
    (eventId : EventId) : ExecutionCancelledEvent where
  eventId := eventId
  aggregateId := some executionId
  metadata := createEventMetadata userId
  executionId := executionId
  cancelledBy := userId

/-- Publish cancellation event for a deleted execution. -/
def publishDeletionEvent (executionId : ExecutionId) (userId : UserId) :
    Program Unit := do
  let eventId ← request .uuid
  produce (.executionCancelled (deletionEvent executionId userId eventId))

/-- Delete an execution and publish deletion event. -/
def deleteExecution (executionId : ExecutionId) (userId : UserId) :
    Program Bool := do
  let deleted ← deleteDocument executionId
  if !deleted then Coroutine.raise (.executionNotFoundError executionId)
  else do
    publishDeletionEvent executionId userId
    pure true

end ExecutionService

namespace AdminExecutionService

/-- Change the priority of an execution, stored and queued. -/
def updatePriority (executionId : ExecutionId) (newPriority : QueuePriority) :
    Program ExecutionDocument := do
  match ← request (.updatePriority executionId newPriority) with
  | none => Coroutine.raise (.executionNotFoundError executionId)
  | some updated => do
      let _ ← ExecutionQueueService.updatePriority executionId newPriority
      pure updated

end AdminExecutionService

end Integr8s
