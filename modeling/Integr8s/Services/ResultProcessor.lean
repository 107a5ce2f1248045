/-
Module: Integr8s.Services.ResultProcessor
Purpose: The producer that stores and publishes events, and the result
  processor that stores an execution's end and announces it.
Trusted boundary: human-reviewed spec
Main exports: produce, produceOrLog, ResultProcessor.store,
  ResultProcessor.handleExecutionCompleted,
  ResultProcessor.handleExecutionFailed, ResultProcessor.handleLostRequest,
  ResultProcessor.handleExecutionTimeout,
  ResultProcessor.handleExecutionCancelled, Ending, Ending.handle
-/
import Integr8s.Infrastructure.World

namespace Integr8s

/-- Store the event, then publish it; an error of either goes to the
caller. -/
def produce (event : DomainEvent) : Program Unit := do
  let _ ← request (.storeEvent event)
  let _ ← request (.publish event)
  pure ()

/-- Store the event, then publish it, logging a Kafka error instead of raising
it. -/
def produceOrLog (event : DomainEvent) : Program Unit :=
  (produce event).attempt fun error =>
    if error.isPublishError then pure () else Coroutine.raise error

namespace ResultProcessor

/-- The result of a completed execution. -/
def completedResult (event : ExecutionCompletedEvent) :
    ExecutionResultDomain where
  executionId := event.executionId
  exitCode := some event.exitCode
  stdout := some event.stdout
  stderr := some event.stderr
  resourceUsage := some event.resourceUsage
  status := .completed

/-- The result of a failed execution. -/
def failedResult (event : ExecutionFailedEvent) :
    ExecutionResultDomain where
  executionId := event.executionId
  exitCode := some event.exitCode
  stdout := some event.stdout
  stderr := some event.stderr
  resourceUsage := event.resourceUsage
  errorType := some event.errorType
  status := .failed

/-- The result of a timed-out execution. -/
def timeoutResult (event : ExecutionTimeoutEvent) :
    ExecutionResultDomain where
  executionId := event.executionId
  exitCode := some (-1)
  stdout := some event.stdout
  stderr := some event.stderr
  resourceUsage := some event.resourceUsage
  errorType := some .timeout
  status := .timeout

/-- The result of a cancelled execution. -/
def cancelledResult (event : ExecutionCancelledEvent) :
    ExecutionResultDomain where
  executionId := event.executionId
  exitCode := none
  stdout := none
  stderr := none
  status := .cancelled

/-- `len(text or "")`. -/
def textLength (text : Option String) : Nat :=
  (text.getD "").length

/-- Publish the result stored event. -/
def publishResultStored (executionId : ExecutionId) (sizeBytes : Nat)
    (userId : UserId) (aggregateId : Option String) : Program Unit := do
  let eventId ← request .uuid
  produceOrLog (.resultStored
    { eventId := eventId
      aggregateId := aggregateId
      executionId := executionId
      storagePath := executionId
      sizeBytes := sizeBytes
      storageType := some .database
      metadata :=
        { serviceName := "result-processor"
          serviceVersion := "1.0.0"
          userId := userId } })

/-- Publish the result processing failed event. -/
def publishResultFailed (executionId : ExecutionId) (userId : UserId)
    (aggregateId : Option String) : Program Unit := do
  let eventId ← request .uuid
  produce (.resultFailed
    { eventId := eventId
      aggregateId := aggregateId
      executionId := executionId
      metadata :=
        { serviceName := "result-processor"
          serviceVersion := "1.0.0"
          userId := userId } })

/-- Publish the events to announce, one after the other. -/
def announceAll : List DomainEvent → Program Unit
  | [] => pure ()
  | event :: events => do
      produceOrLog event
      announceAll events

/-- Write the terminal result, then publish the events to announce and
`result_stored`.  Nothing is published when the execution already ended
another way. -/
def store (result : ExecutionResultDomain) (metadata : EventMetadata)
    (aggregateId : Option String) (announce : List DomainEvent) :
    Program Unit := do
  let write : Program (Option Bool) := do
    let written ← request (.writeTerminalResult result)
    pure (some written)
  let written ← write.attempt fun error =>
    if error.isPyMongoError then do
      publishResultFailed result.executionId metadata.userId aggregateId
      pure none
    else Coroutine.raise error
  match written with
  | none => pure ()
  | some false => pure ()
  | some true => do
      announceAll announce
      publishResultStored result.executionId
        (textLength result.stdout + textLength result.stderr)
        metadata.userId aggregateId

/-- Move the stored status forward when the pod is scheduled or starts
running. -/
def handlePodProgress (executionId : ExecutionId) (status : ExecutionStatus) :
    Program Unit := do
  let _ ← request (.advanceStatus executionId status)
  pure ()

/-- Go on with the stored execution; one that was deleted is only logged. -/
def withExecution (executionId : ExecutionId)
    (handle : ExecutionDocument → Program Unit) : Program Unit := do
  match ← request (.findExecution executionId) with
  | none => pure ()
  | some execObj => handle execObj

def handleExecutionCompleted (event : ExecutionCompletedEvent) :
    Program Unit :=
  withExecution event.executionId fun execObj => do
    -- The span attributes need the language's memory limit as a number
    let _ ← request (.memoryLimit execObj.lang)
    store (completedResult event) event.metadata event.aggregateId
      [.executionCompleted event]

def handleExecutionFailed (event : ExecutionFailedEvent) : Program Unit :=
  withExecution event.executionId fun _ =>
    store (failedResult event) event.metadata event.aggregateId
      [.executionFailed event]

/-- Fail an execution whose queued request expired before a slot freed up. -/
def handleLostRequest (executionId : ExecutionId) : Program Unit :=
  withExecution executionId fun execObj => do
    let eventId ← request .uuid
    handleExecutionFailed
      { eventId := eventId
        executionId := executionId
        aggregateId := some executionId
        errorType := .systemError
        exitCode := -1
        stderr := "The execution waited in the queue until its request " ++
          "expired. Run it again."
        metadata :=
          { serviceName := "execution-scheduler"
            serviceVersion := "1.0.0"
            userId := execObj.userId.getD "" } }

def handleExecutionTimeout (event : ExecutionTimeoutEvent) : Program Unit :=
  withExecution event.executionId fun _ =>
    store (timeoutResult event) event.metadata event.aggregateId
      [.executionTimeout event]

/-- The API already published the cancel event, so there is nothing to
announce but the stored result. -/
def handleExecutionCancelled (event : ExecutionCancelledEvent) :
    Program Unit :=
  withExecution event.executionId fun _ =>
    store (cancelledResult event) event.metadata event.aggregateId []

end ResultProcessor

/-- One call that ends an execution. -/
inductive Ending where
  | completed (event : ExecutionCompletedEvent)
  | failed (event : ExecutionFailedEvent)
  | timeout (event : ExecutionTimeoutEvent)
  | cancelled (event : ExecutionCancelledEvent)
  | lostRequest (executionId : ExecutionId)
deriving DecidableEq, Repr

def Ending.handle : Ending → Program Unit
  | completed event => ResultProcessor.handleExecutionCompleted event
  | failed event => ResultProcessor.handleExecutionFailed event
  | timeout event => ResultProcessor.handleExecutionTimeout event
  | cancelled event => ResultProcessor.handleExecutionCancelled event
  | lostRequest executionId => ResultProcessor.handleLostRequest executionId

end Integr8s
