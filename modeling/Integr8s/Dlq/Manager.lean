/-
Module: Integr8s.Dlq.Manager
Purpose: The dead letter queue: save a failed event and decide when it is
  retried, and republish the rows that are due.
Trusted boundary: human-reviewed spec
Main exports: DLQManager.handleMessage, DLQManager.retryMessage,
  DLQManager.discardMessage, DLQManager.processDueRetries
-/
import Integr8s.Infrastructure.World

namespace Integr8s

namespace DLQManager

/-- Change the status of a message's row. -/
def updateStatus (message : DLQMessageDocument) (changes : DLQMessageChanges) :
    Program Unit :=
  request (.delivery (.updateStatus message.event.base.eventId
    message.consumerGroup changes))

/-- Publish a lifecycle event of the queue. -/
def notify (event : DLQEvent) : Program Unit :=
  request (.delivery (.notify event))

def filterTestEvents (message : DLQMessageDocument) : Bool :=
  !message.event.base.eventId.startsWith "test-"

def filterOldMessages (message : DLQMessageDocument) (now : Nat) : Bool :=
  decide (now - message.failedAt < seconds (7 * 24 * 3600))

/-- The filters of an environment: only the test environment keeps the events
of tests. -/
def passesFilters (testEnvironment : Bool) (message : DLQMessageDocument)
    (now : Nat) : Bool :=
  (testEnvironment || filterTestEvents message) &&
    filterOldMessages message now

/-- Discard a message, updating its status and emitting an event. -/
def discardMessage (message : DLQMessageDocument) (reason : String) :
    Program Unit := do
  let now ← request .now
  updateStatus message
    { status := .discarded
      discardedAt := some now
      discardReason := some reason }
  notify (.discarded message.event.base.eventId reason message.retryCount)

/-- Filter a failed message, store it, and schedule its retry or discard it. -/
def handleMessage (testEnvironment : Bool) (message : DLQMessageDocument)
    (now : Nat) : Program Unit :=
  if passesFilters testEnvironment message now then do
    let _ ← request (.delivery (.saveMessage
      { message with status := .pending, lastUpdated := some now }))
    notify (.received message.event.base.eventId message.retryCount)
    if retryPolicy.maxRetries ≤ message.retryCount then
      discardMessage message "max_retries_exceeded"
    else do
      let random ← request .random
      let scheduledAt ← request .now
      updateStatus message
        { status := .scheduled
          nextRetryAt := some (retryPolicy.getNextRetryTime message.retryCount
            scheduledAt random) }
  else pure ()

/-- Republish a message to its topic for the consumer group that failed on it.
It is marked before it is published: a retry that fails fast saves its new
failure over this row. -/
def retryMessage (message : DLQMessageDocument) : Program Unit := do
  let retriedAt ← request .now
  updateStatus message
    { status := .retried
      retriedAt := some retriedAt
      retryCount := some (message.retryCount + 1) }
  let publish : Program Unit := request (.delivery (.republish
    { event := message.event
      targetGroup := some message.consumerGroup
      retryCount := message.retryCount + 1 }))
  publish.attempt fun error =>
    if error.isProduceError then do
      updateStatus message
        { status := .scheduled, retryCount := some message.retryCount }
      Coroutine.raise error
    else Coroutine.raise error
  notify (.retried message.event.base.eventId (message.retryCount + 1))

/-- Retry messages one after the other. -/
def retryAll : List DLQMessageDocument → Program Unit
  | [] => pure ()
  | message :: messages => do
      retryMessage message
      retryAll messages

/-- Retry all scheduled messages whose retry time has arrived. -/
def processDueRetries : Program Unit := do
  let messages ← request (.delivery (.findDueRetries 100))
  retryAll messages

end DLQManager

end Integr8s
