/-
Module: Integr8s.Events.Middlewares
Purpose: What happens to a delivered message of the scheduler's router: the
  retry target, the dead letters and the idempotency key around the handler,
  and the acknowledgement.
Trusted boundary: human-reviewed spec
Main exports: ConsumeResult, RetryTargetMiddleware.consumeScope,
  DeadLetterMiddleware.consumeScope, IdempotencyMiddleware.consumeScope,
  Subscriber, Subscriber.consume
-/
import Integr8s.Services.Idempotency
import Integr8s.Dlq.Manager

namespace Integr8s

/-- How a delivery went. -/
inductive ConsumeResult where
  | handled
  | duplicate
  | notAddressed
  | failed
deriving DecidableEq, Repr

/-- Skip a retry that's addressed to another consumer group. -/
def RetryTargetMiddleware.consumeScope (groupId : String) (message : Message)
    (callNext : Program ConsumeResult) : Program ConsumeResult :=
  match message.targetGroup with
  | some target =>
      if target ≠ "" ∧ target ≠ groupId then pure .notAddressed else callNext
  | none => callNext

/-- Save an event whose handler raised to the dead letter queue; the error
still propagates. -/
def DeadLetterMiddleware.consumeScope (testEnvironment : Bool)
    (groupId : String) (message : Message)
    (callNext : Program ConsumeResult) : Program ConsumeResult :=
  callNext.attempt fun error => do
    let failedAt ← request .now
    DLQManager.handleMessage testEnvironment
      { event := message.event
        originalTopic := message.event.eventType
        consumerGroup := groupId
        error := error
        retryCount := message.retryCount
        failedAt := failedAt
        producerId := message.event.base.metadata.serviceName } failedAt
    Coroutine.raise error

/-- Run a handler at most once per idempotency key while the key lives. -/
def IdempotencyMiddleware.consumeScope (config : IdempotencyConfig)
    (ttlSeconds : Nat) (event : DomainEvent) (callNext : Program Unit) :
    Program ConsumeResult :=
  let key := IdempotencyManager.generateKey config event.eventType
    event.base.eventId
  underKey config key event.eventType event.base.eventId ttlSeconds
    (fun _ => pure .duplicate) callNext fun _ => do
      let _ ← IdempotencyManager.markCompleted config key
      pure .handled

/-- A subscriber of the scheduler's router. -/
structure Subscriber where
  config : IdempotencyConfig := {}
  testEnvironment : Bool := false
  groupId : String := "saga-orchestrator"
  ttlSeconds : Nat := 3600
  handler : DomainEvent → Program Unit

namespace Subscriber

variable (subscriber : Subscriber)

/-- The middlewares around the handler. -/
def pipeline (message : Message) : Program ConsumeResult :=
  RetryTargetMiddleware.consumeScope subscriber.groupId message
    (DeadLetterMiddleware.consumeScope subscriber.testEnvironment
      subscriber.groupId message
      (IdempotencyMiddleware.consumeScope subscriber.config
        subscriber.ttlSeconds message.event
        (subscriber.handler message.event)))

/-- Handle a delivered message.  An error is logged, and `AckPolicy.ACK`
acknowledges the message all the same. -/
def consume (offset : Nat) : Program Unit := do
  match ← request (.delivery (.receive offset)) with
  | none => pure ()
  | some message => do
      let result ← (subscriber.pipeline message).attempt fun _ => pure .failed
      request (.delivery (.acknowledge offset (result == .duplicate)))

end Subscriber

end Integr8s
