/-
Module: Integr8s.Events.Handlers
Purpose: The routers of the consumer groups and what each does with a
  delivery, around a handler that is outside of this model.
Trusted boundary: human-reviewed spec
Main exports: Router, Router.middlewares, Delivery, Delivery.consume
-/
import Integr8s.Events.Middlewares

namespace Integr8s

/-- The routers.  The scheduler's and the notifications' save failed events to
the dead letter queue, and the scheduler's also guards its handlers with
idempotency keys. -/
inductive Router where
  | schedulerRouter (config : IdempotencyConfig) (ttlSeconds : Nat)
  | notificationRouter
  | sseRouter
deriving DecidableEq, Repr

/-- The handler of a group, whatever it does. -/
def handler : Program ConsumeResult := do
  request .work
  pure .handled

/-- The middlewares of a router around its handler. -/
def Router.middlewares (router : Router) (testEnvironment : Bool)
    (groupId : String) (message : Message) : Program ConsumeResult :=
  match router with
  | .schedulerRouter config ttlSeconds =>
      DeadLetterMiddleware.consumeScope testEnvironment groupId message
        (IdempotencyMiddleware.consumeScope config ttlSeconds message.event
          (request .work))
  | .notificationRouter =>
      DeadLetterMiddleware.consumeScope testEnvironment groupId message handler
  | .sseRouter => handler

/-- The delivery of one message of the topic to one consumer group. -/
structure Delivery where
  router : Router
  testEnvironment : Bool := false
  groupId : String
  offset : Nat
deriving DecidableEq, Repr

namespace Delivery

variable (delivery : Delivery)

/-- The broker's middleware around the router's.  An error is logged. -/
def pipeline (message : Message) : Program ConsumeResult :=
  (RetryTargetMiddleware.consumeScope delivery.groupId message
    (delivery.router.middlewares delivery.testEnvironment delivery.groupId
      message)).attempt fun _ => pure .failed

/-- Handle a delivered message.  `AckPolicy.ACK` acknowledges it after its
handler, `AckPolicy.ACK_FIRST` of the SSE router before. -/
def consume : Program Unit := do
  match ← request (.delivery (.receive delivery.offset)) with
  | none => pure ()
  | some message =>
      match delivery.router with
      | .sseRouter => do
          request (.delivery (.acknowledge delivery.offset false))
          let _ ← delivery.pipeline message
          pure ()
      | _ => do
          let result ← delivery.pipeline message
          request (.delivery (.acknowledge delivery.offset
            (result == .duplicate)))

end Delivery

end Integr8s
