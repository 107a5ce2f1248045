/-
Module: Integr8s.Domain.Streams
Purpose: What is pushed to browsers: the payloads of the execution, the replay
  and the notification streams, and the payload that a domain event becomes.
Trusted boundary: human-reviewed spec
Main exports: SSEEventType, SSEExecutionEventData, DomainReplaySSEPayload,
  StreamMessage, StreamMessage.isTerminal, forwarded
-/
import Integr8s.Domain.Notifications
import Integr8s.Domain.Replay

namespace Integr8s

/-- The type of an event on an execution stream: the control event that opens
it, or the type of a domain event. -/
inductive SSEEventType where
  | status
  | event (eventType : EventType)
deriving DecidableEq, Repr

/-- The payload of an event on an execution stream. -/
structure SSEExecutionEventData where
  eventType : SSEEventType
  executionId : ExecutionId
  timestamp : Option Nat := none
  eventId : Option EventId := none
  status : Option ExecutionStatus := none
  result : Option ExecutionResultDomain := none
deriving DecidableEq, Repr

/-- The payload of a replay session's stream. -/
structure DomainReplaySSEPayload where
  sessionId : ReplaySessionId
  status : ReplayStatus
  totalEvents : Nat
  replayedEvents : Nat
  failedEvents : Nat
  skippedEvents : Nat
  replayId : String
  createdAt : Nat
  startedAt : Option Nat := none
  completedAt : Option Nat := none
  errors : List ReplayError := []
deriving DecidableEq, Repr

/-- The payload that tells of a session as it is. -/
def ReplaySessionDocument.ssePayload (session : ReplaySessionDocument) :
    DomainReplaySSEPayload where
  sessionId := session.sessionId
  status := session.status
  totalEvents := session.totalEvents
  replayedEvents := session.replayedEvents
  failedEvents := session.failedEvents
  skippedEvents := session.skippedEvents
  replayId := session.replayId
  createdAt := session.createdAt
  startedAt := session.startedAt
  completedAt := session.completedAt
  errors := session.errors

/-- A message on a channel, and on the wire to a browser. -/
inductive StreamMessage where
  | execution (event : SSEExecutionEventData)
  | notification (payload : DomainNotificationSSEPayload)
  | replay (payload : DomainReplaySSEPayload)
deriving DecidableEq, Repr

/-- `EXECUTION_PIPELINE_TERMINAL_EVENT_TYPES`. -/
def SSEEventType.isPipelineTerminal : SSEEventType → Bool
  | status => false
  | event eventType => eventType.isPipelineTerminal

/-- A message after which its stream closes. -/
def StreamMessage.isTerminal : StreamMessage → Bool
  | execution event => event.eventType.isPipelineTerminal
  | notification _ => false
  | replay payload => payload.status.isTerminal

/-- `POD_EVENT_STATUS`: the status that a pod event moves its execution to. -/
def podEventStatus : EventType → Option ExecutionStatus
  | .podScheduled => some .scheduled
  | .podRunning => some .running
  | _ => none

/-- The payload of a domain event: those of its fields that the payload has,
and the status of its type.  The timestamp is the event's own. -/
def forwarded (timestamp : Nat) (event : DomainEvent) :
    SSEExecutionEventData where
  eventType := .event event.eventType
  executionId := event.executionId
  timestamp := some timestamp
  eventId := some event.base.eventId
  status := podEventStatus event.eventType

end Integr8s
