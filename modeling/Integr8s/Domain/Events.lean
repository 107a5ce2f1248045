/-
Module: Integr8s.Domain.Events
Purpose: The domain events that the execution pipeline produces and consumes,
  and the groups of event types that its parts treat alike.
Trusted boundary: human-reviewed spec
Main exports: EventMetadata, BaseEvent, DomainEvent, EventType,
  DomainEvent.eventType, DomainEvent.executionId,
  EventType.isExecutionTerminal, EventType.isPipelineTerminal
-/
import Integr8s.Domain.Execution

namespace Integr8s

abbrev EventId := String

abbrev PodName := String

/-- Event metadata, embedded in all events. -/
structure EventMetadata where
  serviceName : String
  serviceVersion : String
  userId : UserId
deriving DecidableEq, Repr

/-- Base fields of all domain events. -/
structure BaseEvent where
  eventId : EventId
  aggregateId : Option String := none
  metadata : EventMetadata
deriving DecidableEq, Repr

structure ExecutionRequestedEvent extends BaseEvent where
  executionId : ExecutionId
  script : String
  language : String
  languageVersion : String
  runtimeImage : String
  runtimeCommand : List String
  runtimeFilename : String
  timeoutSeconds : Int
  cpuLimit : String
  memoryLimit : String
  cpuRequest : String
  memoryRequest : String
  priority : QueuePriority := .normal
deriving DecidableEq, Repr

structure ExecutionCompletedEvent extends BaseEvent where
  executionId : ExecutionId
  exitCode : Int
  resourceUsage : ResourceUsageDomain
  stdout : String := ""
  stderr : String := ""
deriving DecidableEq, Repr

structure ExecutionFailedEvent extends BaseEvent where
  executionId : ExecutionId
  exitCode : Int := 1
  errorType : ExecutionErrorType
  resourceUsage : Option ResourceUsageDomain := none
  stdout : String := ""
  stderr : String := ""
deriving DecidableEq, Repr

structure ExecutionTimeoutEvent extends BaseEvent where
  executionId : ExecutionId
  timeoutSeconds : Int
  resourceUsage : ResourceUsageDomain
  stdout : String := ""
  stderr : String := ""
deriving DecidableEq, Repr

structure ExecutionCancelledEvent extends BaseEvent where
  executionId : ExecutionId
  cancelledBy : String
deriving DecidableEq, Repr

structure PodCreatedEvent extends BaseEvent where
  executionId : ExecutionId
  podName : PodName
  podNamespace : String := "default"
deriving DecidableEq, Repr

structure PodScheduledEvent extends BaseEvent where
  executionId : ExecutionId
  podName : PodName
  nodeName : String := ""
deriving DecidableEq, Repr

/-- Container status information from a pod. -/
structure ContainerStatusInfo where
  name : String
  ready : Bool := false
  restartCount : Int := 0
  state : String := "unknown"
deriving DecidableEq, Repr

structure PodRunningEvent extends BaseEvent where
  executionId : ExecutionId
  podName : PodName
  containerStatuses : List ContainerStatusInfo := []
deriving DecidableEq, Repr

structure PodTerminatedEvent extends BaseEvent where
  executionId : ExecutionId
  podName : PodName
  exitCode : Int := 0
  reason : Option String := none
  message : Option String := none
deriving DecidableEq, Repr

inductive StorageType where
  | database
  | s3
  | filesystem
  | redis
deriving DecidableEq, Repr

structure ResultStoredEvent extends BaseEvent where
  executionId : ExecutionId
  storageType : Option StorageType := none
  storagePath : String := ""
  sizeBytes : Nat := 0
deriving DecidableEq, Repr

structure ResultFailedEvent extends BaseEvent where
  executionId : ExecutionId
  storageType : Option StorageType := none
deriving DecidableEq, Repr

/-- The events of the execution pipeline. -/
inductive DomainEvent where
  | executionRequested (event : ExecutionRequestedEvent)
  | executionCompleted (event : ExecutionCompletedEvent)
  | executionFailed (event : ExecutionFailedEvent)
  | executionTimeout (event : ExecutionTimeoutEvent)
  | executionCancelled (event : ExecutionCancelledEvent)
  | podCreated (event : PodCreatedEvent)
  | podScheduled (event : PodScheduledEvent)
  | podRunning (event : PodRunningEvent)
  | podTerminated (event : PodTerminatedEvent)
  | resultStored (event : ResultStoredEvent)
  | resultFailed (event : ResultFailedEvent)
deriving DecidableEq, Repr

/-- The type of an event, which is also the topic it is published to. -/
inductive EventType where
  | executionRequested
  | executionCompleted
  | executionFailed
  | executionTimeout
  | executionCancelled
  | podCreated
  | podScheduled
  | podRunning
  | podTerminated
  | resultStored
  | resultFailed
deriving DecidableEq, Repr

namespace DomainEvent

def eventType : DomainEvent → EventType
  | executionRequested _ => .executionRequested
  | executionCompleted _ => .executionCompleted
  | executionFailed _ => .executionFailed
  | executionTimeout _ => .executionTimeout
  | executionCancelled _ => .executionCancelled
  | podCreated _ => .podCreated
  | podScheduled _ => .podScheduled
  | podRunning _ => .podRunning
  | podTerminated _ => .podTerminated
  | resultStored _ => .resultStored
  | resultFailed _ => .resultFailed

/-- The fields that every event has. -/
def base : DomainEvent → BaseEvent
  | executionRequested event => event.toBaseEvent
  | executionCompleted event => event.toBaseEvent
  | executionFailed event => event.toBaseEvent
  | executionTimeout event => event.toBaseEvent
  | executionCancelled event => event.toBaseEvent
  | podCreated event => event.toBaseEvent
  | podScheduled event => event.toBaseEvent
  | podRunning event => event.toBaseEvent
  | podTerminated event => event.toBaseEvent
  | resultStored event => event.toBaseEvent
  | resultFailed event => event.toBaseEvent

def executionId : DomainEvent → ExecutionId
  | executionRequested event => event.executionId
  | executionCompleted event => event.executionId
  | executionFailed event => event.executionId
  | executionTimeout event => event.executionId
  | executionCancelled event => event.executionId
  | podCreated event => event.executionId
  | podScheduled event => event.executionId
  | podRunning event => event.executionId
  | podTerminated event => event.executionId
  | resultStored event => event.executionId
  | resultFailed event => event.executionId

end DomainEvent

namespace EventType

/-- The text of an event type. -/
def value : EventType → String
  | executionRequested => "execution_requested"
  | executionCompleted => "execution_completed"
  | executionFailed => "execution_failed"
  | executionTimeout => "execution_timeout"
  | executionCancelled => "execution_cancelled"
  | podCreated => "pod_created"
  | podScheduled => "pod_scheduled"
  | podRunning => "pod_running"
  | podTerminated => "pod_terminated"
  | resultStored => "result_stored"
  | resultFailed => "result_failed"

/-- `EXECUTION_TERMINAL_EVENT_TYPES`: the executor pod has reached a terminal
state. -/
def isExecutionTerminal : EventType → Bool
  | executionCompleted | executionFailed | executionTimeout => true
  | _ => false

/-- `EXECUTION_PIPELINE_TERMINAL_EVENT_TYPES`: the full execution pipeline has
concluded. -/
def isPipelineTerminal : EventType → Bool
  | resultStored | resultFailed | executionFailed | executionTimeout => true
  | _ => false

/-- The terminal status that a terminal event announces. -/
def announcedStatus : EventType → Option ExecutionStatus
  | executionCompleted => some .completed
  | executionFailed => some .failed
  | executionTimeout => some .timeout
  | _ => none

end EventType

end Integr8s
