/-
Module: Integr8s.Domain.Replay
Purpose: The stored events, the filter that selects some of them for a replay,
  and the replay sessions.
Trusted boundary: human-reviewed spec
Main exports: StoredEvent, EventDocument, ReplayFilter,
  ReplayFilter.toMongoQuery, ReplayStatus, ReplaySessionDocument,
  AdminReplayResult
-/
import Integr8s.Domain.Events
import Integr8s.Domain.Exceptions

namespace Integr8s

/-- The type of a stored event: one that the pipeline produces, or another one
by its value. -/
inductive StoredEventType where
  | pipeline (eventType : EventType)
  | other (value : String)
deriving DecidableEq, Repr

/-- The fields of a stored event.  Those that only its own type has are kept
as they are. -/
structure StoredEvent where
  eventId : EventId
  eventType : StoredEventType
  timestamp : Nat
  aggregateId : Option String := none
  metadata : EventMetadata
  executionId : Option ExecutionId := none
  extra : List (String × String) := []
deriving DecidableEq, Repr

/-- An event in the database, with the id that the database gave it. -/
structure EventDocument extends StoredEvent where
  id : Nat
deriving DecidableEq, Repr

structure EventSummary where
  eventId : EventId
  eventType : StoredEventType
  timestamp : Nat
  aggregateId : Option String
deriving DecidableEq, Repr

def EventDocument.summary (doc : EventDocument) : EventSummary where
  eventId := doc.eventId
  eventType := doc.eventType
  timestamp := doc.timestamp
  aggregateId := doc.aggregateId

structure ReplayFilter where
  eventIds : Option (List EventId) := none
  executionId : Option String := none
  aggregateId : Option String := none
  eventTypes : Option (List StoredEventType) := none
  excludeEventTypes : Option (List StoredEventType) := none
  startTime : Option Nat := none
  endTime : Option Nat := none
  userId : Option String := none
  serviceName : Option String := none
deriving DecidableEq, Repr

namespace ReplayFilter

/-- A list that is set and not empty. -/
def given {α : Type} : Option (List α) → Bool
  | none | some [] => false
  | some (_ :: _) => true

/-- A text that is set and not empty. -/
def named : Option String → Bool
  | none => false
  | some value => value != ""

/-- There is nothing to select by; the excluded types do not count. -/
def isEmpty (filter : ReplayFilter) : Bool :=
  !(given filter.eventIds || named filter.executionId ||
    named filter.aggregateId || given filter.eventTypes ||
    filter.startTime.isSome || filter.endTime.isSome ||
    named filter.userId || named filter.serviceName)

/-- The query of a filter, by the events that it finds. -/
def toMongoQuery (filter : ReplayFilter) (event : StoredEvent) : Bool :=
  (!given filter.eventIds ||
    (filter.eventIds.getD []).contains event.eventId) &&
  (!named filter.executionId || event.executionId == filter.executionId) &&
  (!named filter.aggregateId || event.aggregateId == filter.aggregateId) &&
  (!given filter.eventTypes ||
    (filter.eventTypes.getD []).contains event.eventType) &&
  (!given filter.excludeEventTypes ||
    !(filter.excludeEventTypes.getD []).contains event.eventType) &&
  filter.startTime.all (fun start => decide (start ≤ event.timestamp)) &&
  filter.endTime.all (fun last => decide (event.timestamp ≤ last)) &&
  (!named filter.userId || some event.metadata.userId == filter.userId) &&
  (!named filter.serviceName ||
    some event.metadata.serviceName == filter.serviceName)

/-- Whether the query finds a document. -/
def finds (filter : ReplayFilter) (doc : EventDocument) : Bool :=
  filter.toMongoQuery doc.toStoredEvent

end ReplayFilter

inductive ReplayStatus where
  | preview
  | scheduled
  | running
  | completed
  | failed
deriving DecidableEq, Repr

namespace ReplayStatus

def isTerminal : ReplayStatus → Bool
  | completed | failed => true
  | preview | scheduled | running => false

end ReplayStatus

structure ReplayError where
  timestamp : Nat
  error : String
  errorType : Option String := none
  eventId : Option EventId := none
deriving DecidableEq, Repr

/-- What a replay session sends again: the stored events that match the filter,
up to `maxEvents`. -/
structure ReplayConfig where
  filter : ReplayFilter
  maxEvents : Nat
deriving DecidableEq, Repr

abbrev ReplaySessionId := String

/-- A replay session: the API stores it as scheduled, and the worker runs it
and records its progress. -/
structure ReplaySessionDocument where
  sessionId : ReplaySessionId
  config : ReplayConfig
  status : ReplayStatus := .scheduled
  totalEvents : Nat := 0
  replayedEvents : Nat := 0
  failedEvents : Nat := 0
  skippedEvents : Nat := 0
  createdAt : Nat
  startedAt : Option Nat := none
  completedAt : Option Nat := none
  errors : List ReplayError := []
  replayId : String
deriving DecidableEq, Repr

/-- How many events a session has dealt with. -/
def ReplaySessionDocument.accounted (session : ReplaySessionDocument) : Nat :=
  session.replayedEvents + session.failedEvents

structure AdminReplayResult where
  dryRun : Bool
  totalEvents : Nat
  replayId : String
  status : ReplayStatus
  sessionId : Option ReplaySessionId := none
  eventsPreview : Option (List EventSummary) := none
deriving DecidableEq, Repr

end Integr8s
