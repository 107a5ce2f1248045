/-
Module: Integr8s.Events.Transport
Purpose: The messages in which the events of finished pods travel: the JSON
  that the publisher makes of them, and the size that the message bus takes.
Trusted boundary: human-reviewed spec
Main exports: KafkaEventTransport.message, KafkaEventTransport.maxMessageBytes
-/
import Integr8s.Domain.Events
import Integr8s.Lib.JsonText

namespace Integr8s

namespace KafkaEventTransport

open JsonText (string object)

/-- The largest message that the bus takes unless it is configured: 1 MiB. -/
def maxMessageBytes : Nat := 1048576

section Members

variable (timestamp : String) (float : PyFloat → String)

def integer (number : Int) : List Char :=
  (toString number).toList

def metadataJson (metadata : EventMetadata) : List Char :=
  object
    [("service_name", string metadata.serviceName.toList),
     ("service_version", string metadata.serviceVersion.toList),
     ("user_id", string metadata.userId.toList),
     ("environment", string "production".toList)]

def resourceUsageJson (usage : ResourceUsageDomain) : List Char :=
  object
    [("execution_time_wall_seconds",
        (float usage.executionTimeWallSeconds).toList),
     ("cpu_time_jiffies", integer usage.cpuTimeJiffies),
     ("clk_tck_hertz", integer usage.clkTckHertz),
     ("peak_memory_kb", integer usage.peakMemoryKb)]

def baseMembers (eventType : EventType) (base : BaseEvent) :
    List (String × List Char) :=
  [("event_id", string base.eventId.toList),
   ("event_type", string eventType.value.toList),
   ("event_version", string "1.0".toList),
   ("timestamp", string timestamp.toList),
   ("aggregate_id",
      match base.aggregateId with
      | some aggregateId => string aggregateId.toList
      | none => "null".toList),
   ("metadata", metadataJson base.metadata)]

/-- The members of a completed event before its output. -/
def completedMembers (event : ExecutionCompletedEvent) :
    List (String × List Char) :=
  baseMembers timestamp .executionCompleted event.toBaseEvent ++
    [("execution_id", string event.executionId.toList),
     ("exit_code", integer event.exitCode),
     ("resource_usage", resourceUsageJson float event.resourceUsage)]

/-- The members of a failed event before its output. -/
def failedMembers (event : ExecutionFailedEvent) :
    List (String × List Char) :=
  baseMembers timestamp .executionFailed event.toBaseEvent ++
    [("execution_id", string event.executionId.toList),
     ("exit_code", integer event.exitCode),
     ("error_type", string event.errorType.value.toList),
     ("resource_usage",
        match event.resourceUsage with
        | some usage => resourceUsageJson float usage
        | none => "null".toList)]

/-- The members of a timeout event before its output. -/
def timeoutMembers (event : ExecutionTimeoutEvent) :
    List (String × List Char) :=
  baseMembers timestamp .executionTimeout event.toBaseEvent ++
    [("execution_id", string event.executionId.toList),
     ("timeout_seconds", integer event.timeoutSeconds),
     ("resource_usage", resourceUsageJson float event.resourceUsage)]

/-- The members of an event that carries output, as a message. -/
def withOutput (members : List (String × List Char))
    (stdout stderr : String) : PyBytes :=
  PyBytes.encode (object (members ++
    [("stdout", string stdout.toList), ("stderr", string stderr.toList)]))

/-- The message of an event that carries output, or `none` for another one.
Its timestamp and its floats are texts that pydantic's writer makes. -/
def message : DomainEvent → Option PyBytes
  | .executionCompleted event =>
      some (withOutput (completedMembers timestamp float event)
        event.stdout event.stderr)
  | .executionFailed event =>
      some (withOutput (failedMembers timestamp float event)
        event.stdout event.stderr)
  | .executionTimeout event =>
      some (withOutput (timeoutMembers timestamp float event)
        event.stdout event.stderr)
  | _ => none

end Members

end KafkaEventTransport

end Integr8s
