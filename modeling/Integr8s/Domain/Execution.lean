/-
Module: Integr8s.Domain.Execution
Purpose: The execution record and the result that ends it: statuses, queue
  priorities, resource usage, the stored document and the domain result.
Trusted boundary: human-reviewed spec
Main exports: ExecutionStatus, QueuePriority, ExecutionErrorType,
  ResourceUsageDomain, ExecutionResultDomain, ExecutionDocument
-/
import Integr8s.Lib.PythonText

namespace Integr8s

abbrev ExecutionId := String

abbrev UserId := String

/-- A duration in seconds.  Times are numbers of microseconds since the epoch,
on the one clock of the deployment. -/
def seconds (n : Nat) : Nat := n * 1000000

/-- Execution priority, ordered highest to lowest. -/
inductive QueuePriority where
  | critical
  | high
  | normal
  | low
  | background
deriving DecidableEq, Repr

/-- Status of an execution, in the order the enumeration declares them. -/
inductive ExecutionStatus where
  | queued
  | scheduled
  | running
  | completed
  | failed
  | timeout
  | cancelled
  | error
deriving DecidableEq, Repr

namespace ExecutionStatus

/-- The members in declaration order, as iterating over the enumeration
yields them. -/
def all : List ExecutionStatus :=
  [queued, scheduled, running, completed, failed, timeout, cancelled, error]

def isTerminal : ExecutionStatus → Bool
  | queued | scheduled | running => false
  | completed | failed | timeout | cancelled | error => true

private theorem mem_all (status : ExecutionStatus) : status ∈ all := by
  cases status <;> decide

end ExecutionStatus

/-- `EXECUTION_ACTIVE`: the statuses that are not terminal. -/
def executionActive : List ExecutionStatus :=
  ExecutionStatus.all.filter fun status => !status.isTerminal

/-- Membership in `EXECUTION_ACTIVE` is exactly not being terminal. -/
@[simp] theorem mem_executionActive {status : ExecutionStatus} :
    status ∈ executionActive ↔ status.isTerminal = false := by
  simp [executionActive, ExecutionStatus.mem_all]

/-- Types of execution errors. -/
inductive ExecutionErrorType where
  | systemError
  | timeout
  | resourceLimit
  | scriptError
  | permissionDenied
deriving DecidableEq, Repr

namespace ExecutionErrorType

/-- The text of an error type. -/
def value : ExecutionErrorType → String
  | systemError => "system_error"
  | timeout => "timeout"
  | resourceLimit => "resource_limit"
  | scriptError => "script_error"
  | permissionDenied => "permission_denied"

end ExecutionErrorType

/-- Resource usage metrics from script execution. -/
structure ResourceUsageDomain where
  executionTimeWallSeconds : PyFloat := .finite false 0 0
  cpuTimeJiffies : Int := 0
  clkTckHertz : Int := 0
  peakMemoryKb : Int := 0
deriving DecidableEq, Repr

/-- The result of a finished execution, as a writer hands it over. -/
structure ExecutionResultDomain where
  executionId : ExecutionId
  status : ExecutionStatus
  exitCode : Option Int
  stdout : Option String
  stderr : Option String
  resourceUsage : Option ResourceUsageDomain := none
  errorType : Option ExecutionErrorType := none
deriving DecidableEq, Repr

/-- Execution document as stored in the database. -/
structure ExecutionDocument where
  executionId : ExecutionId
  script : String
  lang : String
  langVersion : String
  userId : Option UserId
  status : ExecutionStatus := .queued
  stdout : Option String := none
  stderr : Option String := none
  exitCode : Option Int := none
  resourceUsage : Option ResourceUsageDomain := none
  errorType : Option ExecutionErrorType := none
  priority : QueuePriority := .normal
  createdAt : Nat
  updatedAt : Nat
deriving DecidableEq, Repr

/-- The fields of a document that a result fills. -/
structure ResultFields where
  exitCode : Option Int
  stdout : Option String
  stderr : Option String
  resourceUsage : Option ResourceUsageDomain
  errorType : Option ExecutionErrorType
deriving DecidableEq, Repr

def ExecutionDocument.resultFields (doc : ExecutionDocument) : ResultFields :=
  { exitCode := doc.exitCode
    stdout := doc.stdout
    stderr := doc.stderr
    resourceUsage := doc.resourceUsage
    errorType := doc.errorType }

def ExecutionResultDomain.resultFields (result : ExecutionResultDomain) :
    ResultFields :=
  { exitCode := result.exitCode
    stdout := result.stdout
    stderr := result.stderr
    resourceUsage := result.resourceUsage
    errorType := result.errorType }

end Integr8s
