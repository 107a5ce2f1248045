/-
Module: Integr8s.Db.ExecutionRepository
Purpose: The operations of the execution repository on the stored execution
  documents, each the single database command that the repository sends.
Trusted boundary: human-reviewed spec
Main exports: Executions, writeTerminalResult, advanceStatus, updatePriority,
  RepositoryCall, RepositoryCall.perform, performAll
-/
import Integr8s.Lib.Collection
import Integr8s.Domain.Exceptions

namespace Integr8s

/-- The stored execution documents; the index on `execution_id` is unique. -/
abbrev Executions := Collection ExecutionId ExecutionDocument

namespace Executions

def getExecution (executions : Executions) (executionId : ExecutionId) :
    Option ExecutionDocument :=
  executions.findOne executionId fun _ => true

/-- Store a new execution; an id that is taken raises. -/
def createExecution (executions : Executions) (doc : ExecutionDocument) :
    Except PyException Unit × Executions :=
  match executions doc.executionId with
  | some _ => (.error .duplicateKeyError, executions)
  | none => (.ok (), executions.insert doc.executionId doc)

/-- The `$set` of a terminal result: every result field is overwritten. -/
def setResult (result : ExecutionResultDomain) (now : Nat)
    (doc : ExecutionDocument) : ExecutionDocument :=
  { doc with
    status := result.status
    exitCode := result.exitCode
    stdout := result.stdout
    stderr := result.stderr
    resourceUsage := result.resourceUsage
    errorType := result.errorType
    updatedAt := now }

/-- Write a terminal result, guarded by the check for an active status.  The
answer says whether a document was modified. -/
def writeTerminalResult (executions : Executions)
    (result : ExecutionResultDomain) (now : Nat) : Bool × Executions :=
  let (modifiedCount, executions) :=
    executions.updateOne result.executionId
      (fun doc => executionActive.contains doc.status) (setResult result now)
  (modifiedCount != 0, executions)

def setStatus (status : ExecutionStatus) (now : Nat)
    (doc : ExecutionDocument) : ExecutionDocument :=
  { doc with status := status, updatedAt := now }

/-- Move an active execution forward to a status, never back and never over a
terminal status.  Asking the list of active statuses for the index of a
terminal one raises before any command is sent. -/
def advanceStatus (executions : Executions) (executionId : ExecutionId)
    (status : ExecutionStatus) (now : Nat) :
    Except PyException (Bool × Executions) :=
  let active := ExecutionStatus.all.filter fun s => !s.isTerminal
  match active.idxOf? status with
  | none => .error .valueError
  | some index =>
      let (modifiedCount, executions) :=
        executions.updateOne executionId
          (fun doc => (active.take index).contains doc.status)
          (setStatus status now)
      .ok (modifiedCount != 0, executions)

def setPriority (priority : QueuePriority) (now : Nat)
    (doc : ExecutionDocument) : ExecutionDocument :=
  { doc with priority := priority, updatedAt := now }

/-- Change the priority of an execution whatever its status. -/
def updatePriority (executions : Executions) (executionId : ExecutionId)
    (priority : QueuePriority) (now : Nat) :
    Option ExecutionDocument × Executions :=
  let (_, executions) :=
    executions.updateOne executionId (fun _ => true)
      (setPriority priority now)
  (getExecution executions executionId, executions)

def deleteExecution (executions : Executions) (executionId : ExecutionId) :
    Bool × Executions :=
  match executions.getExecution executionId with
  | none => (false, executions)
  | some _ => (true, executions.delete executionId)

@[simp] theorem getExecution_eq (executions : Executions)
    (executionId : ExecutionId) :
    executions.getExecution executionId = executions executionId := by
  cases stored : executions executionId <;>
    simp [getExecution, Collection.findOne, stored]

/-- The write modifies a document exactly when one is stored with an active
status: a terminal result changes at least the status. -/
theorem writeTerminalResult_won {executions : Executions}
    {result : ExecutionResultDomain} {now : Nat}
    (terminal : result.status.isTerminal = true) :
    (executions.writeTerminalResult result now).1 = true ↔
      ∃ doc, executions result.executionId = some doc ∧
        doc.status.isTerminal = false := by
  simp only [writeTerminalResult, bne_iff_ne]
  rw [Collection.updateOne_modified]
  constructor
  · rintro ⟨doc, stored, active, -⟩
    exact ⟨doc, stored, by simpa using active⟩
  · rintro ⟨doc, stored, active⟩
    refine ⟨doc, stored, by simpa using active, fun same => ?_⟩
    have statusSame : result.status = doc.status :=
      congrArg ExecutionDocument.status same
    simp [statusSame, active] at terminal

/-- What the write leaves under its own key. -/
theorem writeTerminalResult_self {executions : Executions}
    {result : ExecutionResultDomain} {doc : ExecutionDocument}
    (stored : executions result.executionId = some doc) (now : Nat) :
    (executions.writeTerminalResult result now).2 result.executionId =
      some (if doc.status.isTerminal then doc
        else setResult result now doc) := by
  rw [writeTerminalResult, Collection.updateOne_self stored]
  cases terminal : doc.status.isTerminal <;> simp [terminal]

/-- The write touches no other document. -/
theorem writeTerminalResult_other {executions : Executions}
    {result : ExecutionResultDomain} {executionId : ExecutionId}
    (different : executionId ≠ result.executionId) (now : Nat) :
    (executions.writeTerminalResult result now).2 executionId =
      executions executionId :=
  Collection.updateOne_other _ different _ _

/-- What the guarded step forward leaves under any key. -/
theorem advanceStatus_get {executions after : Executions}
    {executionId : ExecutionId} {status : ExecutionStatus} {now : Nat}
    {modified : Bool}
    (advanced : executions.advanceStatus executionId status now =
      .ok (modified, after)) (other : ExecutionId) :
    ∃ index, executionActive.idxOf? status = some index ∧
      after other =
        if other = executionId then
          (executions executionId).map fun doc =>
            if (executionActive.take index).contains doc.status then
              setStatus status now doc
            else doc
        else executions other := by
  unfold advanceStatus at advanced
  cases found : executionActive.idxOf? status with
  | none =>
      simp only [executionActive] at found
      simp [found] at advanced
  | some index =>
      refine ⟨index, rfl, ?_⟩
      simp only [executionActive] at found ⊢
      simp only [found, Except.ok.injEq, Prod.mk.injEq] at advanced
      rw [← advanced.2]
      exact Collection.updateOne_get _ _ _ _ _

/-- What a change of priority leaves under any key. -/
theorem updatePriority_get (executions : Executions)
    (executionId : ExecutionId) (priority : QueuePriority) (now : Nat)
    (other : ExecutionId) :
    (executions.updatePriority executionId priority now).2 other =
      if other = executionId then
        (executions executionId).map (setPriority priority now)
      else executions other := by
  simp [updatePriority, Collection.updateOne_get]

/-- Deleting a document leaves the others as they were. -/
theorem deleteExecution_stored {executions : Executions}
    {executionId other : ExecutionId} {doc : ExecutionDocument}
    (stored : (executions.deleteExecution executionId).2 other = some doc) :
    executions other = some doc := by
  unfold deleteExecution at stored
  cases found : executions executionId with
  | none => simpa [found] using stored
  | some previous =>
      by_cases own : other = executionId
      · subst own
        simp [found] at stored
      · simpa [found, own] using stored

end Executions

/-- One call of the repository that writes to an execution, with the time on
the writer's clock. -/
inductive RepositoryCall where
  | writeTerminalResult (result : ExecutionResultDomain) (now : Nat)
  | advanceStatus (executionId : ExecutionId) (status : ExecutionStatus)
      (now : Nat)
  | updatePriority (executionId : ExecutionId) (priority : QueuePriority)
      (now : Nat)
deriving DecidableEq, Repr

/-- What a call of the repository returns or raises. -/
inductive RepositoryReply where
  | flag (modified : Bool)
  | document (doc : Option ExecutionDocument)
  | raised (error : PyException)
deriving DecidableEq, Repr

def RepositoryCall.perform (executions : Executions) :
    RepositoryCall → RepositoryReply × Executions
  | .writeTerminalResult result now =>
      let (written, executions) := executions.writeTerminalResult result now
      (.flag written, executions)
  | .advanceStatus executionId status now =>
      match executions.advanceStatus executionId status now with
      | .error error => (.raised error, executions)
      | .ok (advanced, executions) => (.flag advanced, executions)
  | .updatePriority executionId priority now =>
      let (doc, executions) := executions.updatePriority executionId priority now
      (.document doc, executions)

/-- The collection after a list of calls, in the order the database applies
them. -/
def performAll : Executions → List RepositoryCall → Executions
  | executions, [] => executions
  | executions, call :: calls => performAll (call.perform executions).2 calls

@[simp] theorem performAll_nil (executions : Executions) :
    performAll executions [] = executions :=
  rfl

@[simp] theorem performAll_cons (executions : Executions)
    (call : RepositoryCall) (calls : List RepositoryCall) :
    performAll executions (call :: calls) =
      performAll (call.perform executions).2 calls :=
  rfl

theorem performAll_append (executions : Executions)
    (first second : List RepositoryCall) :
    performAll executions (first ++ second) =
      performAll (performAll executions first) second := by
  induction first generalizing executions with
  | nil => rfl
  | cons call calls inductionHypothesis =>
      simp [inductionHypothesis]

end Integr8s
