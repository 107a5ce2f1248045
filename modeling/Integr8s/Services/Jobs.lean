/-
Module: Integr8s.Services.Jobs
Purpose: What runs side by side over one world: the API's requests, the
  handlers of request and cancel events, the pod monitor and the timer.
Trusted boundary: human-reviewed spec
Main exports: Job, Job.run, Job.start
-/
import Integr8s.Services.Executions
import Integr8s.Services.PodMonitor

namespace Integr8s

/-- One call.  The pod monitor processes all that its watch reports. -/
inductive Job where
  | executeScript (submission : Submission)
  | updatePriority (executionId : ExecutionId) (newPriority : QueuePriority)
  | executionRequested (event : ExecutionRequestedEvent)
  | executionCancelled (event : ExecutionCancelledEvent)
  | watchPodEvents (reports : List PodEvent)
  | schedulePending
deriving DecidableEq, Repr

namespace Job

variable (deployment : Deployment)

/-- Run a job for its effect. -/
def run : Job → Program Unit
  | executeScript submission => do
      let _ ← ExecutionService.executeScript deployment submission
      pure ()
  | updatePriority executionId newPriority => do
      let _ ← AdminExecutionService.updatePriority executionId newPriority
      pure ()
  | executionRequested event =>
      ExecutionScheduler.handleExecutionRequested deployment event
  | executionCancelled event =>
      ExecutionScheduler.handleExecutionCancelled deployment event
  | watchPodEvents reports => PodMonitor.watchPodEvents deployment ∅ reports
  | schedulePending => ExecutionScheduler.schedulePending deployment

/-- All jobs before their first step. -/
def start (world : World) (jobs : Caller → Job) : Backend where
  shared := world
  running caller := some ((jobs caller).run deployment)

end Job

end Integr8s
