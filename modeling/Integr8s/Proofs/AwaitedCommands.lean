/-
Module: Integr8s.Proofs.AwaitedCommands
Purpose: Which commands the services behind the jobs await, whatever they are
  answered.
Trusted boundary: none
Main exports: Command.isPassive, asks_store, asks_handle, asks_mapPodEvent,
  asks_processPodEvent, asks_schedulePending, asks_executeScript
-/
import Integr8s.Lib.Typestate
import Integr8s.Services.Jobs

namespace Integr8s

open Coroutine (Asks)

/-- The commands that leave the queue's keys, the executions and the cluster
as they are, and announce no request. -/
def Command.isPassive : Command → Bool
  | .now | .uuid | .effectiveSettings | .findExecution _ | .memoryLimit _
  | .storeEvent _ | .queue (.rank ..) | .queue (.status _)
  | .cluster (.readPodLog ..) => true
  | .publish event => event.eventType != .executionRequested
  | _ => false

/-- The queue's commands that end an execution's time in the queue. -/
def QueueCommand.isRelease : QueueCommand → Bool
  | .owner _ | .dropUserSlot .. | .dropRunning _ | .release _ => true
  | _ => false

/-- The commands with which a pod is created. -/
def Command.isStart : Command → Bool
  | .cluster .readEntrypoint | .cluster (.createConfigMap ..)
  | .cluster (.createPod ..) | .cluster (.setConfigMapOwner ..) => true
  | _ => false

section Awaited

variable {allowed : Command → Prop}

theorem asks_request {command : Command} (may : allowed command) :
    (request command).Asks allowed :=
  Asks.call may

section Announcing

variable (passive : ∀ command : Command, command.isPassive = true →
  allowed command)

include passive

private theorem asks_produce {event : DomainEvent}
    (announces : event.eventType ≠ .executionRequested) :
    (produce event).Asks allowed := by
  apply Asks.bind
  · exact asks_request (passive _ rfl)
  intro _
  apply Asks.bind
  · exact asks_request (passive _ (bne_iff_ne.mpr announces))
  intro _
  trivial

theorem asks_produceOrLog {event : DomainEvent}
    (announces : event.eventType ≠ .executionRequested) :
    (produceOrLog event).Asks allowed := by
  apply Asks.attempt (asks_produce passive announces)
  intro error
  split <;> trivial

private theorem asks_announceAll {events : List DomainEvent}
    (announces : ∀ event ∈ events, event.eventType ≠ .executionRequested) :
    (ResultProcessor.announceAll events).Asks allowed := by
  induction events with
  | nil => trivial
  | cons event events inductionHypothesis =>
      apply Asks.bind
      · exact asks_produceOrLog passive (announces event (by simp))
      intro _
      exact inductionHypothesis fun other member =>
        announces other (List.mem_cons_of_mem _ member)

private theorem asks_publishResultStored (executionId : ExecutionId)
    (sizeBytes : Nat) (userId : UserId) (aggregateId : Option String) :
    (ResultProcessor.publishResultStored executionId sizeBytes userId
      aggregateId).Asks allowed := by
  apply Asks.bind
  · exact asks_request (passive _ rfl)
  intro eventId
  apply asks_produceOrLog passive
  rintro ⟨⟩

private theorem asks_publishResultFailed (executionId : ExecutionId)
    (userId : UserId) (aggregateId : Option String) :
    (ResultProcessor.publishResultFailed executionId userId
      aggregateId).Asks allowed := by
  apply Asks.bind
  · exact asks_request (passive _ rfl)
  intro eventId
  apply asks_produce passive
  rintro ⟨⟩

theorem asks_store {result : ExecutionResultDomain} {metadata : EventMetadata}
    {aggregateId : Option String} {announce : List DomainEvent}
    (announces : ∀ event ∈ announce, event.eventType ≠ .executionRequested)
    (writes : allowed (.writeTerminalResult result)) :
    (ResultProcessor.store result metadata aggregateId announce).Asks
      allowed := by
  apply Asks.bind
  · apply Asks.attempt
    · apply Asks.bind (asks_request writes)
      intro _
      trivial
    · intro error
      split
      · apply Asks.bind (asks_publishResultFailed passive _ _ _)
        intro _
        trivial
      · trivial
  intro written
  match written with
  | none => trivial
  | some false => trivial
  | some true =>
      apply Asks.bind (asks_announceAll passive announces)
      intro _
      exact asks_publishResultStored passive _ _ _ _

private theorem asks_withExecution {executionId : ExecutionId}
    {handle : ExecutionDocument → Program Unit}
    (handles : ∀ doc, (handle doc).Asks allowed) :
    (ResultProcessor.withExecution executionId handle).Asks allowed := by
  apply Asks.bind
  · exact asks_request (passive _ rfl)
  intro found
  cases found with
  | none => trivial
  | some doc => exact handles doc

private theorem asks_handleExecutionCompleted {event : ExecutionCompletedEvent}
    (writes : allowed (.writeTerminalResult
      (ResultProcessor.completedResult event))) :
    (ResultProcessor.handleExecutionCompleted event).Asks allowed := by
  apply asks_withExecution passive
  intro doc
  apply Asks.bind
  · exact asks_request (passive _ rfl)
  intro _
  exact asks_store passive (by simp [DomainEvent.eventType]) writes

private theorem asks_handleExecutionFailed {event : ExecutionFailedEvent}
    (writes : allowed (.writeTerminalResult
      (ResultProcessor.failedResult event))) :
    (ResultProcessor.handleExecutionFailed event).Asks allowed := by
  apply asks_withExecution passive
  intro doc
  exact asks_store passive (by simp [DomainEvent.eventType]) writes

private theorem asks_handleExecutionTimeout {event : ExecutionTimeoutEvent}
    (writes : allowed (.writeTerminalResult
      (ResultProcessor.timeoutResult event))) :
    (ResultProcessor.handleExecutionTimeout event).Asks allowed := by
  apply asks_withExecution passive
  intro doc
  exact asks_store passive (by simp [DomainEvent.eventType]) writes

private theorem asks_resultCancelled {event : ExecutionCancelledEvent}
    (writes : allowed (.writeTerminalResult
      (ResultProcessor.cancelledResult event))) :
    (ResultProcessor.handleExecutionCancelled event).Asks allowed := by
  apply asks_withExecution passive
  intro doc
  exact asks_store passive (by simp) writes

private theorem asks_handleLostRequest {executionId : ExecutionId}
    (writes : ∀ result, result.executionId = executionId →
      allowed (.writeTerminalResult result)) :
    (ResultProcessor.handleLostRequest executionId).Asks allowed := by
  apply asks_withExecution passive
  intro doc
  apply Asks.bind
  · exact asks_request (passive _ rfl)
  intro eventId
  exact asks_handleExecutionFailed passive (writes _ rfl)

section Mapping

open PodEventMapper

omit passive in
private theorem asks_intOf (text : List Char) :
    (intOf text : Program Int).Asks allowed := by
  unfold intOf
  split <;> trivial

omit passive in
private theorem asks_floatOf (text : List Char) :
    (floatOf text : Program PyFloat).Asks allowed := by
  unfold floatOf
  split <;> trivial

theorem asks_readOutput (name : PodName) (podNamespace : Option String) :
    (readOutput PodMonitor.podApi name podNamespace).Asks allowed := by
  apply Asks.attempt
  · apply Asks.bind
    · exact asks_request (passive _ rfl)
    intro logs
    trivial
  · intro error
    split <;> trivial

private theorem asks_extractLogs (ctx : PodContext) :
    (extractLogs PodMonitor.podApi ctx).Asks allowed := by
  unfold extractLogs
  split
  · trivial
  · dsimp only
    apply Asks.bind (asks_readOutput passive _ _)
    intro output
    cases output with
    | mk stdout stderr =>
        dsimp only
        -- Whatever the texts are; unification would try to evaluate them
        generalize TerminationMessage.parse _ = message
        generalize message.get "exit_code" _ = text
        apply Asks.bind
        · exact asks_intOf _
        intro exitCode
        apply Asks.bind
        · exact asks_floatOf _
        intro wallSeconds
        apply Asks.bind
        · exact asks_intOf _
        intro cpuJiffies
        apply Asks.bind
        · exact asks_intOf _
        intro clkTck
        apply Asks.bind
        · exact asks_intOf _
        intro peakMemoryKb
        exact Asks.pure _

private theorem asks_baseEvent (ctx : PodContext) :
    (baseEvent PodMonitor.podApi ctx).Asks allowed := by
  apply Asks.bind
  · exact asks_request (passive _ rfl)
  intro eventId
  trivial

/-- An event with the fields that every event of the pod gets. -/
theorem asks_withBase {α : Type} (ctx : PodContext)
    (build : BaseEvent → α) :
    (do
      let base ← baseEvent PodMonitor.podApi ctx
      pure (build base) : Program α).Asks allowed := by
  apply Asks.bind (asks_baseEvent passive ctx)
  intro base
  trivial

private theorem asks_mapCompleted (ctx : PodContext) :
    (mapCompleted PodMonitor.podApi ctx).Asks allowed := by
  apply Asks.bind (asks_extractLogs passive ctx)
  intro logs
  cases logs with
  | none => trivial
  | some logs => exact asks_withBase passive ctx _

private theorem asks_mapFailed (ctx : PodContext) :
    (mapFailed PodMonitor.podApi ctx).Asks allowed := by
  apply Asks.bind (asks_extractLogs passive ctx)
  intro logs
  exact asks_withBase passive ctx _

private theorem asks_checkTimeout (ctx : PodContext) :
    (checkTimeout PodMonitor.podApi ctx).Asks allowed := by
  unfold checkTimeout
  split
  · apply Asks.bind (asks_extractLogs passive ctx)
    intro logs
    exact asks_withBase passive ctx _
  · trivial

private theorem asks_phaseMapper (ctx : PodContext) :
    (phaseMapper PodMonitor.podApi ctx).Asks allowed := by
  unfold phaseMapper
  split
  · unfold mapScheduled
    dsimp only
    split
    · exact asks_withBase passive ctx _
    · trivial
  split
  · unfold mapRunning
    split
    · trivial
    · exact asks_withBase passive ctx _
  split
  · exact asks_mapCompleted passive ctx
  split
  · apply Asks.bind (asks_checkTimeout passive ctx)
    intro timeout
    cases timeout with
    | some timeout => trivial
    | none =>
        dsimp only
        split
        · exact asks_mapCompleted passive ctx
        · exact asks_mapFailed passive ctx
  · trivial

private theorem asks_mapPhase (ctx : PodContext) (priorPhase : Option String) :
    (mapPhase PodMonitor.podApi ctx priorPhase).Asks allowed := by
  apply Asks.bind (asks_checkTimeout passive ctx)
  intro timeout
  cases timeout with
  | some timeout => trivial
  | none =>
      dsimp only
      split
      · trivial
      · apply Asks.bind (asks_phaseMapper passive ctx)
        intro event
        trivial

/-- A deleted pod's termination comes after what its phase still owes. -/
theorem asks_withTerminated (ctx : PodContext)
    {owed : Program (List DomainEvent)} (asks : owed.Asks allowed)
    (cache : EventCache) :
    (do
      let events ← owed
      let terminated ← mapTerminated PodMonitor.podApi ctx
      pure (events ++ terminated.toList, cache) :
      Program (List DomainEvent × EventCache)).Asks allowed := by
  apply Asks.bind asks
  intro events
  apply Asks.bind
  · unfold mapTerminated
    split
    · trivial
    · exact asks_withBase passive ctx _
  intro terminated
  trivial

theorem asks_mapPodEvent (cache : EventCache) (pod : Pod)
    (eventType : WatchEventType) :
    (mapPodEvent PodMonitor.podApi cache pod eventType).Asks allowed := by
  unfold mapPodEvent
  dsimp only
  split
  · trivial
  split
  · split
    · exact asks_withTerminated passive _ (Asks.pure _) _
    · exact asks_withTerminated passive _ (asks_mapPhase passive _ _) _
  split
  · trivial
  · apply Asks.bind (asks_mapPhase passive _ _)
    intro events
    exact Asks.pure _

end Mapping

/-- Handling an event of the monitor writes a result or a step forward of the
event's execution. -/
theorem asks_handle {event : DomainEvent}
    (writes : ∀ result, result.executionId = event.executionId →
      allowed (.writeTerminalResult result))
    (advances : ∀ status, allowed (.advanceStatus event.executionId status)) :
    (PodMonitor.handle event).Asks allowed := by
  cases event with
  | executionCompleted completed =>
      exact asks_handleExecutionCompleted passive (writes _ rfl)
  | executionFailed failed =>
      exact asks_handleExecutionFailed passive (writes _ rfl)
  | executionTimeout timeout =>
      exact asks_handleExecutionTimeout passive (writes _ rfl)
  | podScheduled scheduled =>
      apply Asks.bind
      · exact asks_produceOrLog passive (by simp [DomainEvent.eventType])
      intro _
      apply Asks.bind
      · exact asks_request (advances _)
      intro _
      trivial
  | podRunning running =>
      apply Asks.bind
      · exact asks_produceOrLog passive (by simp [DomainEvent.eventType])
      intro _
      apply Asks.bind
      · exact asks_request (advances _)
      intro _
      trivial
  | podTerminated terminated =>
      exact asks_produceOrLog passive (by simp [DomainEvent.eventType])
  | _ => trivial

private theorem asks_handleAll {events : List DomainEvent}
    (writes : ∀ result, allowed (.writeTerminalResult result))
    (advances : ∀ executionId status,
      allowed (.advanceStatus executionId status)) :
    (PodMonitor.handleAll events).Asks allowed := by
  induction events with
  | nil => trivial
  | cons event events inductionHypothesis =>
      apply Asks.bind
      · exact asks_handle passive (fun result _ => writes result)
          (advances event.executionId)
      intro _
      exact inductionHypothesis

omit passive in
private theorem asks_deleteNamespacedPod {name : PodName}
    (deletes : allowed (.cluster (.deletePod name))) :
    (KubernetesWorker.deleteNamespacedPod name).Asks allowed := by
  apply Asks.attempt (asks_request deletes)
  intro error
  split <;> trivial

end Announcing

section Scheduling

theorem asks_releaseUserSlot {executionId : ExecutionId}
    (releases : ∀ command : QueueCommand, command.isRelease = true →
      allowed (.queue command)) :
    (ExecutionQueueService.releaseUserSlot executionId).Asks allowed := by
  apply Asks.attempt
  · apply Asks.bind
    · exact asks_request (releases _ rfl)
    intro found
    cases found with
    | none => trivial
    | some userId => exact asks_request (releases _ rfl)
  · intro error
    split <;> trivial

variable (passive : ∀ command : Command, command.isPassive = true →
    allowed command)
  (starts : ∀ command : Command, command.isStart = true → allowed command)
  (releases : ∀ command : QueueCommand, command.isRelease = true →
    allowed (.queue command))
  (writes : ∀ result, allowed (.writeTerminalResult result))

include passive starts

private theorem asks_createPod (settings : Settings)
    (event : ExecutionRequestedEvent) :
    (KubernetesWorker.createPod settings event).Asks allowed := by
  apply Asks.bind
  · apply Asks.bind
    · exact asks_request (starts _ rfl)
    intro file
    trivial
  intro entrypointContent
  apply Asks.bind
  · apply Asks.attempt (asks_request (starts _ rfl))
    intro error
    split <;> trivial
  intro _
  dsimp only
  split
  · trivial
  apply Asks.bind
  · apply Asks.attempt
    · apply Asks.bind
      · exact asks_request (starts _ rfl)
      intro _
      trivial
    · intro error
      split <;> trivial
  intro created
  apply Asks.bind
  · unfold KubernetesWorker.adoptConfigMap
    split
    · apply Asks.attempt (asks_request (starts _ rfl))
      intro error
      split <;> trivial
    · trivial
  intro _
  apply Asks.bind
  · exact asks_request (passive _ rfl)
  intro eventId
  exact asks_produceOrLog passive (by simp [DomainEvent.eventType])

include releases writes

theorem asks_startPod (deployment : Deployment) (executionId : ExecutionId)
    (event : ExecutionRequestedEvent) :
    (ExecutionScheduler.startPod deployment executionId event).Asks
      allowed := by
  apply Asks.attempt (asks_createPod passive starts _ event)
  intro error
  apply Asks.bind
  · exact asks_request (passive _ rfl)
  intro eventId
  apply Asks.bind (asks_handleExecutionFailed passive (writes _))
  intro _
  apply Asks.bind
  · exact asks_request (releases _ rfl)
  intro _
  exact asks_releaseUserSlot releases

end Scheduling

section Requests

/-- A submission reserves a slot, creates its record and announces its
request. -/
theorem asks_executeScript
    (passive : ∀ command : Command, command.isPassive = true →
      allowed command)
    (releases : ∀ command : QueueCommand, command.isRelease = true →
      allowed (.queue command))
    (writes : ∀ result, allowed (.writeTerminalResult result))
    (reserves : ∀ userId executionId now limit, allowed
      (.queue (.reserveUserSlot userId executionId now limit)))
    (creates : ∀ doc, allowed (.createExecution doc))
    (publishes : ∀ event, allowed (.publish (.executionRequested event)))
    (deployment : Deployment) (submission : Submission) :
    (ExecutionService.executeScript deployment submission).Asks allowed := by
  unfold ExecutionService.executeScript
  split
  · trivial
  apply Asks.bind
  · exact asks_request (passive _ rfl)
  intro effective
  split
  · trivial
  apply Asks.bind
  · exact asks_request (passive _ rfl)
  intro executionId
  apply Asks.bind
  · exact asks_request (passive _ rfl)
  intro now
  apply Asks.bind
  · apply Asks.bind
    · exact asks_request (passive _ rfl)
    intro _
    exact asks_request (reserves _ _ _ _)
  intro reserved
  split
  · trivial
  apply Asks.bind
  · apply Asks.attempt (asks_request (creates _))
    intro error
    apply Asks.bind (asks_releaseUserSlot releases)
    intro _
    trivial
  intro _
  apply Asks.bind
  · exact asks_request (passive _ rfl)
  intro eventId
  apply Asks.bind
  · apply Asks.attempt
    · apply Asks.bind
      · exact asks_request (passive _ rfl)
      intro _
      apply Asks.bind
      · exact asks_request (publishes _)
      intro _
      trivial
    · intro error
      apply Asks.bind (asks_releaseUserSlot releases)
      intro _
      apply Asks.bind
      · apply Asks.bind
        · exact asks_request (writes _)
        intro _
        trivial
      intro _
      trivial
  intro _
  trivial

end Requests

end Awaited

section Passes

variable {Local : Type} {typestate : Typestate Local Command Reply PyException}
  {holds : Local → Prop} {here : Local} {allowed : Command → Prop}
  (settled : ∀ command there, allowed command → holds there →
    typestate.awaits there command ∧
      ∀ reply, typestate.answers there command reply →
        holds (typestate.after there command reply))
  (stands : ∀ there, holds there → typestate.loops there)
  (schedules : ∀ maxActive there, holds there →
    typestate.Follows (ExecutionQueueService.trySchedule maxActive)
      (fun _ => holds) there)
  (passive : ∀ command : Command, command.isPassive = true → allowed command)
  (starts : ∀ command : Command, command.isStart = true → allowed command)
  (releases : ∀ command : QueueCommand, command.isRelease = true →
    allowed (.queue command))
  (writes : ∀ result, allowed (.writeTerminalResult result))

include settled stands schedules passive starts releases writes

/-- A round of a pass keeps what every hand-out of the queue and all its other
commands keep. -/
theorem follows_scheduleNext (deployment : Deployment) (maxActive : Nat)
    (begins : holds here) :
    typestate.Follows (ExecutionScheduler.scheduleNext deployment maxActive)
      (fun _ => holds) here := by
  apply Typestate.follows_bind_keeping
  · apply Typestate.follows_attempt_keeping
    · apply Typestate.follows_bind_keeping (schedules maxActive _ begins)
      intro scheduled there kept
      exact kept
    · intro error there kept
      split <;> exact kept
  intro scheduled there kept
  refine Typestate.follows_asks settled stands ?_ kept
  match scheduled with
  | .error executionId =>
      apply Asks.bind
        (asks_handleLostRequest passive fun result _ => writes result)
      intro _
      trivial
  | .ok none => trivial
  | .ok (some (executionId, event)) =>
      apply Asks.bind
        (asks_startPod passive starts releases writes deployment _ event)
      intro _
      trivial

/-- So does a pass. -/
theorem follows_schedulePending (deployment : Deployment)
    (begins : holds here) :
    typestate.Follows (ExecutionScheduler.schedulePending deployment)
      (fun _ => holds) here := by
  apply Typestate.follows_bind_keeping
  · exact Typestate.follows_asks settled stands
      (asks_request (passive _ rfl)) begins
  intro settings there kept
  apply Typestate.follows_bind_keeping
  · apply Typestate.follows_repeatWhile_keeping _ kept
    intro head goesOn
    exact ⟨stands head goesOn, follows_scheduleNext settled stands schedules
      passive starts releases writes deployment _ goesOn⟩
  intro _ there kept
  refine Typestate.follows_asks settled stands ?_ kept
  apply Asks.bind
  · apply Asks.bind
    · exact asks_request (passive _ rfl)
    intro now
    exact asks_request (passive _ rfl)
  intro status
  trivial

/-- So does the end of an execution. -/
theorem follows_finish (deployment : Deployment) (executionId : ExecutionId)
    (begins : holds here) :
    typestate.Follows (ExecutionScheduler.finish deployment executionId)
      (fun _ => holds) here := by
  apply Typestate.follows_bind_keeping
  · exact Typestate.follows_asks settled stands
      (asks_request (releases _ rfl)) begins
  intro _ there kept
  apply Typestate.follows_bind_keeping
  · exact Typestate.follows_asks settled stands
      (asks_releaseUserSlot releases) kept
  intro _ there kept
  exact follows_schedulePending settled stands schedules passive starts
    releases writes deployment kept

variable (advances : ∀ executionId status,
    allowed (.advanceStatus executionId status))
  (deletes : ∀ name, allowed (.cluster (.deletePod name)))

include advances deletes

/-- And so does a reported pod. -/
theorem follows_processPodEvent (deployment : Deployment) (cache : EventCache)
    (event : PodEvent) (begins : holds here) :
    typestate.Follows (PodMonitor.processPodEvent deployment cache event)
      (fun _ => holds) here := by
  apply Typestate.follows_bind_keeping
  · refine Typestate.follows_asks settled stands ?_ begins
    apply Asks.attempt
    · apply Asks.bind (asks_mapPodEvent passive _ _ _)
      intro mapped
      trivial
    · intro error
      trivial
  intro mapped there kept
  cases mapped with
  | none => exact kept
  | some mapped =>
      obtain ⟨events, after⟩ := mapped
      apply Typestate.follows_bind_keeping
      · refine Typestate.follows_asks settled stands ?_ kept
        apply Asks.attempt
        · apply Asks.bind (asks_handleAll passive (fun result => writes result)
            advances)
          intro _
          trivial
        · intro error
          trivial
      intro handled there kept
      dsimp only
      split
      · apply Typestate.follows_bind_keeping
        · apply Typestate.follows_attempt_keeping
          · split
            · apply Typestate.follows_bind_keeping
              · refine Typestate.follows_asks settled stands ?_ kept
                unfold PodMonitor.deletePod
                split
                · exact asks_deleteNamespacedPod (deletes _)
                · trivial
              intro _ there kept
              exact follows_finish settled stands schedules passive starts
                releases writes deployment _ kept
            · exact kept
          · intro error there kept
            exact kept
        intro _ there kept
        exact kept
      · exact kept

/-- The monitor keeps it over all reports. -/
theorem follows_watchPodEvents (deployment : Deployment) (cache : EventCache)
    (events : List PodEvent)
    (reports : ∀ event, allowed (.cluster (.report event)))
    (begins : holds here) :
    typestate.Follows (PodMonitor.watchPodEvents deployment cache events)
      (fun _ => holds) here := by
  induction events generalizing cache here with
  | nil => exact begins
  | cons event events inductionHypothesis =>
      apply Typestate.follows_bind_keeping
      · exact Typestate.follows_asks settled stands
          (asks_request (reports event)) begins
      intro _ there kept
      apply Typestate.follows_bind_keeping
      · exact follows_processPodEvent settled stands schedules passive starts
          releases writes advances deletes deployment cache event kept
      intro after there kept
      exact inductionHypothesis after kept

omit advances in
/-- A cancellation keeps it when taking the execution out of the queue does. -/
theorem follows_handleExecutionCancelled (deployment : Deployment)
    (event : ExecutionCancelledEvent)
    (removes : allowed (.queue (.remove event.executionId)))
    (begins : holds here) :
    typestate.Follows
      (ExecutionScheduler.handleExecutionCancelled deployment event)
      (fun _ => holds) here := by
  apply Typestate.follows_bind_keeping
  · exact Typestate.follows_asks settled stands
      (asks_request removes) begins
  intro _ there kept
  apply Typestate.follows_bind_keeping
  · exact Typestate.follows_asks settled stands
      (asks_resultCancelled passive (writes _)) kept
  intro _ there kept
  apply Typestate.follows_bind_keeping
  · exact Typestate.follows_asks settled stands
      (asks_deleteNamespacedPod (deletes _)) kept
  intro _ there kept
  exact follows_finish settled stands schedules passive starts releases writes
    deployment _ kept

end Passes

/-! ### The execution that concrete runs are about -/

/-- A request to print a number. -/
def printRequest : ExecutionRequestedEvent where
  eventId := "request"
  executionId := "x"
  script := "print(1)"
  language := "python"
  languageVersion := "3.14"
  runtimeImage := "python:3.14"
  runtimeCommand := ["python"]
  runtimeFilename := "main.py"
  timeoutSeconds := 30
  cpuLimit := "1000m"
  memoryLimit := "128Mi"
  cpuRequest := "1000m"
  memoryRequest := "128Mi"
  metadata :=
    { serviceName := "execution-service"
      serviceVersion := "2.0.0"
      userId := "u" }

/-- Its record, in this status. -/
def printRecord (status : ExecutionStatus) : ExecutionDocument where
  executionId := "x"
  script := "print(1)"
  lang := "python"
  langVersion := "3.14"
  userId := some "u"
  status := status
  createdAt := 0
  updatedAt := 0

end Integr8s
