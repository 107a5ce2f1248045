/-
Module: Integr8s.Services.PodMonitor
Purpose: The monitor that maps reported pods to events, stores what they
  report, publishes lifecycle events and frees the slots of finished
  executions.
Trusted boundary: human-reviewed spec
Main exports: PodMonitor.handle, PodMonitor.processPodEvent,
  PodMonitor.watchPodEvents
-/
import Integr8s.Services.EventMapper
import Integr8s.Services.ExecutionScheduler

namespace Integr8s

namespace PodMonitor

/-- What the mapper awaits of the cluster. -/
def podApi : PodApi Program where
  readPodLog name podNamespace limitBytes :=
    request (.cluster (.readPodLog name podNamespace limitBytes))
  newEventId := request .uuid

/-- Store a finished execution's result, or publish a pod event and store the
status it implies. -/
def handle (event : DomainEvent) : Program Unit :=
  match event with
  | .executionCompleted completed =>
      ResultProcessor.handleExecutionCompleted completed
  | .executionFailed failed => ResultProcessor.handleExecutionFailed failed
  | .executionTimeout timeout =>
      ResultProcessor.handleExecutionTimeout timeout
  | .podScheduled scheduled => do
      produceOrLog event
      ResultProcessor.handlePodProgress scheduled.executionId .scheduled
  | .podRunning running => do
      produceOrLog event
      ResultProcessor.handlePodProgress running.executionId .running
  | .podTerminated _ => produceOrLog event
  | _ => pure ()

/-- Handle events one after the other. -/
def handleAll : List DomainEvent → Program Unit
  | [] => pure ()
  | event :: events => do
      handle event
      handleAll events

/-- Map a reported pod.  The cache changes with the mapping, before anything
is handled. -/
def mapReport (cache : EventCache) (event : PodEvent) :
    Program (Option (List DomainEvent × EventCache)) :=
  let mapped : Program (Option (List DomainEvent × EventCache)) := do
    let mapped ← PodEventMapper.mapPodEvent podApi cache event.pod
      event.eventType
    pure (some mapped)
  mapped.attempt fun _ => pure none

/-- Handle what a pod was mapped to; an error is logged, and false says that
there was one. -/
def handleReport (events : List DomainEvent) : Program Bool :=
  let handled : Program Bool := do
    handleAll events
    pure true
  handled.attempt fun _ => pure false

/-- Delete a pod after its data has been fully extracted. -/
def deletePod (pod : Pod) : Program Unit :=
  match pod.metadata with
  | some metadata => KubernetesWorker.deleteNamespacedPod metadata.name
  | none => pure ()

/-- Delete a finished pod and free its execution's slots. -/
def endPod (deployment : Deployment) (pod : Pod) (executionId : ExecutionId) :
    Program Unit := do
  deletePod pod
  ExecutionScheduler.finish deployment executionId

/-- Process a pod event.  An error of the mapping or of the handling ends it
here; the cache stays what the mapping made of it. -/
def processPodEvent (deployment : Deployment) (cache : EventCache)
    (event : PodEvent) : Program EventCache := do
  match ← mapReport cache event with
  | none => pure cache
  | some (events, cache) => do
      let handled ← handleReport events
      let terminal := events.any fun event =>
        event.eventType.isExecutionTerminal
      if handled && terminal then do
        -- An error here ends the watch, and the next one goes on
        let ending : Program Unit :=
          match events.head? with
          | some first => endPod deployment event.pod first.executionId
          | none => pure ()
        ending.attempt fun _ => pure ()
        pure cache
      else pure cache

/-- Process the events that the watch reports, one after the other. -/
def watchPodEvents (deployment : Deployment) :
    EventCache → List PodEvent → Program Unit
  | _, [] => pure ()
  | cache, event :: events => do
      request (.cluster (.report event))
      let cache ← processPodEvent deployment cache event
      watchPodEvents deployment cache events

end PodMonitor

end Integr8s
