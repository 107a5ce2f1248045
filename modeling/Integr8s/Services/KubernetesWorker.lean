/-
Module: Integr8s.Services.KubernetesWorker
Purpose: The worker that creates an execution's pod once it has a slot, and
  deletes the pod of a cancelled one.
Trusted boundary: human-reviewed spec
Main exports: Deployment, podNameOf, PodBuilder.buildPodManifest,
  KubernetesWorker.createPod, KubernetesWorker.deletePod
-/
import Integr8s.Services.ResultProcessor
import Integr8s.Domain.Quantities
import Integr8s.Domain.Runtimes

namespace Integr8s

/-- The settings that the services are built with, and the text of an
exception, which its class decides. -/
structure Deployment where
  settings : Settings := {}
  text : PyException → String := fun _ => ""

/-- The name of an execution's pod. -/
def podNameOf (executionId : ExecutionId) : PodName :=
  "executor-" ++ executionId

/-- The name of an execution's ConfigMap. -/
def configMapNameOf (executionId : ExecutionId) : String :=
  "script-" ++ executionId

namespace PodBuilder

variable (settings : Settings)

/-- K8s limits the value of a label. -/
def maxLabelLength : Nat := 63

def buildPodMetadata (name : PodName) (executionId : ExecutionId)
    (userId : UserId) (language : String) : ObjectMeta where
  name := name
  «namespace» := some settings.k8sNamespace
  labels :=
    [("app", "integr8s"), ("component", "executor"),
      ("execution-id", executionId), ("language", language),
      ("user-id", (userId.take maxLabelLength).copy)]
  annotations :=
    [("integr8s.io/execution-id", executionId),
      ("integr8s.io/created-by", "kubernetes-worker"),
      ("integr8s.io/language", language)]

/-- The event's values come before the settings, and the limits are raised to
the language's minimum. -/
def buildResources (event : ExecutionRequestedEvent)
    (podConfig : PodRuntimeConfig) :
    Except PyException ResourceRequirements := do
  let cpuLimit ← atLeast (valueOr event.cpuLimit settings.k8sPodCpuLimit)
    podConfig.minCpu
  let memoryLimit ← atLeast
    (valueOr event.memoryLimit settings.k8sPodMemoryLimit) podConfig.minMemory
  pure
    { cpuRequest := valueOr event.cpuRequest settings.k8sPodCpuRequest
      memoryRequest :=
        valueOr event.memoryRequest settings.k8sPodMemoryRequest
      cpuLimit := cpuLimit
      memoryLimit := memoryLimit }

def buildContainer (event : ExecutionRequestedEvent)
    (podConfig : PodRuntimeConfig) : Except PyException Container := do
  let resources ← buildResources settings event podConfig
  pure
    { name := "executor"
      image := event.runtimeImage
      command := ["/bin/sh", "/entry/entrypoint.sh"] ++ event.runtimeCommand
      resources := resources
      env := [("EXECUTION_ID", event.executionId), ("OUTPUT_PATH", "/output")]
        ++ podConfig.env }

/-- The timeout is enforced by the deadline of the pod. -/
def buildPodSpec (container : Container) (event : ExecutionRequestedEvent)
    (podConfig : PodRuntimeConfig) : PodSpec where
  containers := [container]
  activeDeadlineSeconds := some (podConfig.timeoutFor
    (if event.timeoutSeconds = 0 then 300 else event.timeoutSeconds))
  tmpSizeLimit := some podConfig.tmpSize

def buildPodManifest (event : ExecutionRequestedEvent) :
    Except PyException Pod := do
  let podConfig := podRuntimeConfig event.language
  let container ← buildContainer settings event podConfig
  pure
    { metadata := some (buildPodMetadata settings
        (podNameOf event.executionId) event.executionId event.metadata.userId
        event.language)
      spec := buildPodSpec container event podConfig }

/-- The data of the ConfigMap for script and entrypoint. -/
def configMapData (event : ExecutionRequestedEvent)
    (entrypointContent : String) : List (String × String) :=
  [(event.runtimeFilename, event.script),
    ("entrypoint.sh", entrypointContent)]

end PodBuilder

namespace KubernetesWorker

/-- Await a command of the cluster. -/
abbrev await (command : ClusterCommand) : Program (ClusterReply command) :=
  request (.cluster command)

/-- The entrypoint when there is no file with it. -/
def defaultEntrypoint : String :=
  "#!/bin/bash\n" ++ "set -e\n\n" ++ "# Set up output directory\n" ++
    "OUTPUT_DIR=\"$\x7bOUTPUT_PATH:-/output\x7d\"\n" ++
    "mkdir -p \"$OUTPUT_DIR\"\n\n" ++ "# Redirect output\n" ++
    "exec > >(tee -a \"$OUTPUT_DIR/stdout.log\")\n" ++
    "exec 2> >(tee -a \"$OUTPUT_DIR/stderr.log\" >&2)\n\n" ++
    "# Execute the script\n" ++ "cd /script\n" ++ "exec \"$@\"\n"

/-- Get entrypoint script content. -/
def getEntrypointScript : Program String := do
  let file ← await .readEntrypoint
  pure (file.getD defaultEntrypoint)

/-- Create the ConfigMap; one that already exists stays. -/
def createConfigMap (name : String) (data : List (String × String)) :
    Program Unit :=
  (await (.createConfigMap name data)).attempt fun error =>
    if error = .apiException 409 then pure () else Coroutine.raise error

/-- Create the pod; false when it already existed. -/
def createNamespacedPod (name : PodName) (pod : Pod) : Program Bool :=
  let create : Program Bool := do
    let _ ← await (.createPod name pod)
    pure true
  create.attempt fun error =>
    if error = .apiException 409 then pure false else Coroutine.raise error

/-- Set the ownerReference with which K8s garbage-collects the ConfigMap.  An
error of the API is only logged. -/
def setConfigMapOwner (name : String) (owner : PodName) : Program Unit :=
  (await (.setConfigMapOwner name owner)).attempt fun error =>
    match error with
    | .apiException _ => pure ()
    | error => Coroutine.raise error

/-- A pod that was created owns its ConfigMap; one that already existed keeps
what it owns. -/
def adoptConfigMap (created : Bool) (name : String) (owner : PodName) :
    Program Unit :=
  if created then setConfigMapOwner name owner else pure ()

/-- Publish pod created event. -/
def publishPodCreated (settings : Settings)
    (event : ExecutionRequestedEvent) : Program Unit := do
  let eventId ← request .uuid
  produceOrLog (.podCreated
    { eventId := eventId
      aggregateId := event.aggregateId
      executionId := event.executionId
      podName := podNameOf event.executionId
      podNamespace := settings.k8sNamespace
      metadata := event.metadata })

/-- Create the ConfigMap and pod for an execution, then publish
`pod_created`. -/
def createPod (settings : Settings) (event : ExecutionRequestedEvent) :
    Program Unit := do
  let entrypointContent ← getEntrypointScript
  let configMap := configMapNameOf event.executionId
  createConfigMap configMap (PodBuilder.configMapData event entrypointContent)
  let name := podNameOf event.executionId
  match PodBuilder.buildPodManifest settings event with
  | .error error => Coroutine.raise error
  | .ok pod => do
      let created ← createNamespacedPod name pod
      adoptConfigMap created configMap name
      publishPodCreated settings event

/-- Delete a pod at once; K8s garbage-collects its ConfigMap through the
ownerReference.  An error of the API is only logged. -/
def deleteNamespacedPod (name : PodName) : Program Unit :=
  (await (.deletePod name)).attempt fun error =>
    match error with
    | .apiException _ => pure ()
    | error => Coroutine.raise error

/-- Delete an execution's pod; a queued execution has none yet. -/
def deletePod (executionId : ExecutionId) : Program Unit :=
  deleteNamespacedPod (podNameOf executionId)

end KubernetesWorker

end Integr8s
