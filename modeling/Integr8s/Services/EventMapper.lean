/-
Module: Integr8s.Services.EventMapper
Purpose: The mapping of reported pods to events: the termination message, the
  framed output and the analysis of a failure, and the cache of the phases whose
  events went out.
Trusted boundary: human-reviewed spec
Main exports: TerminationMessage.parse, parseFramedOutput, PodApi,
  PodEventMapper.extractLogs, PodEventMapper.mapPhase,
  PodEventMapper.mapPodEvent, EventCache
-/
import Integr8s.Domain.Pods
import Integr8s.Domain.Exceptions
import Integr8s.Lib.PythonBytes
import Mathlib.Data.List.AList

namespace Integr8s

/-! ### What a pod reports of its script -/

/-- The values of a termination message by their keys. -/
abbrev TerminationMessage := AList fun _ : List Char => List Char

namespace TerminationMessage

/-- Parse key=value metadata from a termination message; of two values of one
key the later one counts. -/
def parse (raw : String) : TerminationMessage :=
  (PyText.splitlines (PyText.strip raw.toList)).foldl (fun message line =>
    match PyText.partition '=' line with
    | (key, true, value) => message.insert key value
    | (_, false, _) => message) ∅

def get (message : TerminationMessage) (key : String)
    (default : List Char) : List Char :=
  (message.lookup key.toList).getD default

end TerminationMessage

/-- Extract stdout and stderr from the entrypoint's framed output, whose
lengths count bytes, or `none` where a part of the frame is missing. -/
def framedOutput (logs : PyBytes) : Option (PyBytes × PyBytes) := do
  let stdoutAt ← logs.index (PyBytes.ofAscii "STDOUT ") 0
  let stdoutAt := stdoutAt + 7
  let line ← logs.index (PyBytes.ofAscii "\n") stdoutAt
  let stdoutLength ← (logs.slice stdoutAt line).parseInt
  let stdout := logs.slice (line + 1) (line + 1 + stdoutLength)
  let stderrAt ←
    logs.index (PyBytes.ofAscii "STDERR ") (line + 1 + stdoutLength)
  let stderrAt := stderrAt + 7
  let line ← logs.index (PyBytes.ofAscii "\n") stderrAt
  let stderrLength ← (logs.slice stderrAt line).parseInt
  pure (stdout, logs.slice (line + 1) (line + 1 + stderrLength))

/-- A frame that cannot be read leaves the output empty. -/
def parseFramedOutput (logs : PyBytes) : String × String :=
  match framedOutput logs with
  | some (stdout, stderr) => (stdout.decodeReplace, stderr.decodeReplace)
  | none => ("", "")

/-- A finished pod's output and result; the output is empty, with a note in
stderr, when the log can't be read. -/
structure PodLogs where
  stdout : String
  stderr : String
  exitCode : Int
  resourceUsage : ResourceUsageDomain
deriving DecidableEq, Repr

/-- Pod failure analysis result. -/
structure FailureInfo where
  message : String
  errorType : ExecutionErrorType
  exitCode : Option Int := none
deriving DecidableEq, Repr

/-- Context for pod event processing. -/
structure PodContext where
  pod : Pod
  name : PodName
  podNamespace : Option String
  executionId : ExecutionId
  metadata : EventMetadata
  phase : String
deriving DecidableEq, Repr

/-! ### The cache of reported phases -/

/-- The phases whose events went out, newest pod first. -/
abbrev EventCache := AList fun _ : PodName => String

namespace EventCache

def maxCacheSize : Nat := 10000

/-- Evict the oldest half of a full cache. -/
def evict (cache : EventCache) : EventCache :=
  if maxCacheSize ≤ cache.entries.length then
    ⟨cache.entries.take (cache.entries.length - maxCacheSize / 2),
      cache.nodupKeys.sublist (List.take_sublist _ _)⟩
  else cache

/-- Record the phase a pod's events went out for. -/
def remember (cache : EventCache) (name : PodName) (phase : String) :
    EventCache :=
  let cache := cache.evict
  if name ∈ cache then cache.replace name phase else cache.insert name phase

end EventCache

/-- What the mapper awaits: the first bytes of a pod's log, at most as many as
it asks for, and the id of a new event. -/
structure PodApi (m : Type → Type u) where
  readPodLog : PodName → String → Nat → m PyBytes
  newEventId : m EventId

namespace PodEventMapper

/-- The log is read from its start, so that the STDOUT header survives. -/
def maxLogBytes : Nat := 2 * 1024 * 1024

/-- `text or default`. -/
def textOr (text : Option String) (default : String) : String :=
  match text with
  | some text => if text = "" then default else text
  | none => default

/-- The value of a label or an annotation, unless it is empty. -/
def labelled (labels : List (String × String)) (key : String) :
    Option String :=
  (labels.lookup key).filter fun value => value ≠ ""

/-- Extract the execution ID from the pod's label, annotation or name; an
empty one counts as missing. -/
def extractExecutionId (metadata : ObjectMeta) : Option ExecutionId :=
  match labelled metadata.labels "execution-id" with
  | some executionId => some executionId
  | none =>
      match labelled metadata.annotations "integr8s.io/execution-id" with
      | some executionId => some executionId
      | none =>
          if metadata.name.startsWith "exec-" ∧
              (metadata.name.drop 5).copy ≠ "" then
            some (metadata.name.drop 5).copy
          else none

def createMetadata (metadata : ObjectMeta) : EventMetadata where
  userId := (metadata.labels.lookup "user-id").getD ""
  serviceName := "pod-monitor"
  serviceVersion := "1.0.0"

/-- Get the main (first) container status. -/
def getMainContainer (pod : Pod) : Option ContainerStatus :=
  pod.status.bind fun status => status.containerStatuses.head?

def terminatedState (container : ContainerStatus) :
    Option ContainerStateTerminated :=
  container.state.bind ContainerState.terminated

/-- Check if all containers terminated with exit code 0. -/
def allContainersSucceeded (pod : Pod) : Bool :=
  match pod.status with
  | none => false
  | some status =>
      !status.containerStatuses.isEmpty &&
        status.containerStatuses.all fun container =>
          match terminatedState container with
          | some terminated => terminated.exitCode == 0
          | none => false

def formatContainerState : Option ContainerState → String
  | none => "unknown"
  | some state =>
      if state.running then "running"
      else match state.terminated, state.waiting with
        | some terminated, _ =>
            "terminated (exit_code=" ++ toString terminated.exitCode.toInt ++
              ")"
        | none, some waiting =>
            "waiting (" ++ waiting.reason.getD "None" ++ ")"
        | none, none => "unknown"

/-- The errors of a container that cannot start. -/
def waitingError : Option String → Option ExecutionErrorType
  | some "ImagePullBackOff" => some .systemError
  | some "ErrImagePull" => some .systemError
  | some "CrashLoopBackOff" => some .scriptError
  | _ => none

/-- What the state of one container says about a failure. -/
def containerFailure (status : PodStatus) (container : ContainerStatus) :
    Option FailureInfo :=
  let state := container.state.getD {}
  match state.terminated.filter fun terminated => terminated.exitCode ≠ 0 with
  | some terminated =>
      some
        { message := textOr terminated.message (textOr status.message
            ("Container exited with code " ++
              toString terminated.exitCode.toInt))
          errorType := .scriptError
          exitCode := some terminated.exitCode.toInt }
  | none =>
      state.waiting.bind fun waiting =>
        (waitingError waiting.reason).map fun errorType =>
          { message := textOr waiting.message
              ("Container waiting: " ++ waiting.reason.getD "None")
            errorType := errorType }

/-- Whether a text mentions a part. -/
def mentions (text part : String) : Bool :=
  text.toList.tails.any part.toList.isPrefixOf

/-- Analyze pod failure and determine error type. -/
def analyzeFailure (pod : Pod) : FailureInfo :=
  match pod.status with
  | none => { message := "Pod failed", errorType := .systemError }
  | some status =>
      if status.reason = some "Evicted" then
        { message := "Pod evicted due to resource constraints"
          errorType := .resourceLimit }
      else match status.containerStatuses.findSome? (containerFailure status)
        with
        | some failure => failure
        | none =>
            if mentions (textOr status.message "") "OOMKilled" then
              { message := "Container killed due to out of memory"
                errorType := .resourceLimit }
            else
              { message := textOr status.message "Pod failed"
                errorType := .systemError }

/-! ### From pods to events -/

section Mapping

variable {m : Type → Type u} [Monad m] [MonadExceptOf PyException m]
  (api : PodApi m)

/-- `int(text)`. -/
def intOf (text : List Char) : m Int :=
  match PyText.parseInt text with
  | some number => pure number
  | none => throw .valueError

/-- `float(text)`. -/
def floatOf (text : List Char) : m PyFloat :=
  match PyText.parseFloat text with
  | some number => pure number
  | none => throw .valueError

def unreadableOutput : String :=
  "The output couldn't be read from the pod's log."

/-- A finished pod's output, or a note in stderr when the log can't be
read. -/
def readOutput (name : PodName) (podNamespace : Option String) :
    m (String × String) :=
  tryCatch (do
      let logs ← api.readPodLog name (textOr podNamespace "integr8scode")
        maxLogBytes
      pure (parseFramedOutput logs))
    fun error =>
      if error.isReadError then pure ("", unreadableOutput)
      else throw error

/-- Read a finished pod's result, or nothing while its main container hasn't
terminated.  The exit code and usage come from the termination message. -/
def extractLogs (ctx : PodContext) : m (Option PodLogs) :=
  match (getMainContainer ctx.pod).bind terminatedState with
  | none => pure none
  | some terminated => do
      let message := TerminationMessage.parse (terminated.message.getD "")
      let (stdout, stderr) ← readOutput api ctx.name ctx.podNamespace
      let exitCode ← intOf (message.get "exit_code"
        (toString terminated.exitCode.toInt).toList)
      let wallSeconds ← floatOf (message.get "wall_seconds" ['0'])
      let cpuJiffies ← intOf (message.get "cpu_jiffies" ['0'])
      let clkTck ← intOf (message.get "clk_tck" ['1', '0', '0'])
      let peakMemoryKb ← intOf (message.get "peak_memory_kb" ['0'])
      pure (some
        { exitCode := exitCode
          stdout := stdout
          stderr := stderr
          resourceUsage :=
            { executionTimeWallSeconds := wallSeconds
              cpuTimeJiffies := cpuJiffies
              clkTckHertz := clkTck
              peakMemoryKb := peakMemoryKb } })

/-- The fields that every event of a pod gets. -/
def baseEvent (ctx : PodContext) : m BaseEvent := do
  let eventId ← api.newEventId
  pure
    { eventId := eventId
      aggregateId := some ctx.executionId
      metadata := ctx.metadata }

/-- Map a pending pod to its scheduled event. -/
def mapScheduled (ctx : PodContext) : m (Option DomainEvent) := do
  let scheduled := (ctx.pod.status.map PodStatus.conditions).any fun found =>
    found.any fun condition =>
      condition.type == "PodScheduled" && condition.status == "True"
  if scheduled then do
    let base ← baseEvent api ctx
    pure (some (.podScheduled
      { base with
        executionId := ctx.executionId
        podName := ctx.name
        nodeName := textOr ctx.pod.spec.nodeName "pending" }))
  else pure none

/-- Map a running pod to its running event. -/
def mapRunning (ctx : PodContext) : m (Option DomainEvent) :=
  match ctx.pod.status with
  | none => pure none
  | some status => do
      let base ← baseEvent api ctx
      pure (some (.podRunning
        { base with
          executionId := ctx.executionId
          podName := ctx.name
          containerStatuses := status.containerStatuses.map fun container =>
            { name := container.name
              ready := container.ready
              restartCount := container.restartCount.toInt
              state := formatContainerState container.state } }))

/-- Map a succeeded pod to its completed event. -/
def mapCompleted (ctx : PodContext) : m (Option DomainEvent) := do
  match ← extractLogs api ctx with
  | none => pure none
  | some logs => do
      let base ← baseEvent api ctx
      pure (some (.executionCompleted
        { base with
          executionId := ctx.executionId
          exitCode := logs.exitCode
          resourceUsage := logs.resourceUsage
          stdout := logs.stdout
          stderr := logs.stderr }))

/-- Map a failed pod to its failed event; the container's exit code and
message fill what the log doesn't say. -/
def mapFailed (ctx : PodContext) : m (Option DomainEvent) := do
  let errorInfo := analyzeFailure ctx.pod
  let logs ← extractLogs api ctx
  let base ← baseEvent api ctx
  pure (some (.executionFailed
    { base with
      executionId := ctx.executionId
      errorType := errorInfo.errorType
      exitCode := errorInfo.exitCode.getD
        ((logs.map PodLogs.exitCode).getD 1)
      stdout := (logs.map PodLogs.stdout).getD ""
      stderr := textOr (logs.map PodLogs.stderr) errorInfo.message
      resourceUsage := logs.map PodLogs.resourceUsage }))

/-- Map a pod that ran out of its time to its timeout event.  A pod can be
over its deadline while its containers already exited 0. -/
def checkTimeout (ctx : PodContext) : m (Option DomainEvent) :=
  if ctx.pod.status.bind PodStatus.reason = some "DeadlineExceeded" ∧
      allContainersSucceeded ctx.pod = false then do
    let logs ← extractLogs api ctx
    let logs := logs.getD
      { stdout := ""
        stderr := unreadableOutput
        exitCode := -1
        resourceUsage := {} }
    let base ← baseEvent api ctx
    pure (some (.executionTimeout
      { base with
        executionId := ctx.executionId
        timeoutSeconds := ctx.pod.spec.activeDeadlineSeconds.getD 0
        resourceUsage := logs.resourceUsage
        stdout := logs.stdout
        stderr := logs.stderr }))
  else pure none

/-- Map a failed pod to its timeout, completed or failed event. -/
def mapFailedOrCompleted (ctx : PodContext) : m (Option DomainEvent) := do
  match ← checkTimeout api ctx with
  | some timeout => pure (some timeout)
  | none =>
      if allContainersSucceeded ctx.pod then mapCompleted api ctx
      else mapFailed api ctx

/-- The mapper of a phase. -/
def phaseMapper (ctx : PodContext) : m (Option DomainEvent) :=
  if ctx.phase = "Pending" then mapScheduled api ctx
  else if ctx.phase = "Running" then mapRunning api ctx
  else if ctx.phase = "Succeeded" then mapCompleted api ctx
  else if ctx.phase = "Failed" then mapFailedOrCompleted api ctx
  else pure none

/-- Map the pod's phase to its events; a timed-out pod yields only its
timeout, and a pod that just started running yields nothing before its
containers report. -/
def mapPhase (ctx : PodContext) (priorPhase : Option String) :
    m (List DomainEvent) := do
  match ← checkTimeout api ctx with
  | some timeout => pure [timeout]
  | none =>
      let containers :=
        (ctx.pod.status.map PodStatus.containerStatuses).getD []
      if ctx.phase = "Running" ∧ containers = [] ∧
          priorPhase = some "Pending" then pure []
      else do
        let event ← phaseMapper api ctx
        pure event.toList

/-- Map a deleted pod to its terminated event. -/
def mapTerminated (ctx : PodContext) : m (Option DomainEvent) :=
  match (getMainContainer ctx.pod).bind terminatedState with
  | none => pure none
  | some terminated => do
      let base ← baseEvent api ctx
      pure (some (.podTerminated
        { base with
          executionId := ctx.executionId
          podName := ctx.name
          exitCode := terminated.exitCode.toInt
          reason := some (textOr terminated.reason "Terminated")
          message := terminated.message }))

/-- The context of a pod whose metadata and execution ID are known. -/
def contextOf (pod : Pod) (metadata : ObjectMeta)
    (executionId : ExecutionId) : PodContext where
  pod := pod
  name := metadata.name
  podNamespace := metadata.namespace
  executionId := executionId
  metadata := createMetadata metadata
  phase := (pod.status.map PodStatus.phase).getD "Unknown"

/-- Map a pod to application events.  A phase counts as seen only once it
produced an event, so a later event in that phase tries again; a deleted pod
gets what its phase still owes, then its termination, and leaves the cache. -/
def mapPodEvent (cache : EventCache) (pod : Pod)
    (eventType : WatchEventType) : m (List DomainEvent × EventCache) :=
  let identified := pod.metadata.bind fun metadata =>
    (extractExecutionId metadata).map fun executionId =>
      (metadata, executionId)
  match identified with
  | none => pure ([], cache)
  | some (metadata, executionId) => do
      let ctx := contextOf pod metadata executionId
      let priorPhase := cache.lookup ctx.name
      if eventType = .deleted then do
        let events ←
          if priorPhase = some ctx.phase then pure []
          else mapPhase api ctx priorPhase
        let terminated ← mapTerminated api ctx
        pure (events ++ terminated.toList, cache.erase ctx.name)
      else if priorPhase = some ctx.phase then pure ([], cache)
      else do
        let events ← mapPhase api ctx priorPhase
        pure (events,
          if events.isEmpty then cache else cache.remember ctx.name ctx.phase)

end Mapping

end PodEventMapper

end Integr8s
