/-
Module: Integr8s.Proofs.PodOutput
Purpose: Which termination messages of a finished pod yield its one terminal
  event, with numbers that the store can hold: for every pod, message and log,
  with a message that raises and one whose number doesn't fit as
  counterexamples.
Trusted boundary: none
Main exports: PodOutput.FinishedPod, PodOutput.Legible, PodOutput.Storable,
  PodOutput.terminal_event_iff
-/
import Integr8s.Services.EventMapper
import Mathlib.Algebra.Order.Ring.Int

namespace Integr8s

namespace PodOutput

open PodEventMapper

/-- A pod of an execution that is in phase Succeeded or Failed, and whose main
container has terminated. -/
structure FinishedPod where
  pod : Pod
  metadata : ObjectMeta
  executionId : ExecutionId
  status : PodStatus
  terminated : ContainerStateTerminated
  has_metadata : pod.metadata = some metadata
  identified : extractExecutionId metadata = some executionId
  has_status : pod.status = some status
  finished : status.phase = "Succeeded" ∨ status.phase = "Failed"
  main : (getMainContainer pod).bind terminatedState = some terminated

/-- A signed 64-bit number. -/
def FitsInt64 (number : Int) : Prop :=
  -2 ^ 63 ≤ number ∧ number < 2 ^ 63

/-- The numbers of a resource usage fit. -/
def StorableUsage (usage : ResourceUsageDomain) : Prop :=
  FitsInt64 usage.cpuTimeJiffies ∧ FitsInt64 usage.clkTckHertz ∧
    FitsInt64 usage.peakMemoryKb

/-- The numbers of a terminal event fit. -/
def Storable : DomainEvent → Prop
  | .executionCompleted event =>
      FitsInt64 event.exitCode ∧ StorableUsage event.resourceUsage
  | .executionFailed event =>
      FitsInt64 event.exitCode ∧
        ∀ usage, event.resourceUsage = some usage → StorableUsage usage
  | .executionTimeout event => StorableUsage event.resourceUsage
  | _ => True

def isTerminal (event : DomainEvent) : Bool :=
  event.eventType.isExecutionTerminal

namespace FinishedPod

variable (finished : FinishedPod)

def message : TerminationMessage :=
  TerminationMessage.parse (finished.terminated.message.getD "")

def timedOut : Bool :=
  finished.status.reason == some "DeadlineExceeded" &&
    !allContainersSucceeded finished.pod

/-- The terminal event reports the exit code of the message: the pod didn't
time out, and it is completed or no container says how it failed. -/
def reportsExitCode : Bool :=
  !finished.timedOut &&
    (finished.status.phase == "Succeeded" ||
      allContainersSucceeded finished.pod ||
      (analyzeFailure finished.pod).exitCode.isNone)

end FinishedPod

/-- When the message has a value under the key, it is a number, and one that
fits when it counts. -/
def LegibleInt (message : TerminationMessage) (key : String)
    (counts : Prop) : Prop :=
  ∀ text, message.lookup key.toList = some text →
    ∃ number, PyText.parseInt text = some number ∧
      (counts → FitsInt64 number)

/-- The values that the message has are numbers, and those of the event
fit. -/
structure Legible (finished : FinishedPod) : Prop where
  exitCode : LegibleInt finished.message "exit_code"
    (finished.reportsExitCode = true)
  wallSeconds : ∀ text,
    finished.message.lookup "wall_seconds".toList = some text →
      (PyText.parseFloat text).isSome
  cpuJiffies : LegibleInt finished.message "cpu_jiffies" True
  clkTck : LegibleInt finished.message "clk_tck" True
  peakMemoryKb : LegibleInt finished.message "peak_memory_kb" True

/-- A cluster that answers every read of a log alike. -/
def podApi (log : Except PyException PyBytes) (eventId : EventId) :
    PodApi (Except PyException) where
  readPodLog _ _ _ := log
  newEventId := .ok eventId

/-- What the termination message converts to. -/
def conversions (terminated : ContainerStateTerminated) :
    Option (Int × ResourceUsageDomain) := do
  let message := TerminationMessage.parse (terminated.message.getD "")
  let exitCode ← PyText.parseInt (message.get "exit_code"
    (toString terminated.exitCode.toInt).toList)
  let wallSeconds ← PyText.parseFloat (message.get "wall_seconds" ['0'])
  let cpuJiffies ← PyText.parseInt (message.get "cpu_jiffies" ['0'])
  let clkTck ← PyText.parseInt (message.get "clk_tck" ['1', '0', '0'])
  let peakMemoryKb ← PyText.parseInt (message.get "peak_memory_kb" ['0'])
  pure (exitCode,
    { executionTimeWallSeconds := wallSeconds
      cpuTimeJiffies := cpuJiffies
      clkTckHertz := clkTck
      peakMemoryKb := peakMemoryKb })

/-! ### What is extracted from a pod -/

section Extracting

variable {log : Except PyException PyBytes}

/-- Reading the log never raises when it fails in one of the ways that are
caught. -/
theorem readOutput_ok (eventId : EventId)
    (readable : ∀ error, log = .error error → error.isReadError = true)
    (name : PodName) (podNamespace : Option String) :
    ∃ output, readOutput (podApi log eventId) name podNamespace =
      .ok output := by
  cases log with
  | ok logs => exact ⟨parseFramedOutput logs, rfl⟩
  | error error =>
      refine ⟨("", unreadableOutput), ?_⟩
      have caught := readable error rfl
      simp only [readOutput, podApi]
      show (if error.isReadError = true then _ else _) = _
      rw [if_pos caught]
      rfl

/-- The result of a finished pod, given what its message converts to. -/
def podLogs (stdout stderr : String) :
    Option (Int × ResourceUsageDomain) → Except PyException (Option PodLogs)
  | some (exitCode, usage) => .ok (some
      { stdout := stdout
        stderr := stderr
        exitCode := exitCode
        resourceUsage := usage })
  | none => .error .valueError

private theorem extractLogs_eq (eventId : EventId) (ctx : PodContext)
    (readable : ∀ error, log = .error error → error.isReadError = true)
    {terminated : ContainerStateTerminated}
    (main : (getMainContainer ctx.pod).bind terminatedState =
      some terminated) :
    ∃ stdout stderr, extractLogs (podApi log eventId) ctx =
      podLogs stdout stderr (conversions terminated) := by
  obtain ⟨output, read⟩ :=
    readOutput_ok eventId readable ctx.name ctx.podNamespace
  refine ⟨output.1, output.2, ?_⟩
  simp only [extractLogs, main, read, conversions, intOf, floatOf]
  set message := TerminationMessage.parse (terminated.message.getD "")
  cases PyText.parseInt (message.get "exit_code"
    (toString terminated.exitCode.toInt).toList) with
  | none => rfl
  | some exitCode =>
  cases PyText.parseFloat (message.get "wall_seconds" ['0']) with
  | none => rfl
  | some wallSeconds =>
  cases PyText.parseInt (message.get "cpu_jiffies" ['0']) with
  | none => rfl
  | some cpuJiffies =>
  cases PyText.parseInt (message.get "clk_tck" ['1', '0', '0']) with
  | none => rfl
  | some clkTck =>
  cases PyText.parseInt (message.get "peak_memory_kb" ['0']) with
  | none => rfl
  | some peakMemoryKb => rfl

/-- The exit codes that the cluster reports fit. -/
theorem fits_of_int32 (exitCode : Int32) : FitsInt64 exitCode.toInt := by
  have low := Int32.le_toInt exitCode
  have high := Int32.toInt_lt exitCode
  constructor <;> omega

private theorem analyzeFailure_fits {pod : Pod} {exitCode : Int}
    (analyzed : (analyzeFailure pod).exitCode = some exitCode) :
    FitsInt64 exitCode := by
  unfold analyzeFailure at analyzed
  cases hasStatus : pod.status with
  | none => simp [hasStatus] at analyzed
  | some status =>
      simp only [hasStatus] at analyzed
      split at analyzed
      · cases analyzed
      · split at analyzed
        · next failure found =>
            obtain ⟨container, -, failed⟩ :=
              List.exists_of_findSome?_eq_some found
            simp only [containerFailure] at failed
            split at failed
            · next terminated _ =>
                cases failed
                cases analyzed
                exact fits_of_int32 terminated.exitCode
            · obtain ⟨waiting, -, mapped⟩ :=
                Option.bind_eq_some_iff.mp failed
              obtain ⟨errorType, -, rfl⟩ := Option.map_eq_some_iff.mp mapped
              cases analyzed
        · split at analyzed <;> cases analyzed

end Extracting

/-! ### The mapping of a phase -/

section Phases

variable (finished : FinishedPod) {log : Except PyException PyBytes}
  (eventId : EventId)

/-- The context in which a finished pod is mapped. -/
def FinishedPod.context : PodContext :=
  contextOf finished.pod finished.metadata finished.executionId

private theorem context_pod : finished.context.pod = finished.pod :=
  rfl

theorem context_phase : finished.context.phase = finished.status.phase := by
  simp [FinishedPod.context, contextOf, finished.has_status]

/-- What a mapper of a finished pod answers: its one terminal event, with the
message's exit code when it reports that one, or the error of the message. -/
structure Maps (reports : Bool)
    (answer : Except PyException (Option DomainEvent)) : Prop where
  raises : conversions finished.terminated = none →
    answer = .error .valueError
  answers : ∀ exitCode usage,
    conversions finished.terminated = some (exitCode, usage) →
      ∃ event, answer = .ok (some event) ∧ isTerminal event = true ∧
        (Storable event ↔
          (reports = true → FitsInt64 exitCode) ∧ StorableUsage usage)

variable {eventId} in
private theorem maps_of_logs {finished : FinishedPod} {reports : Bool}
    (readable : ∀ error, log = .error error → error.isReadError = true)
    {next : Option PodLogs → Except PyException (Option DomainEvent)}
    (mapped : ∀ logs, ∃ event, next (some logs) = .ok (some event) ∧
      isTerminal event = true ∧
      (Storable event ↔ (reports = true → FitsInt64 logs.exitCode) ∧
        StorableUsage logs.resourceUsage)) :
    Maps finished reports
      (extractLogs (podApi log eventId) finished.context >>= next) := by
  have main : (getMainContainer finished.context.pod).bind terminatedState =
      some finished.terminated := by
    rw [context_pod]
    exact finished.main
  obtain ⟨stdout, stderr, extracted⟩ :=
    extractLogs_eq eventId finished.context readable main
  rw [extracted]
  constructor
  · intro fails
    rw [fails]
    rfl
  · intro exitCode usage converts
    rw [converts]
    exact mapped _

private theorem mapCompleted_maps
    (readable : ∀ error, log = .error error → error.isReadError = true) :
    Maps finished true
      (mapCompleted (podApi log eventId) finished.context) := by
  apply maps_of_logs readable
  intro logs
  refine ⟨_, rfl, rfl, ?_⟩
  simp [Storable]

private theorem mapFailed_maps
    (readable : ∀ error, log = .error error → error.isReadError = true) :
    Maps finished (analyzeFailure finished.pod).exitCode.isNone
      (mapFailed (podApi log eventId) finished.context) := by
  apply maps_of_logs readable
  intro logs
  refine ⟨_, rfl, rfl, ?_⟩
  simp only [Storable, context_pod]
  cases analyzed : (analyzeFailure finished.pod).exitCode with
  | none => simp
  | some exitCode => simp [analyzeFailure_fits analyzed]

private theorem checkTimeout_none (onTime : finished.timedOut = false) :
    checkTimeout (podApi log eventId) finished.context = .ok none := by
  rw [checkTimeout, if_neg]
  · rfl
  · rintro ⟨late, running⟩
    simp [FinishedPod.timedOut, context_pod, finished.has_status] at *
    simp [onTime late] at running

private theorem checkTimeout_maps (late : finished.timedOut = true)
    (readable : ∀ error, log = .error error → error.isReadError = true) :
    Maps finished false
      (checkTimeout (podApi log eventId) finished.context) := by
  rw [checkTimeout, if_pos]
  · apply maps_of_logs readable
    intro logs
    refine ⟨_, rfl, rfl, ?_⟩
    simp [Storable]
  · simpa [FinishedPod.timedOut, context_pod, finished.has_status] using late

private theorem mapFailedOrCompleted_maps (onTime : finished.timedOut = false)
    (readable : ∀ error, log = .error error → error.isReadError = true) :
    Maps finished
      (allContainersSucceeded finished.pod ||
        (analyzeFailure finished.pod).exitCode.isNone)
      (mapFailedOrCompleted (podApi log eventId) finished.context) := by
  have mapped : mapFailedOrCompleted (podApi log eventId) finished.context =
      if allContainersSucceeded finished.pod then
        mapCompleted (podApi log eventId) finished.context
      else mapFailed (podApi log eventId) finished.context := by
    rw [mapFailedOrCompleted, checkTimeout_none finished eventId onTime]
    rfl
  rw [mapped]
  cases allContainersSucceeded finished.pod with
  | true => exact mapCompleted_maps finished eventId readable
  | false => exact mapFailed_maps finished eventId readable

/-- The mapper of the phase that a pod on time finished in. -/
theorem phaseMapper_maps (onTime : finished.timedOut = false)
    (readable : ∀ error, log = .error error → error.isReadError = true) :
    Maps finished finished.reportsExitCode
      (phaseMapper (podApi log eventId) finished.context) := by
  rw [phaseMapper, context_phase]
  rcases finished.finished with succeeded | failed
  · have reports : finished.reportsExitCode = true := by
      simp [FinishedPod.reportsExitCode, onTime, succeeded]
    simp only [succeeded, reports]
    exact mapCompleted_maps finished eventId readable
  · have reports : finished.reportsExitCode =
        (allContainersSucceeded finished.pod ||
          (analyzeFailure finished.pod).exitCode.isNone) := by
      simp [FinishedPod.reportsExitCode, onTime, failed]
    simp only [failed, reports]
    exact mapFailedOrCompleted_maps finished eventId onTime readable

/-- A finished pod's phase maps to its one terminal event, or raises what the
message raises. -/
theorem mapPhase_maps (priorPhase : Option String)
    (readable : ∀ error, log = .error error → error.isReadError = true) :
    ∃ answer, Maps finished finished.reportsExitCode answer ∧
      mapPhase (podApi log eventId) finished.context priorPhase =
        answer.map Option.toList := by
  have notRunning : finished.context.phase ≠ "Running" := by
    rw [context_phase]
    rcases finished.finished with same | same <;> rw [same] <;> decide
  cases late : finished.timedOut with
  | false =>
      refine ⟨_, phaseMapper_maps finished eventId late readable, ?_⟩
      rw [mapPhase, checkTimeout_none finished eventId late]
      simp only [notRunning, false_and, if_false]
      generalize phaseMapper (podApi log eventId) finished.context = answer
      cases answer <;> rfl
  | true =>
      have maps := checkTimeout_maps finished eventId late readable
      have reports : finished.reportsExitCode = false := by
        simp [FinishedPod.reportsExitCode, late]
      refine ⟨_, reports ▸ maps, ?_⟩
      rw [mapPhase]
      generalize checkTimeout (podApi log eventId) finished.context = answer
        at maps
      cases converts : conversions finished.terminated with
      | none =>
          rw [maps.raises converts]
          rfl
      | some converted =>
          obtain ⟨event, answered, -⟩ :=
            maps.answers converted.1 converted.2 converts
          rw [answered]
          rfl

end Phases

/-! ### Legible messages

The three numbers of a termination message are read with int and float of
Python.  The condition says of their texts when that goes well. -/

section Legibility

variable (message : TerminationMessage) (key : String) {default : List Char}

/-- A value that is missing counts as its default. -/
theorem legibleInt_iff (counts : Prop) {fallback : Int}
    (converts : PyText.parseInt default = some fallback)
    (fits : FitsInt64 fallback) :
    LegibleInt message key counts ↔
      ∃ number, PyText.parseInt (message.get key default) = some number ∧
        (counts → FitsInt64 number) := by
  unfold LegibleInt TerminationMessage.get
  cases message.lookup key.toList with
  | none => simp [converts, fits]
  | some text => simp

theorem legibleFloat_iff {fallback : PyFloat}
    (converts : PyText.parseFloat default = some fallback) :
    (∀ text, message.lookup key.toList = some text →
        (PyText.parseFloat text).isSome) ↔
      ∃ number, PyText.parseFloat (message.get key default) =
        some number := by
  unfold TerminationMessage.get
  cases message.lookup key.toList with
  | none => simp [converts]
  | some text => simp [Option.isSome_iff_exists]

/-- The exit code of the cluster is a default that converts. -/
theorem parseInt_int32 (exitCode : Int32) :
    PyText.parseInt (toString exitCode.toInt).toList =
      some exitCode.toInt := by
  apply PyText.parseInt_toString
  have low := Int32.le_toInt exitCode
  have high := Int32.toInt_lt exitCode
  calc exitCode.toInt.natAbs < 10 ^ 10 := by omega
    _ ≤ 10 ^ PyText.maxStrDigits := Nat.pow_le_pow_right (by decide) (by decide)

theorem conversions_eq_some {terminated : ContainerStateTerminated}
    {exitCode : Int} {usage : ResourceUsageDomain} :
    conversions terminated = some (exitCode, usage) ↔
      let message := TerminationMessage.parse (terminated.message.getD "")
      PyText.parseInt (message.get "exit_code"
          (toString terminated.exitCode.toInt).toList) = some exitCode ∧
        PyText.parseFloat (message.get "wall_seconds" ['0']) =
          some usage.executionTimeWallSeconds ∧
        PyText.parseInt (message.get "cpu_jiffies" ['0']) =
          some usage.cpuTimeJiffies ∧
        PyText.parseInt (message.get "clk_tck" ['1', '0', '0']) =
          some usage.clkTckHertz ∧
        PyText.parseInt (message.get "peak_memory_kb" ['0']) =
          some usage.peakMemoryKb := by
  unfold conversions
  simp only [Option.bind_eq_bind, Option.bind_eq_some_iff, Option.pure_def,
    Option.some.injEq, Prod.mk.injEq]
  constructor
  · rintro ⟨_, code, _, wall, _, jiffies, _, ticks, _, peak, rfl, rfl⟩
    exact ⟨code, wall, jiffies, ticks, peak⟩
  · rintro ⟨code, wall, jiffies, ticks, peak⟩
    exact ⟨_, code, _, wall, _, jiffies, _, ticks, _, peak, rfl, rfl⟩

/-- A message is legible exactly when it converts to numbers that fit where
they count. -/
theorem legible_iff (finished : FinishedPod) :
    Legible finished ↔ ∃ exitCode usage,
      conversions finished.terminated = some (exitCode, usage) ∧
        (finished.reportsExitCode = true → FitsInt64 exitCode) ∧
          StorableUsage usage := by
  have zero : PyText.parseInt ['0'] = some 0 := by decide
  have fitsZero : FitsInt64 0 := by
    constructor <;> decide
  have hundred : PyText.parseInt ['1', '0', '0'] = some 100 := by decide
  have fitsHundred : FitsInt64 100 := by
    constructor <;> decide
  have wallZero : PyText.parseFloat ['0'] = some (.finite false 0 0) := by
    decide
  have exitCodeIff := legibleInt_iff finished.message "exit_code"
    (finished.reportsExitCode = true)
    (parseInt_int32 finished.terminated.exitCode) (fits_of_int32 _)
  have jiffiesIff :=
    legibleInt_iff finished.message "cpu_jiffies" True zero fitsZero
  have ticksIff :=
    legibleInt_iff finished.message "clk_tck" True hundred fitsHundred
  have peakIff :=
    legibleInt_iff finished.message "peak_memory_kb" True zero fitsZero
  have wallIff :=
    legibleFloat_iff finished.message "wall_seconds" wallZero
  simp only [conversions_eq_some]
  constructor
  · rintro ⟨exitCode, wall, jiffies, ticks, peak⟩
    obtain ⟨code, readCode, fitsCode⟩ := exitCodeIff.mp exitCode
    obtain ⟨wallSeconds, readWall⟩ := wallIff.mp wall
    obtain ⟨cpuJiffies, readJiffies, fitsJiffies⟩ := jiffiesIff.mp jiffies
    obtain ⟨clkTck, readTicks, fitsTicks⟩ := ticksIff.mp ticks
    obtain ⟨peakMemoryKb, readPeak, fitsPeak⟩ := peakIff.mp peak
    exact ⟨code, ⟨wallSeconds, cpuJiffies, clkTck, peakMemoryKb⟩,
      ⟨readCode, readWall, readJiffies, readTicks, readPeak⟩, fitsCode,
      fitsJiffies trivial, fitsTicks trivial, fitsPeak trivial⟩
  · rintro ⟨exitCode, usage, ⟨code, wall, jiffies, ticks, peak⟩, fitsCode,
      fitsJiffies, fitsTicks, fitsPeak⟩
    constructor
    · exact exitCodeIff.mpr ⟨_, code, fitsCode⟩
    · exact wallIff.mpr ⟨_, wall⟩
    · exact jiffiesIff.mpr ⟨_, jiffies, fun _ => fitsJiffies⟩
    · exact ticksIff.mpr ⟨_, ticks, fun _ => fitsTicks⟩
    · exact peakIff.mpr ⟨_, peak, fun _ => fitsPeak⟩

end Legibility

/-! ### Terminal events -/

/-- What the cluster says about the end of a deleted pod is no terminal
event. -/
theorem mapTerminated_ok (log : Except PyException PyBytes)
    (eventId : EventId) (ctx : PodContext) :
    ∃ terminated, mapTerminated (podApi log eventId) ctx = .ok terminated ∧
      terminated.toList.filter isTerminal = [] := by
  unfold mapTerminated
  split
  · exact ⟨none, rfl, rfl⟩
  · exact ⟨_, rfl, rfl⟩

theorem bind_ok {α β : Type} (answer : Except PyException α) (next : α → β) :
    (answer >>= fun value => .ok (next value)) = answer.map next := by
  cases answer <;> rfl

/-- A pod whose phase was not seen yet is mapped; what follows its events adds
no terminal event. -/
theorem mapPodEvent_answers (finished : FinishedPod) {cache : EventCache}
    (unseen : cache.lookup finished.metadata.name ≠
      some finished.status.phase)
    (eventType : WatchEventType) (log : Except PyException PyBytes)
    (eventId : EventId) :
    ∃ (others : List DomainEvent) (after : List DomainEvent → EventCache),
      others.filter isTerminal = [] ∧ ∀ answer, mapPhase (podApi log eventId) finished.context
          (cache.lookup finished.metadata.name) = answer →
        mapPodEvent (podApi log eventId) cache finished.pod eventType =
          answer.map fun events => (events ++ others, after events) := by
  have identified : (finished.pod.metadata.bind fun metadata =>
      (extractExecutionId metadata).map fun executionId =>
        (metadata, executionId)) =
      some (finished.metadata, finished.executionId) := by
    simp [finished.has_metadata, finished.identified]
  have same : contextOf finished.pod finished.metadata finished.executionId =
      finished.context := rfl
  have new : ¬ cache.lookup finished.metadata.name =
      some finished.context.phase := by
    rw [context_phase]
    exact unseen
  obtain ⟨terminated, ended, quiet⟩ :=
    mapTerminated_ok log eventId finished.context
  by_cases deleted : eventType = .deleted
  · refine ⟨terminated.toList, fun _ => cache.erase finished.metadata.name,
      quiet, ?_⟩
    rintro answer rfl
    simp only [mapPodEvent, identified, same, ended]
    refine (if_pos deleted).trans ((if_neg new).trans ?_)
    exact bind_ok _ fun events => _
  · refine ⟨[], fun events => if events.isEmpty then cache
      else cache.remember finished.context.name finished.context.phase,
      rfl, ?_⟩
    rintro answer rfl
    simp only [mapPodEvent, identified, same, List.append_nil]
    refine (if_neg deleted).trans ((if_neg new).trans ?_)
    exact bind_ok _ fun events => _

/-- A newly finished pod yields exactly one terminal event, with numbers that
fit, whatever its log, if and only if its termination message is legible. -/
theorem terminal_event_iff (finished : FinishedPod) (cache : EventCache)
    (unseen : cache.lookup finished.metadata.name ≠
      some finished.status.phase)
    (eventType : WatchEventType) (log : Except PyException PyBytes)
    (readable : ∀ error, log = .error error → error.isReadError = true)
    (eventId : EventId) :
    (∃ events after event,
      mapPodEvent (podApi log eventId) cache finished.pod eventType =
        .ok (events, after) ∧
      events.filter isTerminal = [event] ∧ Storable event) ↔
    Legible finished := by
  obtain ⟨answer, maps, mapped⟩ := mapPhase_maps finished eventId
    (cache.lookup finished.metadata.name) readable
  obtain ⟨others, after, quiet, answers⟩ :=
    mapPodEvent_answers finished unseen eventType log eventId
  rw [answers _ mapped, legible_iff]
  cases converts : conversions finished.terminated with
  | none =>
      rw [maps.raises converts]
      simp [Except.map]
  | some converted =>
      obtain ⟨event, answered, terminal, storable⟩ :=
        maps.answers converted.1 converted.2 converts
      have one : ([event] ++ others).filter isTerminal = [event] := by
        rw [List.filter_append, quiet]
        simp [terminal]
      rw [answered]
      constructor
      · rintro ⟨events, last, found, same, single, fits⟩
        cases same
        rw [Option.toList_some, one] at single
        cases single
        exact ⟨converted.1, converted.2, rfl, storable.mp fits⟩
      · rintro ⟨exitCode, usage, same, fits⟩
        cases same
        exact ⟨_, _, event, rfl, one, storable.mpr fits⟩

/-- The metadata of a pod that the worker created. -/
def executorMetadata : ObjectMeta where
  name := "executor-e1"
  labels := [("execution-id", "e1")]

/-- A container exited with code 0 and left a message. -/
def succeededStatus (message : String) : PodStatus where
  phase := "Succeeded"
  containerStatuses :=
    [{ name := "executor"
       state := some
        { terminated := some { exitCode := 0, message := some message } } }]

def succeededPod (message : String) : FinishedPod where
  pod :=
    { metadata := some executorMetadata
      status := some (succeededStatus message) }
  metadata := executorMetadata
  executionId := "e1"
  status := succeededStatus message
  terminated := { exitCode := 0, message := some message }
  has_metadata := rfl
  identified := by decide
  has_status := rfl
  finished := .inl rfl
  main := rfl

/-- The monitor has seen no pod, and the log is readable. -/
theorem terminal_event_iff_succeeded :
    (∃ events after event,
      mapPodEvent (podApi (.ok []) "v1") ∅
        (succeededPod "exit_code=0\nwall_seconds=0.5").pod .modified =
        .ok (events, after) ∧
      events.filter isTerminal = [event] ∧ Storable event) ↔
    Legible (succeededPod "exit_code=0\nwall_seconds=0.5") :=
  terminal_event_iff (succeededPod "exit_code=0\nwall_seconds=0.5") ∅
    (by simp) .modified (.ok []) (by simp) "v1"

/-- The jiffies that a completed execution reports. -/
def reportedJiffies : DomainEvent → Int
  | .executionCompleted event => event.resourceUsage.cpuTimeJiffies
  | _ => 0

/-- A script that writes a word for its exit code makes the mapper raise, and
one that writes too large a number of jiffies leaves an event that the store
cannot hold. -/
theorem untrusted_messages :
    mapPodEvent (podApi (.ok []) "v1") ∅
        (succeededPod "exit_code=none").pod .modified = .error .valueError ∧
    ¬ ∃ events after event,
      mapPodEvent (podApi (.ok []) "v1") ∅
        (succeededPod "cpu_jiffies=9223372036854775808").pod .modified =
        .ok (events, after) ∧
      events.filter isTerminal = [event] ∧ Storable event := by
  constructor
  · rfl
  · rintro ⟨events, after, event, mapped, single, storable⟩
    have evaluated : (mapPodEvent (podApi (.ok []) "v1") ∅
        (succeededPod "cpu_jiffies=9223372036854775808").pod .modified).map
          (fun answer => (answer.1.filter isTerminal).map reportedJiffies) =
        .ok [9223372036854775808] := rfl
    rw [mapped] at evaluated
    have reported : reportedJiffies event = 9223372036854775808 := by
      simpa [Except.map, single] using evaluated
    cases event with
    | executionCompleted event =>
        have fits := storable.2.1.2
        simp only [reportedJiffies] at reported
        omega
    | _ => cases reported

end PodOutput

end Integr8s
