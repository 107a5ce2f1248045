/-
Module: Integr8s.Proofs.PodReports
Purpose: What the pod mapper makes of all that the watch reports of a pod: each
  kind of event at most once, and one terminal event of a pod that finished,
  over all sequences of reports of any pods; and the size of its cache.
Trusted boundary: none
Main exports: PodReports.mapper, PodReports.Lifecycle, PodReports.KeepsEntry,
  PodReports.Reported, PodReports.each_step_once
-/
import Integr8s.Lib.Machine
import Integr8s.Proofs.PodOutput

namespace Integr8s

/-! ### The cache -/

namespace EventCache

variable {cache : EventCache} {name other : PodName} {phase : String}

theorem dlookup_kreplace (entries : List (Sigma fun _ : PodName => String)) :
    (entries.kreplace name phase).dlookup other =
      if other = name then (entries.dlookup other).map fun _ => phase
      else entries.dlookup other := by
  induction entries with
  | nil => simp [List.kreplace]
  | cons entry entries inductionHypothesis =>
      obtain ⟨key, value⟩ := entry
      rw [List.kreplace] at inductionHypothesis ⊢
      rw [List.lookmap_cons]
      by_cases here : name = key
      · subst here
        by_cases same : other = name
        · subst same
          simp
        · simp [same]
      · simp only [if_neg here]
        by_cases found : other = key
        · subst found
          have different : ¬ other = name := fun same => here same.symm
          simp [different]
        · rw [List.dlookup_cons_ne _ _ found, List.dlookup_cons_ne _ _ found]
          exact inductionHypothesis

private theorem evict_entries : cache.evict.entries =
    if maxCacheSize ≤ cache.entries.length then
      cache.entries.take (cache.entries.length - maxCacheSize / 2)
    else cache.entries := by
  rw [evict, apply_ite AList.entries]

private theorem evict_sublist : cache.evict.entries.Sublist cache.entries := by
  rw [evict_entries]
  split
  · exact List.take_sublist _ _
  · exact List.Sublist.refl _

/-- What is left of a full cache is what was there. -/
theorem lookup_evict (stays : name ∈ cache.evict) :
    cache.evict.lookup name = cache.lookup name := by
  obtain ⟨kept, found⟩ :=
    Option.isSome_iff_exists.mp (AList.lookup_isSome.mpr stays)
  have member : (⟨name, kept⟩ : Sigma fun _ : PodName => String) ∈
      cache.entries := by
    have inside := AList.mem_lookup_iff.mp (Option.mem_def.mpr found)
    exact evict_sublist.subset inside
  rw [found]
  exact (AList.mem_lookup_iff.mpr member).symm

theorem mem_of_mem_evict (stays : name ∈ cache.evict) : name ∈ cache := by
  rw [← AList.lookup_isSome, ← lookup_evict stays]
  exact AList.lookup_isSome.mpr stays

/-- The remembered phase is found. -/
theorem lookup_remember_self :
    (cache.remember name phase).lookup name = some phase := by
  simp only [remember]
  split
  · next member =>
      obtain ⟨prior, found⟩ :=
        Option.isSome_iff_exists.mp (AList.lookup_isSome.mpr member)
      have present : cache.evict.entries.dlookup name = some prior := found
      show (cache.evict.entries.kreplace name phase).dlookup name = some phase
      rw [dlookup_kreplace, if_pos rfl, present]
      rfl
  · exact AList.lookup_insert _

/-- Of other pods, what the eviction leaves is found. -/
theorem lookup_remember_other (different : other ≠ name) :
    (cache.remember name phase).lookup other = cache.evict.lookup other := by
  simp only [remember]
  split
  · show (cache.evict.entries.kreplace name phase).dlookup other = _
    rw [dlookup_kreplace, if_neg different]
    rfl
  · exact AList.lookup_insert_ne different

private theorem length_evict (fits : cache.entries.length ≤ maxCacheSize) :
    cache.evict.entries.length < maxCacheSize := by
  unfold evict
  split
  · have half : 0 < maxCacheSize / 2 := by decide
    simp only [List.length_take]
    omega
  · omega

private theorem length_entries (cache : EventCache) :
    cache.entries.length = cache.keys.length := by
  simp [AList.keys, List.keys]

/-- The cache doesn't outgrow its limit. -/
theorem length_remember (fits : cache.entries.length ≤ maxCacheSize) :
    (cache.remember name phase).entries.length ≤ maxCacheSize := by
  have room := length_evict fits
  simp only [remember]
  split
  · rw [length_entries, AList.keys_replace, ← length_entries]
    exact Nat.le_of_lt room
  · next missing =>
      rw [AList.entries_insert_of_notMem missing]
      exact room

private theorem length_erase (fits : cache.entries.length ≤ maxCacheSize) :
    (cache.erase name).entries.length ≤ maxCacheSize := by
  rw [length_entries, AList.keys_erase]
  exact (List.length_erase_le).trans (length_entries cache ▸ fits)

end EventCache

namespace PodReports

open PodEventMapper PodOutput EventCache

/-! ### Sequences of reports -/

/-- A report of the watch, with what the cluster answers while it is
mapped. -/
structure Report where
  event : PodEvent
  log : Except PyException PyBytes := .ok []
  eventId : EventId := ""

namespace Report

variable (report : Report)

/-- The report is of the pod with a name. -/
def isOf (name : PodName) : Bool :=
  report.event.pod.metadata.map ObjectMeta.name == some name

def phase : String :=
  (report.event.pod.status.map PodStatus.phase).getD "Unknown"

def isDeleted : Bool :=
  report.event.eventType == .deleted

end Report

/-- The cache of the mapper, and every report with the events it was mapped
to. -/
structure MapperLog where
  cache : EventCache := ∅
  mapped : List (Report × List DomainEvent) := []

/-- What the mapper makes of a report. -/
def answer (cache : EventCache) (report : Report) :
    Except PyException (List DomainEvent × EventCache) :=
  mapPodEvent (podApi report.log report.eventId) cache report.event.pod
    report.event.eventType

/-- Reports are mapped one after the other.  An error leaves no events, and
the cache as it is. -/
def mapper : Machine MapperLog Report where
  step log report := some <|
    match answer log.cache report with
    | .ok (events, cache) =>
        { cache := cache, mapped := log.mapped ++ [(report, events)] }
    | .error _ => { log with mapped := log.mapped ++ [(report, [])] }

/-- The events of a pod. -/
def eventsOf (name : PodName) (log : MapperLog) : List DomainEvent :=
  (log.mapped.filter fun entry => entry.1.isOf name).flatMap Prod.snd

/-- The phases in their order; the last two are one stage. -/
def stageOf (phase : String) : Nat :=
  if phase = "Pending" then 0 else if phase = "Running" then 1 else 2

/-- The stage of a pod that brings an event of a kind. -/
def rankOf : EventType → Nat
  | .podScheduled => 0
  | .podRunning => 1
  | .executionCompleted | .executionFailed | .executionTimeout => 2
  | _ => 3

/-- The reports of a pod go through its phases in order, say that it is over
its deadline only when it failed, and the report of its deletion is the
last. -/
structure Lifecycle (name : PodName) (reports : List Report) : Prop where
  phases : ∀ report ∈ reports, report.isOf name = true →
    report.phase ∈ ["Pending", "Running", "Succeeded", "Failed"]
  deadline : ∀ report ∈ reports, report.isOf name = true →
    report.event.pod.status.bind PodStatus.reason = some "DeadlineExceeded" →
      report.phase = "Failed"
  monotone : (reports.filter (Report.isOf · name)).Pairwise
    fun earlier later => earlier.phase = later.phase ∨
      stageOf earlier.phase < stageOf later.phase
  deletedLast : (reports.filter (Report.isOf · name)).Pairwise
    fun earlier _ => earlier.isDeleted = false

/-- When a report goes into the cache, the pod's entry is not among those that
are evicted for it. -/
def KeepsEntry (name : PodName) (log : MapperLog) (report : Report) : Prop :=
  ∀ events cache, answer log.cache report = .ok (events, cache) →
    events ≠ [] → report.isDeleted = false →
      name ∈ log.cache → name ∈ log.cache.evict

/-- When the message has a value under a key that is read, it is a number. -/
structure WellFormed (message : TerminationMessage) : Prop where
  exitCode : LegibleInt message "exit_code" False
  wallSeconds : ∀ text, message.lookup "wall_seconds".toList = some text →
    (PyText.parseFloat text).isSome
  cpuJiffies : LegibleInt message "cpu_jiffies" False
  clkTck : LegibleInt message "clk_tck" False
  peakMemoryKb : LegibleInt message "peak_memory_kb" False

/-- The report is of a finished phase of the pod, whose main container
terminated with a well-formed message, and the log is read, or fails to be in
one of the ways that are caught. -/
def Finishes (name : PodName) (report : Report) : Prop :=
  ∃ finished : FinishedPod, finished.pod = report.event.pod ∧
    finished.metadata.name = name ∧ WellFormed finished.message ∧
    ∀ error, report.log = .error error → error.isReadError = true

/-! ### What one report is mapped to -/

section Mapping

variable {log : Except PyException PyBytes} {eventId : EventId}
  {ctx : PodContext}

/-- An event that comes of this has a rank. -/
def Yields (rank : Nat) (mapped : Except PyException (Option DomainEvent)) :
    Prop :=
  ∀ event, mapped = .ok (some event) → rankOf event.eventType = rank

private theorem yields_none {rank : Nat} : Yields rank (.ok none) := by
  intro event none
  cases none

private theorem yields_some {event : DomainEvent} :
    Yields (rankOf event.eventType) (.ok (some event)) := by
  intro other same
  cases same
  rfl

private theorem bind_eq_ok {α β : Type} {first : Except PyException α}
    {next : α → Except PyException β} {result : β}
    (answered : (first >>= next) = .ok result) :
    ∃ value, first = .ok value ∧ next value = .ok result := by
  cases first with
  | error error => cases answered
  | ok value => exact ⟨value, rfl, answered⟩

theorem yields_bind {α : Type} {rank : Nat} {first : Except PyException α}
    {next : α → Except PyException (Option DomainEvent)}
    (each : ∀ value, first = .ok value → Yields rank (next value)) :
    Yields rank (first >>= next) := by
  intro event mapped
  obtain ⟨value, came, goes⟩ := bind_eq_ok mapped
  exact each value came event goes

private theorem yields_mapScheduled :
    Yields 0 (mapScheduled (podApi log eventId) ctx) := by
  simp only [mapScheduled]
  split
  · exact yields_bind fun _ _ => yields_some
  · exact yields_none

private theorem yields_mapRunning :
    Yields 1 (mapRunning (podApi log eventId) ctx) := by
  unfold mapRunning
  split
  · exact yields_none
  · exact yields_bind fun _ _ => yields_some

private theorem yields_mapCompleted :
    Yields 2 (mapCompleted (podApi log eventId) ctx) := by
  apply yields_bind
  intro logs _
  cases logs with
  | none => exact yields_none
  | some logs => exact yields_bind fun _ _ => yields_some

private theorem yields_mapFailed :
    Yields 2 (mapFailed (podApi log eventId) ctx) :=
  yields_bind fun _ _ => yields_bind fun _ _ => yields_some

private theorem yields_checkTimeout :
    Yields 2 (checkTimeout (podApi log eventId) ctx) := by
  unfold checkTimeout
  split
  · exact yields_bind fun _ _ => yields_bind fun _ _ => yields_some
  · exact yields_none

/-- Only a pod over its deadline times out. -/
theorem late_of_checkTimeout {event : DomainEvent}
    (timedOut : checkTimeout (podApi log eventId) ctx = .ok (some event)) :
    ctx.pod.status.bind PodStatus.reason = some "DeadlineExceeded" := by
  unfold checkTimeout at timedOut
  split at timedOut
  · next late => exact late.1
  · cases timedOut

private theorem yields_mapFailedOrCompleted :
    Yields 2 (mapFailedOrCompleted (podApi log eventId) ctx) := by
  apply yields_bind
  intro timeout came
  cases timeout with
  | some timeout =>
      intro event same
      cases same
      exact yields_checkTimeout _ came
  | none =>
      by_cases succeeded : allContainersSucceeded ctx.pod = true
      · simp only [succeeded, if_true]
        exact yields_mapCompleted
      · simp only [succeeded, Bool.false_eq_true, if_false]
        exact yields_mapFailed

/-- The mapper of a phase yields an event of its stage. -/
theorem yields_phaseMapper
    (known : ctx.phase ∈ ["Pending", "Running", "Succeeded", "Failed"]) :
    Yields (stageOf ctx.phase) (phaseMapper (podApi log eventId) ctx) := by
  simp only [List.mem_cons, List.not_mem_nil, or_false] at known
  unfold phaseMapper
  rcases known with pending | running | succeeded | failed
  · rw [if_pos pending, pending]
    exact yields_mapScheduled
  · rw [running]
    exact yields_mapRunning
  · rw [succeeded]
    exact yields_mapCompleted
  · rw [failed]
    exact yields_mapFailedOrCompleted

/-- A phase is mapped to one event of its stage at most. -/
theorem mapPhase_cases {prior : Option String} {events : List DomainEvent}
    (known : ctx.phase ∈ ["Pending", "Running", "Succeeded", "Failed"])
    (deadline : ctx.pod.status.bind PodStatus.reason =
      some "DeadlineExceeded" → ctx.phase = "Failed")
    (mapped : mapPhase (podApi log eventId) ctx prior = .ok events) :
    events = [] ∨ ∃ event, events = [event] ∧
      rankOf event.eventType = stageOf ctx.phase := by
  obtain ⟨timeout, came, rest⟩ := bind_eq_ok mapped
  cases timeout with
  | some timeout =>
      cases rest
      have failed := deadline (late_of_checkTimeout came)
      refine .inr ⟨timeout, rfl, ?_⟩
      rw [yields_checkTimeout _ came, failed]
      rfl
  | none =>
      simp only at rest
      split at rest
      · cases rest
        exact .inl rfl
      · obtain ⟨event, yielded, last⟩ := bind_eq_ok rest
        cases last
        cases event with
        | none => exact .inl rfl
        | some event =>
            exact .inr ⟨event, rfl, yields_phaseMapper known _ yielded⟩

/-- The deletion of a pod is mapped to its termination at most. -/
theorem yields_mapTerminated :
    Yields 3 (mapTerminated (podApi log eventId) ctx) := by
  unfold mapTerminated
  split
  · exact yields_none
  · exact yields_bind fun _ _ => yields_some

end Mapping

section Answers

variable {cache after : EventCache} {report : Report} {name : PodName}
  {events : List DomainEvent}

/-- The events of a report: one of its phase at most, when the phase is not
the remembered one, and one of its deletion at most. -/
structure Answered (name : PodName) (cache after : EventCache)
    (report : Report) (events main closing : List DomainEvent) : Prop where
  all : events = main ++ closing
  phase : main = [] ∨ ∃ event, main = [event] ∧
    rankOf event.eventType = stageOf report.phase ∧
      cache.lookup name ≠ some report.phase
  ending : closing = [] ∨ ∃ event, closing = [event] ∧
    rankOf event.eventType = 3 ∧ report.isDeleted = true
  remembers : report.isDeleted = false → closing = [] ∧
    after = if main.isEmpty then cache else cache.remember name report.phase

/-- What a report brings and what it does to the cache: nothing, the events of
its phase, or those that its pod's deletion still owes. -/
inductive Answers (cache : EventCache) (report : Report) :
    List DomainEvent → EventCache → Prop
  | nothing : Answers cache report [] cache
  | mapped {metadata : ObjectMeta} {executionId : ExecutionId}
      {main : List DomainEvent}
      (has_metadata : report.event.pod.metadata = some metadata)
      (present : report.isDeleted = false)
      (unseen : cache.lookup metadata.name ≠ some report.phase)
      (came : mapPhase (podApi report.log report.eventId)
        (contextOf report.event.pod metadata executionId)
          (cache.lookup metadata.name) = .ok main) :
      Answers cache report main
        (if main.isEmpty then cache
          else cache.remember metadata.name report.phase)
  | forgotten {metadata : ObjectMeta} {executionId : ExecutionId}
      {main : List DomainEvent} {terminated : Option DomainEvent}
      (has_metadata : report.event.pod.metadata = some metadata)
      (deleted : report.isDeleted = true)
      (came : main = [] ∨ cache.lookup metadata.name ≠ some report.phase ∧
        mapPhase (podApi report.log report.eventId)
          (contextOf report.event.pod metadata executionId)
            (cache.lookup metadata.name) = .ok main)
      (ended : mapTerminated (podApi report.log report.eventId)
        (contextOf report.event.pod metadata executionId) = .ok terminated) :
      Answers cache report (main ++ terminated.toList)
        (cache.erase metadata.name)

theorem answers_of_ok (answered : answer cache report = .ok (events, after)) :
    Answers cache report events after := by
  unfold answer mapPodEvent at answered
  cases has_metadata : report.event.pod.metadata with
  | none =>
      simp only [has_metadata, Option.bind_none] at answered
      cases answered
      exact .nothing
  | some metadata =>
      cases identified : extractExecutionId metadata with
      | none =>
          simp only [has_metadata, Option.bind_some, identified,
            Option.map_none] at answered
          cases answered
          exact .nothing
      | some executionId =>
          simp only [has_metadata, Option.bind_some, identified,
            Option.map_some] at answered
          have phase : (contextOf report.event.pod metadata executionId).phase =
              report.phase := rfl
          have same : (contextOf report.event.pod metadata executionId).name =
              metadata.name := rfl
          rw [phase, same] at answered
          by_cases deleted : report.event.eventType = .deleted
          · rw [if_pos deleted] at answered
            have isDeleted : report.isDeleted = true := by
              simp [Report.isDeleted, deleted]
            by_cases seen : cache.lookup metadata.name = some report.phase
            · rw [if_pos seen] at answered
              obtain ⟨main, came, rest⟩ := bind_eq_ok answered
              obtain ⟨terminated, ended, last⟩ := bind_eq_ok rest
              cases came
              cases last
              exact .forgotten has_metadata isDeleted (.inl rfl) ended
            · rw [if_neg seen] at answered
              obtain ⟨main, came, rest⟩ := bind_eq_ok answered
              obtain ⟨terminated, ended, last⟩ := bind_eq_ok rest
              cases last
              exact .forgotten has_metadata isDeleted (.inr ⟨seen, came⟩) ended
          · rw [if_neg deleted] at answered
            by_cases seen : cache.lookup metadata.name = some report.phase
            · rw [if_pos seen] at answered
              cases answered
              exact .nothing
            · rw [if_neg seen] at answered
              obtain ⟨main, came, last⟩ := bind_eq_ok answered
              cases last
              have present : report.isDeleted = false := by
                simp [Report.isDeleted, deleted]
              exact .mapped has_metadata present seen came

private theorem isOf_of_metadata {metadata : ObjectMeta}
    (has_metadata : report.event.pod.metadata = some metadata) :
    report.isOf name = true ↔ metadata.name = name := by
  simp [Report.isOf, has_metadata]

theorem phase_of_mapPhase {metadata : ObjectMeta} {executionId : ExecutionId}
    {main : List DomainEvent}
    (known : report.phase ∈ ["Pending", "Running", "Succeeded", "Failed"])
    (deadline : report.event.pod.status.bind PodStatus.reason =
      some "DeadlineExceeded" → report.phase = "Failed")
    (unseen : cache.lookup name ≠ some report.phase)
    (came : mapPhase (podApi report.log report.eventId)
      (contextOf report.event.pod metadata executionId) (cache.lookup name) =
        .ok main) :
    main = [] ∨ ∃ event, main = [event] ∧
      rankOf event.eventType = stageOf report.phase ∧
        cache.lookup name ≠ some report.phase := by
  rcases mapPhase_cases known deadline came with none | one
  · exact .inl none
  · obtain ⟨event, same, rank⟩ := one
    exact .inr ⟨event, same, rank, unseen⟩

/-- What a report of a pod is mapped to. -/
theorem answered_of_ok (own : report.isOf name = true)
    (known : report.phase ∈ ["Pending", "Running", "Succeeded", "Failed"])
    (deadline : report.event.pod.status.bind PodStatus.reason =
      some "DeadlineExceeded" → report.phase = "Failed")
    (answered : answer cache report = .ok (events, after)) :
    ∃ main closing, Answered name cache after report events main closing := by
  cases answers_of_ok answered with
  | nothing => exact ⟨[], [], rfl, .inl rfl, .inl rfl, fun _ => ⟨rfl, rfl⟩⟩
  | mapped has_metadata present unseen came =>
      have named := (isOf_of_metadata has_metadata).mp own
      subst named
      exact ⟨events, [], (List.append_nil _).symm,
        phase_of_mapPhase known deadline unseen came, .inl rfl,
        fun _ => ⟨rfl, rfl⟩⟩
  | @forgotten metadata _ main terminated has_metadata deleted came ended =>
      have named := (isOf_of_metadata has_metadata).mp own
      subst named
      refine ⟨main, terminated.toList, rfl, ?_, ?_, by simp [deleted]⟩
      · rcases came with silent | ⟨unseen, came⟩
        · exact .inl silent
        · exact phase_of_mapPhase known deadline unseen came
      · cases terminated with
        | none => exact .inl rfl
        | some event =>
            exact .inr ⟨event, rfl, yields_mapTerminated _ ended, deleted⟩

/-- What a report does to the cache: nothing, or its pod's phase is remembered
for its events, or its deleted pod is forgotten. -/
theorem cache_of_ok (answered : answer cache report = .ok (events, after)) :
    after = cache ∨
    (∃ own phase, report.isOf own = true ∧ report.isDeleted = false ∧
      events ≠ [] ∧ after = cache.remember own phase) ∨
    ∃ own, report.isOf own = true ∧ after = cache.erase own := by
  cases answers_of_ok answered with
  | nothing => exact .inl rfl
  | mapped has_metadata present unseen came =>
      cases events with
      | nil => exact .inl rfl
      | cons event events =>
          exact .inr (.inl ⟨_, _, (isOf_of_metadata has_metadata).mpr rfl,
            present, List.cons_ne_nil _ _, rfl⟩)
  | forgotten has_metadata deleted came ended =>
      exact .inr (.inr ⟨_, (isOf_of_metadata has_metadata).mpr rfl, rfl⟩)

/-- A report of another pod leaves the entry of a pod as it is. -/
theorem lookup_of_other (other : report.isOf name = false)
    (keeps : events ≠ [] → report.isDeleted = false → name ∈ cache →
      name ∈ cache.evict)
    (answered : answer cache report = .ok (events, after)) :
    after.lookup name = cache.lookup name := by
  have different {own : PodName} (isOf : report.isOf own = true) :
      name ≠ own := by
    intro same
    rw [same, isOf] at other
    cases other
  rcases cache_of_ok answered with same | remembered | forgotten
  · rw [same]
  · obtain ⟨own, phase, isOf, present, some, rfl⟩ := remembered
    rw [lookup_remember_other (different isOf)]
    by_cases member : name ∈ cache
    · exact lookup_evict (keeps some present member)
    · have gone : name ∉ cache.evict :=
        fun stays => member (mem_of_mem_evict stays)
      rw [AList.lookup_eq_none.mpr gone, AList.lookup_eq_none.mpr member]
  · obtain ⟨own, isOf, rfl⟩ := forgotten
    exact AList.lookup_erase_ne (different isOf)

private theorem length_of_ok (fits : cache.entries.length ≤ maxCacheSize)
    (answered : answer cache report = .ok (events, after)) :
    after.entries.length ≤ maxCacheSize := by
  rcases cache_of_ok answered with same | remembered | forgotten
  · exact same ▸ fits
  · obtain ⟨own, phase, -, -, -, rfl⟩ := remembered
    exact length_remember fits
  · obtain ⟨own, -, rfl⟩ := forgotten
    exact length_erase fits

private theorem conversions_of_wellFormed {finished : FinishedPod}
    (wellFormed : WellFormed finished.message) :
    ∃ converted, conversions finished.terminated = some converted := by
  have zero : PyText.parseInt ['0'] = some 0 := by decide
  have fitsZero : FitsInt64 0 := by constructor <;> decide
  have hundred : PyText.parseInt ['1', '0', '0'] = some 100 := by decide
  have fitsHundred : FitsInt64 100 := by constructor <;> decide
  have wallZero : PyText.parseFloat ['0'] = some (.finite false 0 0) := by
    decide
  obtain ⟨code, readCode, -⟩ := (legibleInt_iff finished.message "exit_code"
    False (parseInt_int32 finished.terminated.exitCode)
    (fits_of_int32 _)).mp wellFormed.exitCode
  obtain ⟨wall, readWall⟩ := (legibleFloat_iff finished.message
    "wall_seconds" wallZero).mp wellFormed.wallSeconds
  obtain ⟨jiffies, readJiffies, -⟩ := (legibleInt_iff finished.message
    "cpu_jiffies" False zero fitsZero).mp wellFormed.cpuJiffies
  obtain ⟨ticks, readTicks, -⟩ := (legibleInt_iff finished.message
    "clk_tck" False hundred fitsHundred).mp wellFormed.clkTck
  obtain ⟨peak, readPeak, -⟩ := (legibleInt_iff finished.message
    "peak_memory_kb" False zero fitsZero).mp wellFormed.peakMemoryKb
  exact ⟨(code, ⟨wall, jiffies, ticks, peak⟩), conversions_eq_some.mpr
    ⟨readCode, readWall, readJiffies, readTicks, readPeak⟩⟩

private theorem terminal_iff (event : DomainEvent) :
    isTerminal event = true ↔ rankOf event.eventType = 2 := by
  rw [isTerminal]
  cases event.eventType <;> decide

/-- A finished phase that isn't remembered is mapped to a terminal event. -/
theorem answer_of_finishes (finishes : Finishes name report)
    (unseen : cache.lookup name ≠ some report.phase) :
    ∃ events after, answer cache report = .ok (events, after) ∧
      ∃ event ∈ events, rankOf event.eventType = 2 := by
  obtain ⟨finished, samePod, named, wellFormed, readable⟩ := finishes
  obtain ⟨converted, converts⟩ := conversions_of_wellFormed wellFormed
  have phase : report.phase = finished.status.phase := by
    rw [Report.phase, ← samePod, finished.has_status]
    rfl
  subst named
  rw [phase] at unseen
  obtain ⟨mapped, maps, came⟩ := mapPhase_maps finished report.eventId
    (cache.lookup finished.metadata.name) readable
  obtain ⟨others, after, -, answers⟩ := mapPodEvent_answers finished unseen
    report.event.eventType report.log report.eventId
  obtain ⟨event, one, terminal, -⟩ :=
    maps.answers converted.1 converted.2 converts
  rw [one] at came
  have answered : answer cache report =
      .ok ([event] ++ others, after [event]) := by
    rw [answer, ← samePod]
    exact answers _ came
  exact ⟨_, _, answered, event,
    List.mem_append_left others (List.mem_singleton_self _),
    (terminal_iff event).mp terminal⟩

end Answers

/-! ### Runs -/

section Runs

variable {log next : MapperLog} {report : Report} {seen : List Report}
  {name : PodName}

/-- The remembered phase is one that was reported, and the last one that
brought an event. -/
def Remembered (name : PodName) (seen : List Report) (log : MapperLog) :
    Prop :=
  match log.cache.lookup name with
  | none => eventsOf name log = []
  | some phase =>
      (∃ report ∈ seen, report.isOf name = true ∧ report.phase = phase) ∧
      (∃ event ∈ eventsOf name log,
        rankOf event.eventType = stageOf phase) ∧
      ∀ event ∈ eventsOf name log, rankOf event.eventType ≤ stageOf phase

/-- The events of a pod came in the order of its stages, each stage brought
one, and the finished one that can be mapped did; until the pod is deleted its
phase is remembered. -/
structure Reported (name : PodName) (seen : List Report) (log : MapperLog) :
    Prop where
  increasing : (eventsOf name log).Pairwise fun earlier later =>
    rankOf earlier.eventType < rankOf later.eventType
  remembered : (∀ report ∈ seen, report.isOf name = true →
    report.isDeleted = false) → Remembered name seen log
  finished : (∃ report ∈ seen, Finishes name report) →
    ∃ event ∈ eventsOf name log, rankOf event.eventType = 2

/-- What is remembered of a pod depends on its entry and its events. -/
theorem Remembered.of_view (remembered : Remembered name seen log)
    (report : Report) (sameEvents : eventsOf name next = eventsOf name log)
    (sameEntry : next.cache.lookup name = log.cache.lookup name) :
    Remembered name (seen ++ [report]) next := by
  unfold Remembered at remembered ⊢
  rw [sameEntry, sameEvents]
  cases entry : log.cache.lookup name with
  | none =>
      rw [entry] at remembered
      exact remembered
  | some phase =>
      rw [entry] at remembered
      obtain ⟨⟨earlier, member, isOf, same⟩, events⟩ := remembered
      exact ⟨⟨earlier, List.mem_append_left _ member, isOf, same⟩, events⟩

theorem eventsOf_append {cache : EventCache} {events : List DomainEvent} :
    eventsOf name { cache, mapped := log.mapped ++ [(report, events)] } =
      eventsOf name log ++ if report.isOf name then events else [] := by
  cases own : report.isOf name with
  | false => simp [eventsOf, own]
  | true => simp [eventsOf, own]

/-- What a report leaves. -/
theorem mapper_step (stepped : mapper.step log report = some next) :
    (∃ error, answer log.cache report = .error error ∧
      next = { log with mapped := log.mapped ++ [(report, [])] }) ∨
    ∃ events cache, answer log.cache report = .ok (events, cache) ∧
      next = { cache, mapped := log.mapped ++ [(report, events)] } := by
  simp only [mapper, Option.some.injEq] at stepped
  cases answered : answer log.cache report with
  | error error =>
      rw [answered] at stepped
      exact .inl ⟨error, rfl, stepped.symm⟩
  | ok result =>
      rw [answered] at stepped
      exact .inr ⟨result.1, result.2, rfl, stepped.symm⟩

private theorem isOf_of_finishes (finishes : Finishes name report) :
    report.isOf name = true := by
  obtain ⟨finished, samePod, named, -⟩ := finishes
  simp [Report.isOf, ← samePod, finished.has_metadata, named]

private theorem finishes_stage (finishes : Finishes name report) :
    stageOf report.phase = 2 := by
  obtain ⟨finished, samePod, -⟩ := finishes
  have phase : report.phase = finished.status.phase := by
    rw [Report.phase, ← samePod, finished.has_status]
    rfl
  rw [phase]
  rcases finished.finished with same | same <;> rw [same] <;> decide

/-- A report of another pod. -/
theorem reported_other (reported : Reported name seen log)
    (other : report.isOf name = false) (keeps : KeepsEntry name log report)
    (stepped : mapper.step log report = some next) :
    Reported name (seen ++ [report]) next := by
  have unchanged : eventsOf name next = eventsOf name log ∧
      next.cache.lookup name = log.cache.lookup name := by
    rcases mapper_step stepped with failed | mapped
    · obtain ⟨error, -, rfl⟩ := failed
      rw [eventsOf_append, other]
      exact ⟨List.append_nil _, rfl⟩
    · obtain ⟨events, cache, answered, rfl⟩ := mapped
      rw [eventsOf_append, other]
      exact ⟨List.append_nil _,
        lookup_of_other other (keeps events cache answered) answered⟩
  obtain ⟨sameEvents, sameEntry⟩ := unchanged
  refine ⟨sameEvents ▸ reported.increasing, ?_, ?_⟩
  · intro present
    have before := reported.remembered fun earlier member =>
      present earlier (List.mem_append_left _ member)
    exact before.of_view report sameEvents sameEntry
  · rintro ⟨earlier, member, finishes⟩
    rw [sameEvents]
    rcases List.mem_append.mp member with old | new
    · exact reported.finished ⟨earlier, old, finishes⟩
    · rw [List.mem_singleton.mp new] at finishes
      rw [isOf_of_finishes finishes] at other
      cases other

/-- What a pod's lifecycle means for its next report. -/
theorem Lifecycle.last (lifecycle : Lifecycle name (seen ++ [report]))
    (own : report.isOf name = true) :
    (∀ earlier ∈ seen, earlier.isOf name = true →
      earlier.isDeleted = false ∧ (earlier.phase = report.phase ∨
        stageOf earlier.phase < stageOf report.phase)) ∧
    report.phase ∈ ["Pending", "Running", "Succeeded", "Failed"] ∧
    (report.event.pod.status.bind PodStatus.reason =
      some "DeadlineExceeded" → report.phase = "Failed") := by
  have last : report ∈ seen ++ [report] := by simp
  refine ⟨?_, lifecycle.phases report last own,
    lifecycle.deadline report last own⟩
  intro earlier member isOf
  have split : (seen ++ [report]).filter (Report.isOf · name) =
      seen.filter (Report.isOf · name) ++ [report] := by
    simp [own]
  have inFilter : earlier ∈ seen.filter (Report.isOf · name) :=
    List.mem_filter.mpr ⟨member, isOf⟩
  have monotone := lifecycle.monotone
  have deletedLast := lifecycle.deletedLast
  rw [split] at monotone deletedLast
  exact ⟨(List.pairwise_append.mp deletedLast).2.2 earlier inFilter report
      (List.mem_singleton_self _),
    (List.pairwise_append.mp monotone).2.2 earlier inFilter report
      (List.mem_singleton_self _)⟩

private theorem stageOf_le (phase : String) : stageOf phase ≤ 2 := by
  unfold stageOf
  split
  · exact Nat.zero_le 2
  · split
    · exact Nat.le_succ 1
    · exact Nat.le_refl 2

/-- Before a deletion no event is one of it. -/
theorem Remembered.rank_le (remembered : Remembered name seen log)
    (event : DomainEvent) (member : event ∈ eventsOf name log) :
    rankOf event.eventType ≤ 2 := by
  unfold Remembered at remembered
  cases entry : log.cache.lookup name with
  | none =>
      rw [entry] at remembered
      rw [remembered] at member
      cases member
  | some phase =>
      rw [entry] at remembered
      exact (remembered.2.2 event member).trans (stageOf_le phase)

/-- When the phase of a report isn't remembered, the events are of earlier
stages. -/
theorem Remembered.rank_lt (remembered : Remembered name seen log)
    (ordered : ∀ earlier ∈ seen, earlier.isOf name = true →
      earlier.isDeleted = false ∧ (earlier.phase = report.phase ∨
        stageOf earlier.phase < stageOf report.phase))
    (unseen : log.cache.lookup name ≠ some report.phase)
    (event : DomainEvent) (member : event ∈ eventsOf name log) :
    rankOf event.eventType < stageOf report.phase := by
  unfold Remembered at remembered
  cases entry : log.cache.lookup name with
  | none =>
      rw [entry] at remembered
      rw [remembered] at member
      cases member
  | some phase =>
      rw [entry] at remembered
      obtain ⟨⟨earlier, before, isOf, same⟩, -, atMost⟩ := remembered
      rcases (ordered earlier before isOf).2 with equal | less
      · rw [entry, ← same, equal] at unseen
        exact absurd rfl unseen
      · rw [same] at less
        exact (atMost event member).trans_lt less

/-- A remembered phase brought its event. -/
theorem Remembered.brought {phase : String}
    (remembered : Remembered name seen log)
    (entry : log.cache.lookup name = some phase) :
    ∃ event ∈ eventsOf name log, rankOf event.eventType = stageOf phase := by
  unfold Remembered at remembered
  rw [entry] at remembered
  exact remembered.2.1

/-- The events of a report go behind those of the earlier ones. -/
theorem increasing_append {after : EventCache}
    {events main closing : List DomainEvent}
    (reported : Reported name seen log)
    (remembered : Remembered name seen log)
    (ordered : ∀ earlier ∈ seen, earlier.isOf name = true →
      earlier.isDeleted = false ∧ (earlier.phase = report.phase ∨
        stageOf earlier.phase < stageOf report.phase))
    (answered : Answered name log.cache after report events main closing) :
    (eventsOf name log ++ events).Pairwise fun earlier later =>
      rankOf earlier.eventType < rankOf later.eventType := by
  have stage := stageOf_le report.phase
  rw [answered.all, ← List.append_assoc]
  have behind : (eventsOf name log ++ main).Pairwise fun earlier later =>
      rankOf earlier.eventType < rankOf later.eventType := by
    rcases answered.phase with none | one
    · rw [none, List.append_nil]
      exact reported.increasing
    · obtain ⟨event, rfl, rank, unseen⟩ := one
      apply List.pairwise_append.mpr
      refine ⟨reported.increasing, List.pairwise_singleton .., ?_⟩
      intro earlier member later isEvent
      rw [List.mem_singleton.mp isEvent, rank]
      exact remembered.rank_lt ordered unseen earlier member
  rcases answered.ending with none | one
  · rw [none, List.append_nil]
    exact behind
  · obtain ⟨event, rfl, rank, -⟩ := one
    apply List.pairwise_append.mpr
    refine ⟨behind, List.pairwise_singleton .., ?_⟩
    intro earlier member later isEvent
    rw [List.mem_singleton.mp isEvent, rank]
    rcases List.mem_append.mp member with old | new
    · exact Nat.lt_succ_of_le (remembered.rank_le earlier old)
    · rcases answered.phase with none | one
      · rw [none] at new
        cases new
      · obtain ⟨own, rfl, ownRank, -⟩ := one
        rw [List.mem_singleton.mp new, ownRank]
        exact Nat.lt_succ_of_le stage

/-- A phase that brought an event is remembered, unless its pod is deleted. -/
theorem remembered_append {after : EventCache}
    {events main closing : List DomainEvent}
    (remembered : Remembered name seen log)
    (ordered : ∀ earlier ∈ seen, earlier.isOf name = true →
      earlier.isDeleted = false ∧ (earlier.phase = report.phase ∨
        stageOf earlier.phase < stageOf report.phase))
    (own : report.isOf name = true) (present : report.isDeleted = false)
    (answered : Answered name log.cache after report events main closing) :
    Remembered name (seen ++ [report])
      { cache := after, mapped := log.mapped ++ [(report, events)] } := by
  obtain ⟨noClosing, remembers⟩ := answered.remembers present
  have all := answered.all
  rw [noClosing, List.append_nil] at all
  rcases answered.phase with none | one
  · rw [none] at remembers all
    apply remembered.of_view report
    · rw [eventsOf_append, all, ite_self, List.append_nil]
    · exact congrArg (AList.lookup name) remembers
  · obtain ⟨event, rfl, rank, unseen⟩ := one
    have entry : after.lookup name = some report.phase := by
      rw [remembers]
      exact lookup_remember_self
    unfold Remembered
    rw [eventsOf_append, if_pos own, all]
    simp only [entry]
    refine ⟨⟨report, by simp, own, rfl⟩, ⟨event, by simp, rank⟩, ?_⟩
    intro other member
    rcases List.mem_append.mp member with old | new
    · exact Nat.le_of_lt (remembered.rank_lt ordered unseen other old)
    · rw [List.mem_singleton.mp new]
      exact rank.le

/-- A report of the pod itself. -/
theorem reported_own (reported : Reported name seen log)
    (own : report.isOf name = true)
    (lifecycle : Lifecycle name (seen ++ [report]))
    (stepped : mapper.step log report = some next) :
    Reported name (seen ++ [report]) next := by
  obtain ⟨ordered, known, deadline⟩ := lifecycle.last own
  have remembered := reported.remembered fun earlier member isOf =>
    (ordered earlier member isOf).1
  have old {event : DomainEvent} {cache : EventCache}
      {events : List DomainEvent} (member : event ∈ eventsOf name log) :
      event ∈ eventsOf name
        { cache, mapped := log.mapped ++ [(report, events)] } := by
    rw [eventsOf_append]
    exact List.mem_append_left _ member
  have finished {cache : EventCache} {events : List DomainEvent}
      (mapped : Finishes name report →
        log.cache.lookup name ≠ some report.phase →
          ∃ event ∈ events, rankOf event.eventType = 2) :
      (∃ earlier ∈ seen ++ [report], Finishes name earlier) →
        ∃ event ∈ eventsOf name
          { cache, mapped := log.mapped ++ [(report, events)] },
            rankOf event.eventType = 2 := by
    rintro ⟨earlier, member, finishes⟩
    rcases List.mem_append.mp member with before | new
    · obtain ⟨event, inside, rank⟩ :=
        reported.finished ⟨earlier, before, finishes⟩
      exact ⟨event, old inside, rank⟩
    · rw [List.mem_singleton.mp new] at finishes
      by_cases entry : log.cache.lookup name = some report.phase
      · obtain ⟨event, inside, rank⟩ := remembered.brought entry
        exact ⟨event, old inside, rank.trans (finishes_stage finishes)⟩
      · obtain ⟨event, inside, rank⟩ := mapped finishes entry
        refine ⟨event, ?_, rank⟩
        rw [eventsOf_append, if_pos own]
        exact List.mem_append_right _ inside
  rcases mapper_step stepped with failed | mapped
  · obtain ⟨error, raised, rfl⟩ := failed
    have same : eventsOf name
        { log with mapped := log.mapped ++ [(report, [])] } =
          eventsOf name log := by
      rw [eventsOf_append, ite_self, List.append_nil]
    refine ⟨same ▸ reported.increasing,
      fun _ => remembered.of_view report same rfl, finished ?_⟩
    intro finishes unseen
    obtain ⟨events, after, answered, -⟩ := answer_of_finishes finishes unseen
    cases raised.symm.trans answered
  · obtain ⟨events, after, came, rfl⟩ := mapped
    obtain ⟨main, closing, answered⟩ :=
      answered_of_ok own known deadline came
    refine ⟨?_, ?_, finished ?_⟩
    · rw [eventsOf_append, if_pos own]
      exact increasing_append reported remembered ordered answered
    · intro present
      exact remembered_append remembered ordered own
        (present report (by simp) own) answered
    · intro finishes unseen
      obtain ⟨others, later, otherwise, brings⟩ :=
        answer_of_finishes finishes unseen
      cases came.symm.trans otherwise
      exact brings

theorem Lifecycle.left {reports later : List Report}
    (lifecycle : Lifecycle name (reports ++ later)) :
    Lifecycle name reports where
  phases report member := lifecycle.phases report
    (List.mem_append_left _ member)
  deadline report member := lifecycle.deadline report
    (List.mem_append_left _ member)
  monotone := by
    have monotone := lifecycle.monotone
    rw [List.filter_append] at monotone
    exact (List.pairwise_append.mp monotone).1
  deletedLast := by
    have deletedLast := lifecycle.deletedLast
    rw [List.filter_append] at deletedLast
    exact (List.pairwise_append.mp deletedLast).1

/-- What is reported of a pod, over a run. -/
theorem reported_run {final : MapperLog} {reports : List Report}
    (reported : Reported name seen log)
    (lifecycle : Lifecycle name (seen ++ reports))
    (keeps : mapper.Along (KeepsEntry name) log reports)
    (reached : mapper.run log reports = some final) :
    Reported name (seen ++ reports) final := by
  induction reports generalizing seen log with
  | nil =>
      cases reached
      rw [List.append_nil]
      exact reported
  | cons report reports inductionHypothesis =>
      obtain ⟨next, stepped, rest⟩ := Option.bind_eq_some_iff.mp reached
      rw [List.append_cons] at lifecycle ⊢
      have after : Reported name (seen ++ [report]) next := by
        cases own : report.isOf name with
        | true => exact reported_own reported own lifecycle.left stepped
        | false => exact reported_other reported own keeps.1 stepped
      exact inductionHypothesis after lifecycle (keeps.2 next stepped) rest

private theorem reported_nothing : Reported name [] {} where
  increasing := List.Pairwise.nil
  remembered _ := rfl
  finished := by
    rintro ⟨report, member, -⟩
    cases member

/-- The cache of a run doesn't outgrow its limit. -/
theorem length_run {final : MapperLog} {reports : List Report}
    (reached : mapper.run {} reports = some final) :
    final.cache.entries.length ≤ maxCacheSize := by
  apply mapper.run_invariant'
    (fun log => log.cache.entries.length ≤ maxCacheSize) ?_ (Nat.zero_le _)
    reached
  intro log report next fits stepped
  rcases mapper_step stepped with failed | mapped
  · obtain ⟨error, -, rfl⟩ := failed
    exact fits
  · obtain ⟨events, cache, answered, rfl⟩ := mapped
    exact length_of_ok fits answered

/-- Of events in the order of their stages, one at most is of a stage. -/
theorem length_of_rank {events : List DomainEvent} (test : DomainEvent → Bool)
    (rank : Nat)
    (passes : ∀ event, test event = true → rankOf event.eventType = rank)
    (increasing : events.Pairwise fun earlier later =>
      rankOf earlier.eventType < rankOf later.eventType) :
    (events.filter test).length ≤ 1 := by
  cases found : events.filter test with
  | nil => exact Nat.zero_le 1
  | cons first others =>
      cases others with
      | nil => exact Nat.le_refl 1
      | cons second others =>
          have pair := increasing.filter test
          rw [found] at pair
          have less := List.rel_of_pairwise_cons pair (List.mem_cons_self)
          have passed {event : DomainEvent}
              (member : event ∈ first :: second :: others) :
              rankOf event.eventType = rank := by
            rw [← found] at member
            exact passes event (List.mem_filter.mp member).2
          rw [passed (by simp), passed (by simp)] at less
          exact absurd less (Nat.lt_irrefl rank)

/-- The cache keeps within its limit, whatever is reported.  Of the events of a
pod that goes through its phases in order, while its entry is not evicted, each
kind comes once at most, and one terminal event comes when a phase was reported
that finishes it. -/
theorem each_step_once {reports : List Report} {final : MapperLog}
    (reached : mapper.run {} reports = some final) :
    final.cache.entries.length ≤ maxCacheSize ∧
    ∀ name, Lifecycle name reports →
      mapper.Along (KeepsEntry name) {} reports →
        (∀ kind : EventType, ((eventsOf name final).filter fun event =>
          event.eventType == kind).length ≤ 1) ∧
        ((eventsOf name final).filter isTerminal).length ≤ 1 ∧
        ((∃ report ∈ reports, Finishes name report) →
          ((eventsOf name final).filter isTerminal).length = 1) := by
  refine ⟨length_run reached, ?_⟩
  intro name lifecycle keeps
  have reported : Reported name reports final :=
    reported_run reported_nothing lifecycle keeps reached
  have terminals : ((eventsOf name final).filter isTerminal).length ≤ 1 :=
    length_of_rank isTerminal 2 (fun event => (terminal_iff event).mp)
      reported.increasing
  refine ⟨?_, terminals, ?_⟩
  · intro kind
    apply length_of_rank _ (rankOf kind) ?_ reported.increasing
    intro event same
    rw [beq_iff_eq.mp same]
  · intro finishes
    obtain ⟨event, member, rank⟩ := reported.finished finishes
    have some : event ∈ (eventsOf name final).filter isTerminal :=
      List.mem_filter.mpr ⟨member, (terminal_iff event).mpr rank⟩
    have positive := List.length_pos_of_mem some
    omega

/-- A cache with room evicts nothing. -/
theorem keepsEntry_of_room (room : log.cache.entries.length < maxCacheSize) :
    KeepsEntry name log report := by
  intro events cache _ _ _ member
  rwa [evict, if_neg (Nat.not_le.mpr room)]

/-- A report of a pod of the worker. -/
def executorReport (eventType : WatchEventType) (status : PodStatus) :
    Report where
  event :=
    { eventType := eventType
      pod := { metadata := some executorMetadata, status := some status } }

/-- A container that runs. -/
def runningStatus : PodStatus where
  phase := "Running"
  containerStatuses := [{ name := "executor", state := some { running := true } }]

/-- A pod is placed, runs, finishes and is deleted; reports repeat, and another
pod is reported in between. -/
def podReports : List Report :=
  [executorReport .added { phase := "Pending" },
    executorReport .modified
      { phase := "Pending"
        conditions := [{ type := "PodScheduled", status := "True" }] },
    executorReport .modified { phase := "Running" },
    executorReport .modified runningStatus,
    { event :=
        { eventType := .modified
          pod :=
            { metadata := some { name := "exec-e2" }
              status := some runningStatus } } },
    executorReport .added runningStatus,
    executorReport .modified (succeededStatus "exit_code=0"),
    executorReport .added (succeededStatus "exit_code=0"),
    executorReport .deleted (succeededStatus "exit_code=0")]

private theorem finishes_succeeded :
    ∃ report ∈ podReports, Finishes executorMetadata.name report := by
  refine ⟨executorReport .modified (succeededStatus "exit_code=0"),
    by simp [podReports], succeededPod "exit_code=0", rfl, rfl, ?_, nofun⟩
  have exitCode : (succeededPod "exit_code=0").message.lookup
      "exit_code".toList = some ['0'] := by decide
  have missing (key : String) (absent : (succeededPod "exit_code=0").message.lookup
      key.toList = none) :
      LegibleInt (succeededPod "exit_code=0").message key False := by
    intro text found
    cases absent.symm.trans found
  refine ⟨?_, ?_, missing _ (by decide), missing _ (by decide),
    missing _ (by decide)⟩
  · intro text found
    cases exitCode.symm.trans found
    exact ⟨0, by decide, False.elim⟩
  · intro text found
    have absent : (succeededPod "exit_code=0").message.lookup
      "wall_seconds".toList = none := by decide
    cases absent.symm.trans found

theorem each_step_once_succeeded :
    ∃ final, mapper.run {} podReports = some final ∧
      (∀ kind : EventType, ((eventsOf executorMetadata.name final).filter
        fun event => event.eventType == kind).length ≤ 1) ∧
      ((eventsOf executorMetadata.name final).filter isTerminal).length =
        1 := by
  have ran : ∃ final, mapper.run {} podReports = some final :=
    ⟨_, rfl⟩
  obtain ⟨final, reached⟩ := ran
  have lifecycle : Lifecycle executorMetadata.name podReports := by
    constructor <;> decide
  have hasRoom : mapper.checkAlong (fun log _ =>
      decide (log.cache.entries.length < maxCacheSize)) {} podReports =
        true := by
    decide +kernel
  have keeps : mapper.Along (KeepsEntry executorMetadata.name) {} podReports :=
    mapper.along_of_check (fun log report room =>
      keepsEntry_of_room (of_decide_eq_true room)) hasRoom
  obtain ⟨kinds, -, finished⟩ :=
    (each_step_once reached).2 executorMetadata.name lifecycle keeps
  exact ⟨final, reached, kinds, finished finishes_succeeded⟩

end Runs

end PodReports

end Integr8s
