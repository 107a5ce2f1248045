/-
Module: Integr8s.Proofs.EnforcedLimits
Purpose: The limits that are shown for a language are those of its pods, and
  its running slot outlasts its pod's deadline by the grace.
Trusted boundary: none
Main exports: EnforcedLimits.IsLarger, EnforcedLimits.SlotGiven,
  EnforcedLimits.Enforced, EnforcedLimits.limits_enforced
-/
import Integr8s.Proofs.AdmittedLimits
import Integr8s.Proofs.AwaitedCommands
import Integr8s.Proofs.LoneCalls

namespace Integr8s

namespace EnforcedLimits

open AdmittedLimits
open Setting
open SystemSettingsSchema (accepts)

/-- A quantity is one of two, and neither of them exceeds it. -/
structure IsLarger (first second larger : String) : Prop where
  either : larger = first ∨ larger = second
  first : AtMost first larger
  second : AtMost second larger

/-- What a call of `try_schedule` leaves if it hands out this execution: a
running slot that lasts, from a moment of the call, for this many seconds. -/
def SlotGiven (executionId : ExecutionId) (event : ExecutionRequestedEvent)
    (lasts : Nat) (world : World)
    (result : Except PyException
      (Option (ExecutionId × ExecutionRequestedEvent)))
    (after : World) : Prop :=
  result = .ok (some (executionId, event)) →
    ∃ scheduledAt, world.clock ≤ scheduledAt ∧ scheduledAt ≤ after.clock ∧
      after.queue.running.score executionId =
        some (scheduledAt + seconds lasts)

/-- Whatever a call of `try_schedule` hands out has the slot of its request. -/
def SlotsGiven (world : World)
    (result : Except PyException
      (Option (ExecutionId × ExecutionRequestedEvent)))
    (after : World) : Prop :=
  ∀ executionId event, SlotGiven executionId event
    (ExecutionQueueService.slotSeconds event) world result after

/-! ### Deadlines of running slots -/

section Slots

variable {caller : Caller} {world : World}

/-- Giving a user's slot back ends, whatever becomes of it. -/
theorem ends_releaseUserSlot_anyhow (executionId : ExecutionId) :
    anyhow.Ends backend caller
      (ExecutionQueueService.releaseUserSlot executionId)
      (fun _ _ => True) world := by
  unfold ExecutionQueueService.releaseUserSlot
  rw [ends_attempt, ends_bind]
  apply ends_call
  intro between _ choice reply next _ _
  rcases reply with error | _ | userId
  · dsimp only
    split
    · exact trivial
    · exact trivial
  · exact trivial
  · apply ends_call
    intro _ _ choice reply next _ _
    rcases reply with error | _
    · dsimp only
      split
      · exact trivial
      · exact trivial
    · exact trivial

/-- A request that was lost is reported. -/
theorem ends_loseRequest_anyhow (executionId : ExecutionId) :
    anyhow.Ends backend caller
      (do
        let _ ← ExecutionQueueService.await (.dropRunning executionId)
        ExecutionQueueService.releaseUserSlot executionId
        Coroutine.raise (.queuedRequestLostError executionId) :
          Program (Option (ExecutionId × ExecutionRequestedEvent)))
      (fun result _ => ∃ error, result = .error error) world := by
  rw [ends_bind]
  apply ends_call
  intro _ _ choice reply next _ _
  rcases reply with error | _
  · exact ⟨error, rfl⟩
  · simp only [ends_bind]
    apply ends_mono _ (ends_releaseUserSlot_anyhow executionId)
    rintro (error | _) after -
    · exact ⟨error, rfl⟩
    · exact ⟨_, rfl⟩

/-- The deadline that is set for an execution with a running slot. -/
theorem ends_moveDeadlines_anyhow {executionId : ExecutionId}
    {event : ExecutionRequestedEvent}
    (runs : executionId ∈ world.queue.running) :
    anyhow.Ends backend caller
      (do
        let scheduledAt ← request .now
        let _ ← ExecutionQueueService.await (.moveDeadlines executionId
          event.metadata.userId (scheduledAt +
            seconds (ExecutionQueueService.slotSeconds event)))
        pure (some (executionId, event)) :
          Program (Option (ExecutionId × ExecutionRequestedEvent)))
      (SlotsGiven world) world := by
  rw [ends_bind]
  apply ends_call
  intro first later choice reply next _ performed
  obtain ⟨queue, -, clock⟩ := anyhow_later later
  rcases World.perform_cases performed with ⟨-, went⟩ | ⟨error, rfl, -⟩
  · cases went
    simp only [ends_bind]
    apply ends_call
    intro between later choice reply next _ performed
    obtain ⟨queueToo, -, clockToo⟩ := anyhow_later later
    rcases World.perform_cases performed with ⟨-, went⟩ | ⟨error, rfl, -⟩
    · cases went
      rintro _ _ ⟨⟩
      refine ⟨first.clock, clock, clockToo, ?_⟩
      obtain ⟨old, scored⟩ := SortedSet.mem_iff_score.mp runs
      rw [← queue, ← queueToo] at scored
      refine SortedSet.score_addExisting_self.trans ?_
      rw [scored]
      rfl
    · rintro other requested ⟨⟩
  · rintro other requested ⟨⟩

theorem ends_trySchedule (maxActive : Nat) :
    anyhow.Ends backend caller (ExecutionQueueService.trySchedule maxActive)
      (SlotsGiven world) world := by
  unfold ExecutionQueueService.trySchedule
  rw [ends_bind]
  apply ends_call
  intro first later choice reply next _ performed
  have clock := (anyhow_later later).2.2
  rcases World.perform_cases performed with ⟨-, went⟩ | ⟨error, rfl, -⟩
  · cases went
    simp only [ends_bind]
    apply ends_call
    intro between later choice reply next _ performed
    have clockToo := (anyhow_later later).2.2
    rcases World.perform_cases performed with ⟨-, went⟩ | ⟨error, rfl, -⟩
    · simp only [World.effect, QueueStore.perform] at went
      rcases between.queue.trySchedule_cases maxActive first.clock
          (first.clock + seconds provisionalSlotSeconds) with
        ⟨same, -⟩ | ⟨priority, executionId, score, -, -, same⟩
      · simp only [same, Prod.mk.injEq] at went
        obtain ⟨rfl, rfl⟩ := went
        rintro executionId event ⟨⟩
      · simp only [same, Prod.mk.injEq] at went
        obtain ⟨rfl, rfl⟩ := went
        simp only [ends_bind]
        apply ends_call
        intro second later choice reply next _ performed
        obtain ⟨queue, -, clockSecond⟩ := anyhow_later later
        have runs : executionId ∈ second.queue.running := by
          rw [queue]
          simp [QueueStore.handOut]
        rcases World.perform_cases performed with ⟨-, went⟩ | ⟨error, rfl, -⟩
        · cases went
          cases second.queue.events.get second.clock executionId with
          | none =>
              apply ends_mono _ (ends_loseRequest_anyhow executionId)
              rintro _ after ⟨error, rfl⟩ other event ⟨⟩
          | some event =>
              apply ends_mono _ (ends_moveDeadlines_anyhow runs)
              intro result after given other requested same
              obtain ⟨scheduledAt, since, until', scored⟩ :=
                given other requested same
              have begins := (clock.trans clockToo).trans clockSecond
              exact ⟨scheduledAt, begins.trans since, until', scored⟩
        · rintro other event ⟨⟩
    · rintro executionId event ⟨⟩
  · rintro executionId event ⟨⟩

/-- A slot that a script gives lasts at least this many seconds. -/
def Lasts (lasts : Nat) : Command → Prop
  | .queue (.trySchedule _ now deadline) => now + seconds lasts ≤ deadline
  | _ => True

/-- The script's deadline covers every language whose minimum an admin could
have set. -/
theorem asks_lasts {lasts : Nat} (covered : lasts ≤ provisionalSlotSeconds)
    (maxActive : Nat) :
    (ExecutionQueueService.trySchedule maxActive).Asks (Lasts lasts) := by
  apply Coroutine.Asks.bind
  · exact Coroutine.Asks.call trivial
  intro now
  apply Coroutine.Asks.bind
  · exact Coroutine.Asks.call
      (Nat.add_le_add_left (Nat.mul_le_mul_right _ covered) now)
  intro handed
  cases handed with
  | none => trivial
  | some handed =>
      apply Coroutine.Asks.bind
      · exact Coroutine.Asks.call trivial
      intro found
      cases found with
      | none =>
          apply Coroutine.Asks.bind
          · exact Coroutine.Asks.call trivial
          intro _
          apply Coroutine.Asks.bind
          · apply asks_releaseUserSlot
            intro command releases
            cases command with
            | trySchedule => cases releases
            | _ => trivial
          intro _
          exact Coroutine.Asks.raise _
      | some event =>
          apply Coroutine.Asks.bind
          · exact Coroutine.Asks.call trivial
          intro scheduledAt
          apply Coroutine.Asks.bind
          · exact Coroutine.Asks.call trivial
          intro _
          trivial

/-- The slot of what the script hands out ends at its deadline. -/
theorem score_trySchedule {queue : QueueStore}
    {maxActive now deadline : Nat} {handed : ExecutionId × Nat × Nat}
    (popped : (queue.trySchedule maxActive now deadline).1 = some handed) :
    (queue.trySchedule maxActive now deadline).2.running.score handed.1 =
      some deadline := by
  rcases queue.trySchedule_cases maxActive now deadline with
    ⟨same, -⟩ | ⟨priority, executionId, score, -, -, same⟩
  · rw [same] at popped
    cases popped
  · rw [same] at popped ⊢
    cases popped
    simp [QueueStore.handOut]

end Slots

/-! ### The limits of a pod -/

section Limits

variable {value minimum : String} {exact : ℚ} {least : PyDecimal}

/-- The larger of a limit and a minimum is the larger of the two. -/
theorem isLarger_choice (stands : exactQuantity value = some exact)
    (standsToo : exactQuantity minimum = some least.value) :
    IsLarger value minimum
      (if least.value ≤ exact then value else minimum) := by
  split
  · next larger =>
      exact ⟨.inl rfl, ⟨_, _, stands, stands, le_refl _⟩,
        ⟨_, _, standsToo, stands, larger⟩⟩
  · next smaller =>
      exact ⟨.inr rfl, ⟨_, _, stands, standsToo, (not_le.mp smaller).le⟩,
        ⟨_, _, standsToo, standsToo, le_refl _⟩⟩

end Limits

/-! ### Limits as they are enforced -/

/-- The limits that are shown for the language of an event, and what enforces
them. -/
structure Enforced (settings : Settings) (admitted : SystemSettings)
    (event : ExecutionRequestedEvent) (limits : LanguageLimitsDomain) :
    Prop where
  shown : RuntimeSettingsLoader.languageLimits settings admitted
    event.language = .ok limits
  pod : ∃ pod container,
    PodBuilder.buildPodManifest settings event = .ok pod ∧
      pod.spec.containers = [container] ∧
      container.resources.memoryLimit = limits.memoryLimit ∧
      container.resources.cpuLimit = limits.cpuLimit ∧
      pod.spec.activeDeadlineSeconds = some limits.executionTimeout
  memory : IsLarger admitted.memoryLimit
    (podRuntimeConfig event.language).minMemory limits.memoryLimit
  cpu : IsLarger admitted.cpuLimit
    (podRuntimeConfig event.language).minCpu limits.cpuLimit
  timeout : limits.executionTimeout = max admitted.maxTimeoutSeconds
    (podRuntimeConfig event.language).minTimeoutSeconds
  slot : ∀ caller world maxActive,
    anyhow.Ends backend caller (ExecutionQueueService.trySchedule maxActive)
      (fun result after => ∀ executionId, SlotGiven executionId event
        (limits.executionTimeout.toNat + 300) world result after) world

/-- The slot of an execution until its request is read: under these settings it
outlasts the pods of every language whose minimum is at most the largest
timeout that an admin may set. -/
structure Provisional (admitted : SystemSettings) : Prop where
  lasts : ∀ config : PodRuntimeConfig, config.minTimeoutSeconds ≤ 3600 →
    ∀ maxActive, (ExecutionQueueService.trySchedule maxActive).Asks
      (Lasts ((config.timeoutFor admitted.maxTimeoutSeconds).toNat + 300))
  given : ∀ (queue : QueueStore) (maxActive now deadline : Nat) handed,
    (queue.trySchedule maxActive now deadline).1 = some handed →
      (queue.trySchedule maxActive now deadline).2.running.score handed.1 =
        some deadline

private theorem timeout_within {admitted : SystemSettings}
    (accepted : accepts admitted = true) :
    1 ≤ admitted.maxTimeoutSeconds ∧ admitted.maxTimeoutSeconds ≤ 3600 := by
  simp only [accepts, SystemSettingsSchema.within, Bool.and_eq_true,
    decide_eq_true_eq] at accepted
  obtain ⟨⟨⟨⟨⟨⟨⟨⟨within, -⟩, -⟩, -⟩, -⟩, -⟩, -⟩, -⟩, -⟩ := accepted
  exact within

theorem provisional {admitted : SystemSettings}
    (accepted : accepts admitted = true) : Provisional admitted where
  lasts config least maxActive := by
    apply asks_lasts
    have most := (timeout_within accepted).2
    have bounded : config.timeoutFor admitted.maxTimeoutSeconds ≤ 3600 :=
      max_le most least
    simp only [provisionalSlotSeconds, slotGraceSeconds]
    omega
  given _ _ _ _ _ popped := score_trySchedule popped

/-- For settings that the schema accepts and whose quantities parse, the limits
that are shown for a language are those of the pod of its published event, and
the slots of its execution outlast the pod by the grace. -/
theorem limits_enforced (settings : Settings) {admitted : SystemSettings}
    (accepted : accepts admitted = true)
    (memoryParses : ∃ quantity,
      parseQuantity admitted.memoryLimit = .ok quantity)
    (cpuParses : ∃ quantity, parseQuantity admitted.cpuLimit = .ok quantity)
    (submission : Submission) (runtimeCfg : RuntimeConfig)
    (executionId : ExecutionId) (eventId : EventId) :
    (∃ limits, Enforced settings admitted
      (ExecutionService.requestedEvent settings submission runtimeCfg admitted
        executionId eventId) limits) ∧
      Provisional admitted := by
  refine ⟨?_, provisional accepted⟩
  obtain ⟨memoryAdmitted, cpuAdmitted⟩ := admitted_limits accepted
  obtain ⟨memory, _, memoryReads⟩ :=
    reads_of_parses memoryAdmitted memoryParses
  obtain ⟨cpu, _, cpuReads⟩ := reads_of_parses cpuAdmitted cpuParses
  let event := ExecutionService.requestedEvent settings submission runtimeCfg
    admitted executionId eventId
  have cpuSame : event.cpuLimit = admitted.cpuLimit := rfl
  obtain ⟨limits, told, built⟩ :=
    buildResources_eq memoryReads cpuReads settings cpuSame rfl
  obtain ⟨pod, container, manifest, containers, resources, deadline⟩ :=
    buildPodManifest_eq built
  have timed : admitted.maxTimeoutSeconds ≠ 0 := by
    have positive := (timeout_within accepted).1
    omega
  have language : event.language = submission.lang := rfl
  have shown := told
  rw [languageLimits_eq memoryReads cpuReads] at told
  cases told
  refine ⟨_, shown, ⟨pod, container, manifest, containers, ?_, ?_, ?_⟩,
    isLarger_choice memoryReads.stands (isMinimum_minMemory _).2.1,
    isLarger_choice cpuReads.stands (isMinimum_minCpu _).2.1, rfl, ?_⟩
  · rw [resources]
  · rw [resources]
  · rw [deadline]
    exact congrArg (fun timeout => some
      ((podRuntimeConfig submission.lang).timeoutFor timeout))
      (if_neg timed)
  · intro caller world maxActive
    apply ends_mono _ (ends_trySchedule maxActive)
    exact fun result after given executionId => given executionId event

theorem limits_enforced_default :
    (∃ limits, Enforced Settings.shipped {}
      (ExecutionService.requestedEvent Settings.shipped printOne pythonRuntime
        {} "x" "request") limits) ∧
      Provisional {} := by
  have accepted : accepts {} = true := by decide +kernel
  have memory : parseQuantity "512Mi" = .ok ⟨536870912, 0⟩ := by
    decide +kernel
  have cpu : parseQuantity "2000m" = .ok ⟨2000, -3⟩ := by decide +kernel
  exact limits_enforced Settings.shipped accepted ⟨_, memory⟩ ⟨_, cpu⟩ printOne
    pythonRuntime "x" "request"

end EnforcedLimits

end Integr8s
