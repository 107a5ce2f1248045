/-
Module: Integr8s.Proofs.WorkConserving
Purpose: A lone pass of `schedule_pending` terminates while no store fails, and
  on return the queue is empty or the slots are taken, and every execution that
  it popped runs with a pod or has ended.
Trusted boundary: none
Main exports: WorkConserving.noStoreFails, WorkConserving.RunsWithPod,
  WorkConserving.EndedAndFreed, WorkConserving.work_conserving,
  WorkConserving.not_settled_strictly
-/
import Integr8s.Proofs.AwaitedCommands
import Integr8s.Proofs.SchedulingPasses

namespace Integr8s

namespace WorkConserving

open Setting

/-- Around a pass time passes.  Its stores work; the creation of a pod may fail
before the pod exists, the API may refuse to make it the owner of its
ConfigMap, and an event may not be published. -/
def noStoreFails (maxActive : Nat) :
    Setting World Command Choice WorldEvent where
  event _ event := ∃ duration, event = .tick duration
  choice _ command choice :=
    match command with
    | .cluster .readEntrypoint => True
    | .cluster (.createConfigMap ..) => True
    | .cluster (.createPod ..) =>
        ∀ error, choice.outcome ≠ .unacknowledged error
    | .cluster (.setConfigMapOwner ..) =>
        ∀ error, choice.outcome.error? = some error →
          ∃ status, error = .apiException status
    | .publish _ =>
        ∀ error, choice.outcome.error? = some error →
          error.isPublishError = true
    | .effectiveSettings => choice.outcome = .succeeds ∧
        choice.settings.maxConcurrentExecutions = maxActive
    | _ => choice.outcome = .succeeds

/-- An execution runs with a pod, and it has a running slot until the time is
over that its request gives it. -/
structure RunsWithPod (executionId : ExecutionId) (start now : World) : Prop
    where
  pod : now.cluster.pods (podNameOf executionId) ≠ none
  slot : executionId ∈ now.queue.running ∨
    ∃ entry, start.queue.events executionId = some entry ∧
      start.clock + seconds (ExecutionQueueService.slotSeconds entry.value) ≤
        now.clock

/-- An execution has ended: its record, if there is one, is failed, or it had
ended before; its running slot is released, and so is the user's slot of its owner,
unless the key that names the owner has run out.  A slot that was reserved no
longer than that key lives still counts then only if its request was stored,
whose schedule moved it. -/
structure EndedAndFreed (executionId : ExecutionId) (start now : World) : Prop
    where
  record : Fails (start.executions executionId) (now.executions executionId)
  running : executionId ∉ now.queue.running
  freed : SlotFreed executionId start now
  slot : ∀ entry, start.queue.owners executionId = some entry →
    (∀ score, start.slot entry.value executionId = some score →
      score ≤ entry.expiresAt) →
    executionId ∈ now.queue.counted now.clock entry.value →
      entry.expiresAt < now.clock ∧
        start.queue.events.live start.clock executionId ≠ none

/-- What a pass has done when it returns. -/
structure Returned (maxActive : Nat) (start now : World) : Prop where
  limit : (∀ priority, (now.queue.pending priority).entries = []) ∨
    maxActive ≤ now.queue.running.card
  popped : ∃ popped, now.queue.handedOut = popped ++ start.queue.handedOut ∧
    ∀ executionId,
      (executionId ∈ popped → RunsWithPod executionId start now ∨
        EndedAndFreed executionId start now) ∧
      (executionId ∉ popped → ∀ priority,
        executionId ∈ start.queue.pending priority →
          executionId ∈ now.queue.pending priority)

/-! ### The setting of a pass -/

section Settings

variable {maxActive : Nat}

private theorem healthy_noStoreFails : Healthy (noStoreFails maxActive) := by
  intro world command choice error may wrong
  have works : choice.outcome = .succeeds → False := by
    intro succeeds
    rw [succeeds] at wrong
    cases wrong
  cases command with
  | publish event => exact .inr ⟨event, rfl, may error wrong⟩
  | cluster command =>
      cases command <;> first | exact .inl rfl | exact (works may).elim
  | effectiveSettings => exact (works may.1).elim
  | _ => exact (works may).elim

private theorem careful_noStoreFails : Careful (noStoreFails maxActive) where
  time _ _ tick := tick
  pops _ _ _ _ _ _ may lost := by cases may.symm.trans lost
  tells _ _ _ _ _ raises := by
    obtain ⟨-, _, choice, -, may, wrong⟩ := raises
    rw [may] at wrong
    cases wrong
  loads _ _ _ may := may
  moves _ _ _ _ _ may := may
  drops _ _ _ may := may
  releases _ _ _ may := .inl may
  frees _ := ⟨fun _ _ may => .inl may, fun _ _ _ may => .inl may⟩
  finds _ _ _ may := may
  creates _ _ _ _ may := may
  adopts _ _ _ _ raises := by
    obtain ⟨-, _, choice, -, may, wrong⟩ := raises
    exact may _ wrong
  takes _ _ _ may _ failed := by cases may.symm.trans failed
  writes _ _ _ _ may _ lost := by cases may.symm.trans lost
  announces queue event error _ raises := by
    rcases raises with ⟨-, _, choice, -, may, wrong⟩ |
      ⟨-, _, choice, -, may, wrong⟩
    · rw [may] at wrong
      cases wrong
    · exact may error wrong
  reports _ _ _ _ _ _ _ may lost := by cases may.symm.trans lost

/-- Every command can go through. -/
theorem goes_noStoreFails (caller : Caller) (world : World)
    (command : Command) : ∃ choice reply next,
      (noStoreFails maxActive).choice world command choice ∧
        backend.perform caller world command choice = some (reply, next) := by
  refine ⟨{ settings := { maxConcurrentExecutions := maxActive } }, _, _, ?_,
    rfl⟩
  cases command with
  | cluster command =>
      cases command with
      | createPod name pod =>
          intro error lost
          cases lost
      | setConfigMapOwner name owner =>
          intro error wrong
          cases wrong
      | readEntrypoint => trivial
      | createConfigMap name data => trivial
      | _ => rfl
  | publish event =>
      intro error wrong
      cases wrong
  | effectiveSettings => exact ⟨rfl, rfl⟩
  | _ => rfl

end Settings

/-! ### How a popped execution ends up -/

section Results

variable {start now : World} {popped : List ExecutionId}
  {executionId : ExecutionId}

theorem runsWithPod_of_running (running : Running executionId start now) :
    RunsWithPod executionId start now where
  pod := running.pod
  slot := by
    obtain ⟨entry, deadline, stored, lasts, runs⟩ := running.slot
    exact runs.imp (fun scored => SortedSet.mem_iff_score.mpr ⟨_, scored⟩)
      fun past => ⟨entry, stored, Nat.le_trans lasts past⟩

theorem endedAndFreed_of_finished (finished : Finished executionId start now)
    (worked : Worked executionId start now) :
    EndedAndFreed executionId start now where
  record := finished.record
  running := finished.running
  freed := finished.slot
  slot _ owned covered counts :=
    finished.uncounted worked owned covered counts

end Results

/-- A lone pass of `schedule_pending` ends however its steps go, as long as no
store fails.  On return nothing is pending or the limit of running slots is
reached, and every execution that it popped runs with a pod or has ended. -/
theorem work_conserving {caller : Caller} {world : World}
    (deployment : Deployment) (maxActive : Nat) (filed : Filed world) :
    (backend.solo caller).Inevitable
      ((noStoreFails maxActive).allows backend)
      (fun state => state.2 = .done (.ok ()) ∧
        Returned maxActive world state.1)
      (world, ExecutionScheduler.schedulePending deployment) := by
  have ends := Ends.inevitable (goes_noStoreFails caller)
    (@ends_schedulePending (noStoreFails maxActive) caller world
      careful_noStoreFails deployment filed)
  apply ends.mono
  rintro ⟨now, coroutine⟩ ⟨result, rfl, ⟨popped, pass⟩, goes⟩
  obtain ⟨rfl, limit, ⟨_, choice, may, rfl⟩, filled⟩ :=
    goes healthy_noStoreFails
  refine ⟨rfl, ?_, popped, pass.handedOut, fun executionId =>
    ⟨fun member => ?_, pass.stays executionId⟩⟩
  · rw [← may.2]
    exact filled.symm
  · exact (pass.settled executionId member).imp runsWithPod_of_running
      fun finished =>
        endedAndFreed_of_finished finished (pass.worked executionId)

/-! ### A pass, and four that settle less -/

section Concrete

/-- The request waits, and its record has this status. -/
def waiting (status : ExecutionStatus) : World where
  executions executionId :=
    if executionId = "x" then some (printRecord status) else none
  queue := ({} : QueueStore).enqueue 0 printRequest 0

/-- The request waits, and two other executions run. -/
def crowded : World :=
  { waiting .queued with
    queue :=
      { (waiting .queued).queue with
        running := ((∅ : SortedSet ExecutionId).add "y" 1000).add "z" 1000 } }

theorem filed_waiting (status : ExecutionStatus) : Filed (waiting status) := by
  intro executionId entry stored
  by_cases same : executionId = "x"
  · subst same
    cases stored
    rfl
  · have absent : (waiting status).queue.events executionId = none :=
      Function.update_of_ne same ..
    cases absent.symm.trans stored

/-- A step that goes through. -/
def through : Option WorldEvent × Choice :=
  (none, { settings := { maxConcurrentExecutions := 1 } })

/-- A pass whose pod is created, and two days go by before it looks for
more. -/
def slowlyStarted : List (Option WorldEvent × Choice) :=
  List.replicate 15 through ++ [(some (.tick (seconds 172800)), through.2)] ++
    List.replicate 3 through

/-- A pass whose pod can't be created. -/
def notStarted : List (Option WorldEvent × Choice) :=
  List.replicate 7 through ++ [(none, ({ outcome := .fails .valueError } : Choice))] ++
    List.replicate 10 through

/-- The request waited for nearly a day since its slot was reserved, and the
user reserved another slot ten seconds later. -/
def waitedADay : World :=
  { waiting .queued with
    clock := seconds 86399
    queue :=
      ((({} : QueueStore).admitUser 0 "u" "x" 0).enqueue (seconds 5)
        printRequest (seconds 5)).admitUser (seconds 10) "u" "y"
          (seconds 10) }

/-- A pass whose pod can't be created, and two seconds go by before the slots
are given back. -/
def tardilyEnded : List (Option WorldEvent × Choice) :=
  List.replicate 7 through ++
    [(none, ({ outcome := .fails .valueError } : Choice)),
      (some (.tick (seconds 2)), through.2)] ++
    List.replicate 14 through

/-- Whether a step is one of a pass whose commands go through, the reading of
the entrypoint apart. -/
def isAllowed {α : Type} (state : World × Program α)
    (label : Option WorldEvent × Choice) : Bool :=
  (match label.1 with
    | some (.tick _) => true
    | some _ => false
    | none => true) &&
  match state.2 with
  | .await (.cluster .readEntrypoint) _ => true
  | _ => label.2.outcome == .succeeds &&
      label.2.settings.maxConcurrentExecutions == 1

/-- A command that goes through is allowed to. -/
theorem choice_of_succeeds {world : World} {command : Command}
    {choice : Choice} (works : choice.outcome = .succeeds)
    (limit : choice.settings.maxConcurrentExecutions = 1) :
    (noStoreFails 1).choice world command choice := by
  cases command with
  | cluster command =>
      cases command with
      | readEntrypoint => trivial
      | createConfigMap name data => trivial
      | createPod name pod =>
          intro error lost
          cases works.symm.trans lost
      | setConfigMapOwner name owner =>
          intro error wrong
          rw [works] at wrong
          cases wrong
      | _ => exact works
  | publish event =>
      intro error wrong
      rw [works] at wrong
      cases wrong
  | effectiveSettings => exact ⟨works, limit⟩
  | _ => exact works

theorem allows_of_check {α : Type} (state : World × Program α)
    (label : Option WorldEvent × Choice)
    (checked : isAllowed state label = true) :
    (noStoreFails 1).allows backend state label := by
  intro command resume awaits
  obtain ⟨world, coroutine⟩ := state
  obtain ⟨event, choice⟩ := label
  cases awaits
  simp only [isAllowed, Bool.and_eq_true] at checked
  obtain ⟨passes, goes⟩ := checked
  constructor
  · rintro event rfl
    cases event with
    | tick duration => exact ⟨duration, rfl⟩
    | _ => cases passes
  · intro between _
    split at goes
    · next same =>
        cases same
        trivial
    · simp only [Bool.and_eq_true, beq_iff_eq] at goes
      exact choice_of_succeeds goes.1 goes.2

/-- A pass over the waiting request comes to such an end. -/
theorem work_conserving_waiting :
    (backend.solo 0).Inevitable ((noStoreFails 1).allows backend)
      (fun state => state.2 = .done (.ok ()) ∧
        Returned 1 (waiting .queued) state.1)
      (waiting .queued, ExecutionScheduler.schedulePending {}) :=
  work_conserving {} 1 (filed_waiting .queued)

/-- Nothing is pending or exactly the limit of executions run, and what was
popped runs in a slot and with a pod, or is failed and holds no slot. -/
structure SettledStrictly (maxActive : Nat) (now : World) : Prop where
  limit : (∀ priority, (now.queue.pending priority).entries = []) ∨
    now.queue.running.card = maxActive
  popped : ∀ executionId ∈ now.queue.handedOut,
    now.cluster.pods (podNameOf executionId) ≠ none ∧
        executionId ∈ now.queue.running ∨
      (∀ doc, now.executions executionId = some doc →
          doc.status = .failed) ∧
        executionId ∉ now.queue.running ∧
        ∀ userId, executionId ∉ now.queue.counted now.clock userId

/-- A run of a pass over this world, in which no store fails. -/
def Passes (start : World) (labels : List (Option WorldEvent × Choice))
    (final : World) : Prop :=
  (backend.solo 0).run (start, ExecutionScheduler.schedulePending {})
      labels = some (final, .done (.ok ())) ∧
    (backend.solo 0).Along ((noStoreFails 1).allows backend)
      (start, ExecutionScheduler.schedulePending {}) labels

/-- Whether a lone call returned. -/
def returned? {α : Type} (state : World × Program α) : Option α :=
  match state.2 with
  | .done (.ok value) => some value
  | _ => none

theorem eq_of_returned {α : Type} {state : World × Program α} {value : α}
    (returned : returned? state = some value) :
    state = (state.1, .done (.ok value)) := by
  obtain ⟨world, coroutine⟩ := state
  unfold returned? at returned
  split at returned
  · next same =>
      cases returned
      cases same
      rfl
  · cases returned

/-- A run that is evaluated to its end, and what is seen of its world. -/
theorem passes_of_run {Seen : Type} {start : World}
    {labels : List (Option WorldEvent × Choice)} {see : World → Seen}
    {seen : Seen}
    (ends : ((backend.solo 0).run
      (start, ExecutionScheduler.schedulePending {}) labels).map
        (fun final => (returned? final, see final.1)) = some (some (), seen))
    (checked : (backend.solo 0).checkAlong isAllowed
      (start, ExecutionScheduler.schedulePending {}) labels = true) :
    ∃ final, Passes start labels final ∧ see final = seen := by
  obtain ⟨⟨final, coroutine⟩, reached, same⟩ := Option.map_eq_some_iff.mp ends
  simp only [Prod.mk.injEq] at same
  rw [eq_of_returned same.1] at reached
  exact ⟨final, ⟨reached,
    (backend.solo 0).along_of_check allows_of_check checked⟩, same.2⟩

/-- A cancelled execution whose pod can't be created stays cancelled. -/
theorem stays_cancelled : ∃ final,
    Passes (waiting .cancelled) notStarted final ∧ ¬ SettledStrictly 1 final := by
  obtain ⟨final, passes, seen⟩ := @passes_of_run _ (waiting .cancelled)
    notStarted
    (fun final => (decide ("x" ∈ final.queue.handedOut),
      final.cluster.pods (podNameOf "x"),
      (final.executions "x").map ExecutionDocument.status))
    (true, none, some .cancelled) (by decide +kernel) (by decide +kernel)
  simp only [Prod.mk.injEq, decide_eq_true_eq] at seen
  obtain ⟨popped, missing, status⟩ := seen
  refine ⟨final, passes, fun settled => ?_⟩
  rcases settled.popped "x" popped with ⟨pod, -⟩ | ⟨failed, -⟩
  · exact pod missing
  · obtain ⟨doc, stored, cancelled⟩ := Option.map_eq_some_iff.mp status
    cases (failed doc stored).symm.trans cancelled

/-- A limit that was lowered leaves more executions running. -/
theorem runs_above_limit : ∃ final,
    Passes crowded (List.replicate 6 through) final ∧ ¬ SettledStrictly 1 final := by
  obtain ⟨final, passes, seen⟩ := @passes_of_run _ crowded
    (List.replicate 6 through)
    (fun final => (decide ("x" ∈ final.queue.pending .normal),
      final.queue.running.card))
    (true, 2) (by decide +kernel) (by decide +kernel)
  simp only [Prod.mk.injEq, decide_eq_true_eq] at seen
  obtain ⟨pending, two⟩ := seen
  refine ⟨final, passes, fun settled => ?_⟩
  rcases settled.limit with none | one
  · have absent : "x" ∉ final.queue.pending .normal := by
      simp [AList.mem_keys, AList.keys, none .normal]
    exact absent pending
  · cases two.symm.trans one

/-- A pass that takes longer than an execution may run gives its slot away. -/
theorem slot_runs_out : ∃ final,
    Passes (waiting .queued) slowlyStarted final ∧ ¬ SettledStrictly 1 final := by
  obtain ⟨final, passes, seen⟩ := @passes_of_run _ (waiting .queued)
    slowlyStarted
    (fun final => (decide ("x" ∈ final.queue.handedOut),
      decide ("x" ∈ final.queue.running),
      (final.executions "x").map ExecutionDocument.status))
    (true, false, some .queued) (by decide +kernel) (by decide +kernel)
  simp only [Prod.mk.injEq, decide_eq_true_eq, decide_eq_false_iff_not]
    at seen
  obtain ⟨popped, gone, status⟩ := seen
  refine ⟨final, passes, fun settled => ?_⟩
  rcases settled.popped "x" popped with ⟨-, runs⟩ | ⟨failed, -⟩
  · exact gone runs
  · obtain ⟨doc, stored, queued⟩ := Option.map_eq_some_iff.mp status
    cases (failed doc stored).symm.trans queued

/-- A pass that ends an execution after the key that names its owner ran out
leaves the slot of its user, which the schedule moved past that key. -/
theorem slot_outlives_owner : ∃ final,
    Passes waitedADay tardilyEnded final ∧ ¬ SettledStrictly 1 final := by
  obtain ⟨final, passes, seen⟩ := @passes_of_run _ waitedADay tardilyEnded
    (fun final => (decide ("x" ∈ final.queue.handedOut),
      decide ("x" ∈ final.queue.running),
      decide ("x" ∈ final.queue.counted final.clock "u")))
    (true, false, true) (by decide +kernel) (by decide +kernel)
  simp only [Prod.mk.injEq, decide_eq_true_eq, decide_eq_false_iff_not]
    at seen
  obtain ⟨popped, gone, counts⟩ := seen
  refine ⟨final, passes, fun settled => ?_⟩
  rcases settled.popped "x" popped with ⟨-, runs⟩ | ⟨-, -, free⟩
  · exact gone runs
  · exact free "u" counts

/-- A pass need not settle what it popped as strictly as that, in four ways: an
execution that had ended another way is not failed, the limit is exceeded, a
running slot runs out, and a user's slot is kept. -/
theorem not_settled_strictly :
    (∃ final, Passes (waiting .cancelled) notStarted final ∧
      ¬ SettledStrictly 1 final) ∧
    (∃ final, Passes crowded (List.replicate 6 through) final ∧
      ¬ SettledStrictly 1 final) ∧
    (∃ final, Passes (waiting .queued) slowlyStarted final ∧
      ¬ SettledStrictly 1 final) ∧
    ∃ final, Passes waitedADay tardilyEnded final ∧
      ¬ SettledStrictly 1 final :=
  ⟨stays_cancelled, runs_above_limit, slot_runs_out, slot_outlives_owner⟩

end Concrete

end WorkConserving

end Integr8s
