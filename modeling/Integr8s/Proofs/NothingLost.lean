/-
Module: Integr8s.Proofs.NothingLost
Purpose: When every execution that a pass of `schedule_pending` has popped is
  accounted for in whatever way the pass ends, and a step that loses one.
Trusted boundary: none
Main exports: NothingLost.careful, NothingLost.Ready, NothingLost.Accounted,
  NothingLost.nothing_lost, NothingLost.popped_lost
-/
import Integr8s.Proofs.FailedSubmissions
import Integr8s.Proofs.WorkConserving

namespace Integr8s

namespace NothingLost

open Setting

/-- Whether a way to go wrong is one of these. -/
def GoesWrong (outcome : Outcome) (may : PyException → Prop) : Prop :=
  ∀ error, outcome.error? = some error → may error

/-- Around a pass time passes, and its commands may go wrong in every way that
loses nothing: before something is popped and after it has been settled in any
way; in between, the pod's creation may fail before the pod exists, the API may
refuse to make it an owner, publish errors are logged, the answers to the
write of a failure and to the release of its slots may be lost, and what there
is nothing to release of may not be released. -/
def careful : Setting World Command Choice WorldEvent where
  event _ event := ∃ duration, event = .tick duration
  choice world command choice :=
    match command with
    | .queue (.trySchedule maxActive now deadline) =>
        GoesWrong choice.outcome fun error =>
          (∀ executionId, error ≠ .queuedRequestLostError executionId) ∧
            (choice.outcome = .unacknowledged error →
              (world.queue.trySchedule maxActive now deadline).1 = none)
    | .queue (.event _) | .queue (.moveDeadlines ..)
    | .queue (.dropRunning _) | .findExecution _ =>
        choice.outcome = .succeeds
    | .queue (.release executionId) =>
        GoesWrong choice.outcome fun error =>
          choice.outcome = .unacknowledged error ∧
            world.Slotless executionId
    | .queue (.owner executionId) =>
        GoesWrong choice.outcome fun error =>
          error = .redisError ∧ world.Slotless executionId
    | .queue (.dropUserSlot ..) =>
        GoesWrong choice.outcome fun error =>
          error = .redisError ∧ choice.outcome = .unacknowledged error
    | .cluster (.createPod ..) =>
        GoesWrong choice.outcome fun error => choice.outcome = .fails error
    | .cluster (.setConfigMapOwner ..) =>
        GoesWrong choice.outcome fun error =>
          ∃ status, error = .apiException status
    | .writeTerminalResult result =>
        GoesWrong choice.outcome fun error =>
          choice.outcome = .unacknowledged error ∧
            (result.executionId ∈ world.queue.running →
              error.isPyMongoError = true)
    | .storeEvent event | .publish event =>
        GoesWrong choice.outcome fun error =>
          event.executionId ∈ world.queue.running →
            error.isPublishError = true ∧ event.isResultFailed = false
    | _ => True

/-! ### The setting of a pass -/

section Settings

variable {outcome : Outcome} {may : PyException → Prop}

/-- A command goes through, or it goes wrong in one of the ways. -/
theorem GoesWrong.cases (goes : GoesWrong outcome may) :
    outcome = .succeeds ∨
      ∃ error, outcome.error? = some error ∧ may error := by
  cases outcome with
  | succeeds => exact .inl rfl
  | fails error => exact .inr ⟨error, rfl, goes error rfl⟩
  | unacknowledged error => exact .inr ⟨error, rfl, goes error rfl⟩

private theorem frees_careful (executionId : ExecutionId) :
    Frees careful executionId where
  reads _ _ may := by
    rcases GoesWrong.cases may with works | ⟨error, wrong, rfl, slotless⟩
    · exact .inl works
    · exact .inr ⟨wrong, slotless⟩
  drops _ _ _ may := by
    rcases GoesWrong.cases may with works | ⟨error, wrong, rfl, lost⟩
    · exact .inl works
    · exact .inr lost

/-- An event of an execution with a running slot goes out, or its failure is
logged. -/
theorem announces_careful {queue : QueueStore} {event : DomainEvent}
    {error : PyException} (runs : event.executionId ∈ queue.running)
    (raises : MayRaise careful queue (.storeEvent event) error ∨
      MayRaise careful queue (.publish event) error) :
    error.isPublishError = true ∧ event.isResultFailed = false := by
  rcases raises with ⟨-, _, choice, rfl, may, wrong⟩ |
    ⟨-, _, choice, rfl, may, wrong⟩ <;>
  exact may error wrong runs

private theorem careful_careful : Careful careful where
  time _ _ tick := tick
  pops _ _ _ _ choice error may lost :=
    (may error (by rw [lost, Outcome.error?])).2 lost
  tells _ _ _ _ executionId raises := by
    obtain ⟨-, _, choice, -, may, wrong⟩ := raises
    exact (may _ wrong).1 executionId rfl
  loads _ _ _ may := may
  moves _ _ _ _ _ may := may
  drops _ _ _ may := may
  releases _ _ _ may := by
    rcases GoesWrong.cases may with works | ⟨error, -, lost, slotless⟩
    · exact .inl works
    · exact .inr ⟨⟨error, lost⟩, slotless⟩
  frees := frees_careful
  finds _ _ _ may := may
  creates _ _ _ _ may error lost := by
    cases lost.symm.trans (may error (by rw [lost, Outcome.error?]))
  adopts _ _ _ error raises := by
    obtain ⟨-, _, choice, -, may, wrong⟩ := raises
    exact may error wrong
  takes _ _ _ may error failed := by
    cases failed.symm.trans (may error (by rw [failed, Outcome.error?])).1
  writes _ _ _ error may runs lost :=
    (may error (by rw [lost, Outcome.error?])).2 runs
  announces _ _ _ runs raises := (announces_careful runs raises).1
  reports _ _ _ _ _ _ _ _ _ failed runs raises := by
    cases failed.symm.trans (announces_careful runs raises).2

end Settings

/-- The statuses of a failure. -/
def isFailure (status : ExecutionStatus) : Bool :=
  status.isTerminal && status != .completed

/-- What is asked of the stores when a pass starts that ends by this time: what
is pending waits once, is stored and has not failed, has no pod, can hold its
running slot for so long, and counts only against a user whose key outlives the
pass if its request is still there. -/
structure Ready (start : World) (limit : Nat) : Prop where
  filed : Filed start
  once : ∀ executionId, ¬ PendingTwice executionId start
  records : ∀ executionId priority,
    executionId ∈ start.queue.pending priority →
      ∃ doc, start.executions executionId = some doc ∧
        isFailure doc.status = false
  pods : ∀ executionId priority,
    executionId ∈ start.queue.pending priority →
      start.cluster.pods (podNameOf executionId) = none
  lasts : ∀ executionId priority entry,
    executionId ∈ start.queue.pending priority →
      start.queue.events executionId = some entry →
        limit < start.clock +
          seconds (ExecutionQueueService.slotSeconds entry.value)
  owners : ∀ executionId priority userId score,
    executionId ∈ start.queue.pending priority →
      start.slot userId executionId = some score →
        ∃ expiresAt, start.queue.owners executionId =
            some ⟨userId, expiresAt⟩ ∧ score ≤ expiresAt ∧
          (start.queue.events.live start.clock executionId ≠ none →
            limit ≤ expiresAt)

/-- An execution is pending. -/
def Waits (executionId : ExecutionId) (now : World) : Prop :=
  ∃ priority, executionId ∈ now.queue.pending priority

/-- An execution that has not failed has a pod and holds a running slot. -/
structure Runs (executionId : ExecutionId) (now : World) : Prop where
  pod : now.cluster.pods (podNameOf executionId) ≠ none
  record : ∃ doc, now.executions executionId = some doc ∧
    isFailure doc.status = false
  slot : ∃ deadline, now.queue.running.score executionId = some deadline ∧
    now.clock < deadline

/-- An execution has ended, without a pod and with its slots released. -/
structure Over (executionId : ExecutionId) (now : World) : Prop where
  record : ∃ doc, now.executions executionId = some doc ∧
    doc.status.isTerminal = true
  pod : now.cluster.pods (podNameOf executionId) = none
  running : executionId ∉ now.queue.running
  slot : ∀ userId, executionId ∉ now.queue.counted now.clock userId

/-- An execution is in exactly one of the three states. -/
def Accounted (executionId : ExecutionId) (now : World) : Prop :=
  Waits executionId now ∧ ¬ Runs executionId now ∧ ¬ Over executionId now ∨
  ¬ Waits executionId now ∧ Runs executionId now ∧ ¬ Over executionId now ∨
  ¬ Waits executionId now ∧ ¬ Runs executionId now ∧ Over executionId now

/-! ### What is accounted for -/

section Results

variable {start now : World} {popped : List ExecutionId}
  {executionId : ExecutionId}

/-- What was popped is not pending again. -/
theorem not_waits (ready : Ready start now.clock)
    (pass : Pass start now popped) (member : executionId ∈ popped) :
    ¬ Waits executionId now := by
  rintro ⟨priority, waits⟩
  obtain ⟨other, waited, gone⟩ := pass.left executionId member
  refine ready.once executionId ⟨priority, other, ?_,
    pass.places priority executionId waits, waited⟩
  rintro rfl
  exact gone waits

private theorem runs_of_running (ready : Ready start now.clock)
    {priority : QueuePriority}
    (waited : executionId ∈ start.queue.pending priority)
    (running : Running executionId start now) : Runs executionId now where
  pod := running.pod
  record := by
    rcases running.record with same | twice
    · rw [same]
      exact ready.records executionId priority waited
    · exact absurd twice (ready.once executionId)
  slot := by
    obtain ⟨entry, deadline, stored, lasts, runs⟩ := running.slot
    have long := ready.lasts executionId priority entry waited stored
    rcases runs with scored | past
    · exact ⟨deadline, scored, Nat.lt_of_lt_of_le long lasts⟩
    · exact absurd (Nat.le_trans lasts past) (Nat.not_le_of_lt long)

private theorem over_of_finished (ready : Ready start now.clock)
    {priority : QueuePriority}
    (waited : executionId ∈ start.queue.pending priority)
    (finished : Finished executionId start now)
    (worked : Worked executionId start now) : Over executionId now where
  record := by
    obtain ⟨doc, stored, -⟩ := ready.records executionId priority waited
    have fails := finished.record
    rw [stored] at fails
    obtain ⟨last, there, turns⟩ := fails
    refine ⟨last, there, ?_⟩
    split at turns
    · next terminal => rwa [turns]
    · rw [turns]
      rfl
  pod := by
    rcases finished.pod with same | twice
    · rw [same]
      exact ready.pods executionId priority waited
    · exact absurd twice (ready.once executionId)
  running := finished.running
  slot userId counts := by
    obtain ⟨score, scored⟩ := SortedSet.mem_iff_score.mp counts
    obtain ⟨placed, -⟩ := QueueStore.score_counted.mp scored
    have placedNow : now.slot userId executionId = some score := placed
    obtain ⟨first, before⟩ := Option.ne_none_iff_exists'.mp
      (worked.placed (by rw [placedNow]; exact Option.some_ne_none score))
    obtain ⟨expiresAt, owned, covers, outlives⟩ :=
      ready.owners executionId priority userId first waited before
    obtain ⟨expired, stored⟩ := finished.uncounted worked owned
      (fun other same => by cases before.symm.trans same; exact covers) counts
    exact absurd expired (Nat.not_lt_of_le (outlives stored))

/-- Everything that a pass has popped is accounted for. -/
theorem accounted_of_pass (ready : Ready start now.clock)
    (pass : Pass start now popped) (member : executionId ∈ popped) :
    Accounted executionId now := by
  have gone := not_waits ready pass member
  obtain ⟨priority, waited, -⟩ := pass.left executionId member
  rcases pass.settled executionId member with running | finished
  · have runs := runs_of_running ready waited running
    exact .inr (.inl ⟨gone, runs, fun ended => runs.pod ended.pod⟩)
  · have ended := over_of_finished ready waited finished
      (pass.worked executionId)
    exact .inr (.inr ⟨gone, fun runs => runs.pod ended.pod, ended⟩)

end Results

/-- A pass that starts from ready stores and whose commands go wrong only in
these ways has, when it returns or raises, lost nothing that it popped: each
such execution waits in the queue again, runs with a pod and a slot, or is over
without either. -/
theorem nothing_lost {caller : Caller} {start final : World}
    {deployment : Deployment} {result : Except PyException Unit}
    {labels : List (Option WorldEvent × Choice)}
    (ready : Ready start final.clock)
    (along : (backend.solo caller).Along (careful.allows backend)
      (start, ExecutionScheduler.schedulePending deployment) labels)
    (reached : (backend.solo caller).run
      (start, ExecutionScheduler.schedulePending deployment) labels =
        some (final, .done result)) :
    ∃ popped, final.queue.handedOut = popped ++ start.queue.handedOut ∧
      ∀ executionId ∈ popped, Accounted executionId final := by
  obtain ⟨⟨popped, pass⟩, -⟩ := Ends.run
    (@ends_schedulePending careful caller start careful_careful deployment
      ready.filed) along reached
  exact ⟨popped, pass.handedOut, fun executionId member =>
    accounted_of_pass ready pass member⟩

/-! ### Two passes that lose something -/

section Concrete

open WorkConserving

theorem pending_waiting {executionId : ExecutionId} {priority : QueuePriority}
    {status : ExecutionStatus}
    (member : executionId ∈ (waiting status).queue.pending priority) :
    executionId = "x" ∧ priority = .normal := by
  by_cases same : priority = .normal
  · subst same
    have there : executionId ∈ (∅ : SortedSet ExecutionId).add "x" 0 := member
    rw [SortedSet.add, AList.mem_insert] at there
    simpa using there
  · have none : (waiting status).queue.pending priority = ∅ :=
      Function.update_of_ne same ..
    rw [none] at member
    cases member

private theorem ready_waiting : Ready (waiting .queued) 0 where
  filed := filed_waiting .queued
  once executionId := by
    rintro ⟨first, second, different, one, two⟩
    exact different
      ((pending_waiting one).2.trans (pending_waiting two).2.symm)
  records executionId priority member := by
    cases (pending_waiting member).1
    exact ⟨printRecord .queued, rfl, rfl⟩
  pods executionId priority member := rfl
  lasts executionId priority entry member stored := by
    cases (pending_waiting member).1
    cases stored
    decide +kernel
  owners executionId priority userId score member scored := by
    cases scored

/-- A command that goes through loses nothing. -/
theorem choice_through (world : World) (command : Command) :
    careful.choice world command through.2 := by
  have goes : ∀ may, GoesWrong through.2.outcome may := by
    rintro may error ⟨⟩
  cases command with
  | queue command => cases command <;> first | exact goes _ | rfl | trivial
  | cluster command => cases command <;> first | exact goes _ | rfl | trivial
  | _ => first | exact goes _ | rfl | trivial

/-- A pass that creates the pod of the waiting request. -/
theorem nothing_lost_waiting : ∃ final,
    (backend.solo 0).run
        (waiting .queued, ExecutionScheduler.schedulePending {})
        (List.replicate 19 through) = some (final, .done (.ok ())) ∧
      ∃ popped,
        final.queue.handedOut = popped ++ (waiting .queued).queue.handedOut ∧
        ∀ executionId ∈ popped, Accounted executionId final := by
  have ends : ((backend.solo 0).run
      (waiting .queued, ExecutionScheduler.schedulePending {})
      (List.replicate 19 through)).map (fun final =>
        (returned? final, final.1.clock)) = some (some (), 0) := by
    decide +kernel
  obtain ⟨⟨final, coroutine⟩, reached, same⟩ := Option.map_eq_some_iff.mp ends
  simp only [Prod.mk.injEq] at same
  rw [eq_of_returned same.1] at reached
  refine ⟨final, reached,
    nothing_lost (by rw [same.2]; exact ready_waiting) ?_ reached⟩
  apply Machine.along_of_labels
  intro label member state command resume _
  cases List.eq_of_mem_replicate member
  refine ⟨fun event never => ?_, fun between _ => choice_through between _⟩
  cases never

/-- A pass in which the request of the popped execution can't be loaded. -/
def notLoaded : List (Option WorldEvent × Choice) :=
  List.replicate 4 through ++
    [(none, ({ outcome := .fails .redisError } : Choice))]

/-- A pass in which the connection breaks when the new pod is made the owner of
its ConfigMap. -/
def notAdopted : List (Option WorldEvent × Choice) :=
  List.replicate 10 through ++
    [(none, ({ outcome := .fails .clientError } : Choice))] ++
      List.replicate 15 through

/-- Whether an execution is pending, whether it has a pod, and its status. -/
def seen (executionId : ExecutionId) (now : World) :
    Bool × Bool × Option ExecutionStatus :=
  (priorityOrder.any fun priority =>
      decide (executionId ∈ now.queue.pending priority),
    (now.cluster.pods (podNameOf executionId)).isSome,
    (now.executions executionId).map ExecutionDocument.status)

/-- Without a pod an execution has to wait or to have ended, and with a pod it
must not have failed. -/
theorem not_accounted {executionId : ExecutionId} {now : World}
    (lost : seen executionId now = (false, false, some .queued) ∨
      seen executionId now = (false, true, some .failed)) :
    ¬ Accounted executionId now := by
  have gone : ¬ Waits executionId now := by
    rintro ⟨priority, waits⟩
    have some' : (priorityOrder.any fun priority =>
        decide (executionId ∈ now.queue.pending priority)) = true :=
      List.any_eq_true.mpr
        ⟨priority, mem_priorityOrder priority, decide_eq_true waits⟩
    rcases lost with lost | lost <;>
      cases some'.symm.trans (congrArg Prod.fst lost)
  have idle : ¬ Runs executionId now := by
    intro runs
    obtain ⟨doc, stored, well⟩ := runs.record
    rcases lost with lost | lost
    · have missing := congrArg (fun seen => seen.2.1) lost
      exact runs.pod (Option.isSome_eq_false_iff.mp missing |>
        Option.isNone_iff_eq_none.mp)
    · have failed := congrArg (fun seen => seen.2.2) lost
      simp only [seen, stored, Option.map_some, Option.some.injEq] at failed
      rw [failed] at well
      cases well
  have active : ¬ Over executionId now := by
    intro ended
    obtain ⟨doc, stored, terminal⟩ := ended.record
    rcases lost with lost | lost
    · have queued := congrArg (fun seen => seen.2.2) lost
      simp only [seen, stored, Option.map_some, Option.some.injEq] at queued
      rw [queued] at terminal
      cases terminal
    · have pod := congrArg (fun seen => seen.2.1) lost
      simp [seen, ended.pod] at pod
  rintro (⟨waits, -⟩ | ⟨-, runs, -⟩ | ⟨-, -, ended⟩)
  · exact gone waits
  · exact idle runs
  · exact active ended

/-- The load of the request fails after the pop: the execution has no pod, is
not pending and stays queued.  The connection breaks after the pod was created:
the execution fails and its pod runs. -/
theorem popped_lost :
    (∃ final, (backend.solo 0).run
        (waiting .queued, ExecutionScheduler.schedulePending {}) notLoaded =
          some (final, .done (.error .redisError)) ∧
      "x" ∈ final.queue.handedOut ∧ ¬ Accounted "x" final) ∧
    ∃ final, (backend.solo 0).run
        (waiting .queued, ExecutionScheduler.schedulePending {}) notAdopted =
          some (final, .done (.ok ())) ∧
      "x" ∈ final.queue.handedOut ∧ ¬ Accounted "x" final := by
  constructor
  · have ends : ((backend.solo 0).run
        (waiting .queued, ExecutionScheduler.schedulePending {})
        notLoaded).map (fun final => (FailedSubmissions.raised? final,
          decide ("x" ∈ final.1.queue.handedOut), seen "x" final.1)) =
        some (some .redisError, true, false, false, some .queued) := by
      decide +kernel
    obtain ⟨⟨final, coroutine⟩, reached, same⟩ :=
      Option.map_eq_some_iff.mp ends
    simp only [Prod.mk.injEq, decide_eq_true_eq] at same
    rw [FailedSubmissions.eq_of_raised same.1] at reached
    exact ⟨final, reached, same.2.1, not_accounted (.inl same.2.2)⟩
  · have ends : ((backend.solo 0).run
        (waiting .queued, ExecutionScheduler.schedulePending {})
        notAdopted).map (fun final => (returned? final,
          decide ("x" ∈ final.1.queue.handedOut), seen "x" final.1)) =
        some (some (), true, false, true, some .failed) := by
      decide +kernel
    obtain ⟨⟨final, coroutine⟩, reached, same⟩ :=
      Option.map_eq_some_iff.mp ends
    simp only [Prod.mk.injEq, decide_eq_true_eq] at same
    rw [eq_of_returned same.1] at reached
    exact ⟨final, reached, same.2.1, not_accounted (.inr same.2.2)⟩

end Concrete

end NothingLost

end Integr8s
