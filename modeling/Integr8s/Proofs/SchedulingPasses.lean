/-
Module: Integr8s.Proofs.SchedulingPasses
Purpose: What a pass of `schedule_pending` has done whenever it ends and no
  other caller was at work: each execution that it popped is started or ended
  as failed, the others are as they were, and the pass ends.
Trusted boundary: none
Main exports: Pass, Pass.round, ends_schedulePending
-/
import Integr8s.Proofs.SchedulingRounds

namespace Integr8s

open Setting

/-- An execution is in two pending sets. -/
def PendingTwice (executionId : ExecutionId) (world : World) : Prop :=
  ∃ first second, first ≠ second ∧
    executionId ∈ world.queue.pending first ∧
    executionId ∈ world.queue.pending second

/-- An execution has been started: it has a pod, and a running slot until the
time that its request says is over. -/
structure Running (executionId : ExecutionId) (start now : World) : Prop where
  record : now.executions executionId = start.executions executionId ∨
    PendingTwice executionId start
  pod : now.cluster.pods (podNameOf executionId) ≠ none
  slot : ∃ entry deadline, start.queue.events executionId = some entry ∧
    start.clock + seconds (ExecutionQueueService.slotSeconds entry.value) ≤
      deadline ∧
    (now.queue.running.score executionId = some deadline ∨
      deadline ≤ now.clock)

/-- An execution has ended as failed, without a running slot and with its
user's slot given back. -/
structure Finished (executionId : ExecutionId) (start now : World) : Prop
    where
  record : Fails (start.executions executionId) (now.executions executionId)
  running : executionId ∉ now.queue.running
  slot : SlotFreed executionId start now
  pod : now.cluster.pods (podNameOf executionId) =
    start.cluster.pods (podNameOf executionId) ∨ PendingTwice executionId start

/-- Stored requests are filed under their own execution, as `enqueue` does. -/
def Filed (world : World) : Prop :=
  ∀ executionId entry, world.queue.events executionId = some entry →
    entry.value.executionId = executionId

/-- What a pass that has popped these executions has done so far. -/
structure Pass (start now : World) (popped : List ExecutionId) : Prop where
  handedOut : now.queue.handedOut = popped ++ start.queue.handedOut
  places : ∀ priority executionId,
    executionId ∈ now.queue.pending priority →
      executionId ∈ start.queue.pending priority
  left : ∀ executionId ∈ popped, ∃ priority,
    executionId ∈ start.queue.pending priority ∧
      executionId ∉ now.queue.pending priority
  stays : ∀ executionId, executionId ∉ popped → ∀ priority,
    executionId ∈ start.queue.pending priority →
      executionId ∈ now.queue.pending priority
  worked : ∀ executionId, Worked executionId start now
  aside : ∀ executionId, executionId ∉ popped → Aside executionId start now
  settled : ∀ executionId ∈ popped,
    Running executionId start now ∨ Finished executionId start now

section Passes

variable {start now after : World} {popped : List ExecutionId}
  {executionId : ExecutionId}

theorem Running.aside (running : Running executionId start now)
    (aside : Aside executionId now after) :
    Running executionId start after where
  record := running.record.imp_left fun same => aside.record.trans same
  pod := by
    rw [aside.pod]
    exact running.pod
  slot := by
    obtain ⟨entry, deadline, stored, lasts, runs⟩ := running.slot
    refine ⟨entry, deadline, stored, lasts, ?_⟩
    by_cases past : deadline ≤ after.clock
    · exact .inr past
    · rcases runs with runs | earlier
      · exact .inl (aside.runs deadline runs (Nat.lt_of_not_le past))
      · exact .inr (Nat.le_trans earlier aside.clock)

theorem Finished.aside (finished : Finished executionId start now)
    (aside : Aside executionId now after) :
    Finished executionId start after where
  record := by
    rw [aside.record]
    exact finished.record
  running inside := by
    obtain ⟨deadline, runs⟩ := SortedSet.mem_iff_score.mp inside
    exact finished.running
      (SortedSet.mem_iff_score.mpr ⟨deadline, aside.ran deadline runs⟩)
  slot entry owned placed := Nat.le_trans
    (finished.slot entry owned (aside.worked.placed placed)) aside.clock
  pod := finished.pod.imp_left fun same => aside.pod.trans same

/-- A slot that still counts after its release has been moved past the end of
the key that names its owner. -/
theorem Finished.uncounted (finished : Finished executionId start now)
    (worked : Worked executionId start now) {entry : Expiring UserId}
    (owned : start.queue.owners executionId = some entry)
    (covered : ∀ score, start.slot entry.value executionId = some score →
      score ≤ entry.expiresAt)
    (counts : executionId ∈ now.queue.counted now.clock entry.value) :
    entry.expiresAt < now.clock ∧
      start.queue.events.live start.clock executionId ≠ none := by
  obtain ⟨score, scored⟩ := SortedSet.mem_iff_score.mp counts
  obtain ⟨placed, lasts⟩ := QueueStore.score_counted.mp scored
  have placedNow : now.slot entry.value executionId = some score := placed
  have expired := finished.slot entry owned
    (by rw [placedNow]; exact Option.some_ne_none score)
  refine ⟨expired, ?_⟩
  rcases worked.slots entry.value score placedNow with same | ⟨-, stored⟩
  · have covers := covered score same
    omega
  · exact stored

theorem Pass.begin (start : World) : Pass start start [] where
  handedOut := rfl
  places _ _ member := member
  left _ none := by cases none
  stays _ _ _ member := member
  worked _ := (Aside.of_passes (.refl start)).worked
  aside _ _ := .of_passes (.refl start)
  settled _ none := by cases none

theorem Pass.since (passed : start.Passes now)
    (pass : Pass now after popped) : Pass start after popped := by
  constructor
  · rw [pass.handedOut, passed.queue]
  · rw [← passed.queue]
    exact pass.places
  · rw [← passed.queue]
    exact pass.left
  · rw [← passed.queue]
    exact pass.stays
  · exact fun executionId =>
      (Aside.of_passes passed).worked.trans (pass.worked executionId)
  · exact fun executionId others =>
      (Aside.of_passes passed).trans (pass.aside executionId others)
  · intro executionId member
    have twice : PendingTwice executionId now →
        PendingTwice executionId start := by
      unfold PendingTwice
      rw [passed.queue]
      exact id
    refine (pass.settled executionId member).imp
      (fun running => ⟨?_, running.pod, ?_⟩)
      (fun finished => ⟨?_, finished.running, ?_, ?_⟩)
    · rw [← passed.executions]
      exact running.record.imp_right twice
    · obtain ⟨entry, deadline, stored, lasts, runs⟩ := running.slot
      exact ⟨entry, deadline, by rw [← passed.queue, stored],
        Nat.le_trans (Nat.add_le_add_right passed.clock _) lasts, runs⟩
    · rw [← passed.executions]
      exact finished.record
    · exact fun entry owned placed =>
        finished.slot entry (by rw [passed.queue, owned]) placed
    · rw [← passed.pods]
      exact finished.pod.imp_right twice

theorem Pass.idle (pass : Pass start now popped) (idle : Idle now after) :
    Pass start after popped where
  handedOut := idle.handedOut.trans pass.handedOut
  places priority executionId member := by
    rw [idle.pending] at member
    exact pass.places priority executionId member
  left executionId member := by
    rw [idle.pending]
    exact pass.left executionId member
  stays executionId others priority member := by
    rw [idle.pending]
    exact pass.stays executionId others priority member
  worked executionId :=
    (pass.worked executionId).trans (idle.aside executionId).worked
  aside executionId others :=
    (pass.aside executionId others).trans (idle.aside executionId)
  settled executionId member :=
    (pass.settled executionId member).imp
      (fun running => running.aside (idle.aside executionId))
      (fun finished => finished.aside (idle.aside executionId))

/-- An execution that is popped again was in two pending sets. -/
theorem Pass.twice (pass : Pass start now popped)
    (again : Popped executionId now after) (member : executionId ∈ popped) :
    PendingTwice executionId start := by
  obtain ⟨priority, waits, -⟩ := again.place
  obtain ⟨other, waited, gone⟩ := pass.left executionId member
  refine ⟨priority, other, ?_, pass.places priority executionId waits, waited⟩
  rintro rfl
  exact gone waits

/-- A round that starts an execution. -/
theorem Pass.started (pass : Pass start now popped)
    (again : Popped executionId now after)
    (started : Started executionId now after) :
    Running executionId start after where
  record := by
    by_cases member : executionId ∈ popped
    · exact .inr (pass.twice again member)
    · exact .inl (started.record.trans
        (pass.aside executionId member).record)
  pod := started.pod
  slot := by
    obtain ⟨entry, deadline, stored, lasts, runs⟩ := started.slot
    refine ⟨entry, deadline, ?_, ?_, .inl runs⟩
    · rcases (pass.worked executionId).event with same | gone
      · rw [← same, stored]
      · cases gone.symm.trans stored
    · exact Nat.le_trans
        (Nat.add_le_add_right (pass.worked executionId).clock _) lasts

/-- A round that ends an execution. -/
theorem Pass.ended (pass : Pass start now popped)
    (again : Popped executionId now after)
    (ended : Ended executionId now after) :
    Finished executionId start after where
  record := by
    rcases (pass.worked executionId).record with same | fails
    · rw [← same]
      exact ended.record
    · exact fails.trans ended.record
  running := ended.running
  slot entry owned placed := by
    rcases (pass.worked executionId).owner with same | freed
    · exact ended.slot entry (same.trans owned) placed
    · exact Nat.le_trans (freed entry owned (again.own.placed placed))
        again.own.clock
  pod := by
    by_cases member : executionId ∈ popped
    · exact .inr (pass.twice again member)
    · exact .inl (ended.pod.trans (pass.aside executionId member).pod)

/-- A round adds the execution that it pops to what the pass has done. -/
theorem Pass.round (pass : Pass start now popped)
    (again : Popped executionId now after)
    (settled : Started executionId now after ∨
      Ended executionId now after) :
    Pass start after (executionId :: popped) := by
  obtain ⟨priority, waits, places⟩ := again.place
  have worked : ∀ other, Worked other now after := by
    intro other
    by_cases same : other = executionId
    · exact same ▸ again.own
    · exact (again.others other same).worked
  constructor
  · rw [again.handedOut, pass.handedOut]
    rfl
  · intro other member inside
    exact pass.places other member ((places other member).mp inside).1
  · intro member inside
    rcases List.mem_cons.mp inside with rfl | old
    · refine ⟨priority, pass.places priority member waits, fun still => ?_⟩
      exact ((places priority member).mp still).2 ⟨rfl, rfl⟩
    · obtain ⟨other, waited, gone⟩ := pass.left member old
      exact ⟨other, waited, fun still =>
        gone ((places other member).mp still).1⟩
  · intro member others other waited
    rw [List.mem_cons, not_or] at others
    exact (places other member).mpr
      ⟨pass.stays member others.2 other waited, fun same => others.1 same.1⟩
  · exact fun other => (pass.worked other).trans (worked other)
  · intro other others
    rw [List.mem_cons, not_or] at others
    exact (pass.aside other others.2).trans (again.others other others.1)
  · intro other inside
    by_cases same : other = executionId
    · subst same
      exact settled.imp (pass.started again) (pass.ended again)
    · rcases List.mem_cons.mp inside with its | old
      · exact absurd its same
      · exact (pass.settled other old).imp
          (fun running => running.aside (again.others other same))
          (fun finished => finished.aside (again.others other same))

end Passes

/-- A limit that the admin's settings can give in a setting. -/
def MayLimit (setting : Setting World Command Choice WorldEvent)
    (maxActive : Nat) : Prop :=
  ∃ world choice, setting.choice world .effectiveSettings choice ∧
    choice.settings.maxConcurrentExecutions = maxActive

section Ends

variable {setting : Setting World Command Choice WorldEvent}
  {caller : Caller} {world : World}

/-- A quiet command does not raise while no store fails. -/
theorem ends_healthy (time : OnlyTime setting) {command : Command}
    (quiet : World.isQuiet command = true)
    (reads : command.isStart = false ∧ ∀ event, command ≠ .publish event) :
    setting.Ends backend caller (request command)
      (fun reply after => world.Passes after ∧
        (Healthy setting → ∃ value, reply = .ok value)) world := by
  apply ends_mono _ (ends_passing time quiet)
  rintro (error | value) after ⟨passed, raises⟩
  · refine ⟨passed, fun healthy => ?_⟩
    obtain ⟨-, between, choice, -, may, wrong⟩ := raises error rfl
    rcases healthy between _ choice error may wrong with
      starts | ⟨event, same, -⟩
    · cases reads.1.symm.trans starts
    · exact absurd same (reads.2 event)
  · exact ⟨passed, fun _ => ⟨value, rfl⟩⟩

/-- The rounds of a pass. -/
theorem ends_rounds (careful : Careful setting) (deployment : Deployment)
    (maxActive : Nat)
    (filed : Filed world) :
    setting.Ends backend caller
      (Coroutine.repeatWhile
        (ExecutionScheduler.scheduleNext deployment maxActive))
      (fun result after => ∃ popped, Pass world after popped ∧
        (result = .ok () ∧ NothingMore maxActive after ∨
          ∃ error, result = .error error ∧ ¬ Healthy setting)) world := by
  -- Each round that goes on takes a place from the pending sets
  apply ends_repeatWhile
    (fun depth now => now.queue.depth = depth ∧
      ∃ popped, Pass world now popped) ⟨rfl, [], .begin world⟩
  rintro depth now ⟨rfl, popped, pass⟩
  have stillFiled : Filed now := by
    intro executionId entry stored
    rcases (pass.worked executionId).event with same | gone
    · exact filed executionId entry (same.symm.trans stored)
    · cases gone.symm.trans stored
  apply ends_mono _ (ends_scheduleNext careful deployment maxActive stillFiled)
  rintro result after round
  cases round with
  | nothing _ idle filled =>
      exact ⟨popped, pass.idle idle, .inl ⟨rfl, filled⟩⟩
  | popped _ executionId again settled =>
      exact ⟨_, again.depth, rfl, _, pass.round again settled⟩
  | raised _ executionId error again ended wrong =>
      exact ⟨_, pass.round again (.inr ended), .inr ⟨error, rfl, wrong⟩⟩
  | failed _ error idle wrong =>
      exact ⟨popped, pass.idle idle, .inr ⟨error, rfl, wrong⟩⟩

/-- A pass ends, and what it has done by then. -/
theorem ends_schedulePending (careful : Careful setting)
    (deployment : Deployment)
    (filed : Filed world) :
    setting.Ends backend caller
      (ExecutionScheduler.schedulePending deployment)
      (fun result after => (∃ popped, Pass world after popped) ∧
        (Healthy setting → result = .ok () ∧
          ∃ maxActive, MayLimit setting maxActive ∧
            NothingMore maxActive after)) world := by
  unfold ExecutionScheduler.schedulePending
    ExecutionQueueService.getQueueStatus
  rw [ends_bind]
  apply ends_quiet careful.time rfl
  rintro between choice reply first - may performed passed
  rcases World.perform_cases performed with ⟨-, went⟩ | ⟨error, rfl, -, wrong⟩
  · cases went
    simp only [ends_bind]
    apply ends_mono _ (ends_rounds careful deployment
      choice.settings.maxConcurrentExecutions (by rwa [Filed, passed.queue]))
    rintro result second ⟨popped, pass, filled⟩
    have whole : Pass world second popped := pass.since passed
    rcases filled with ⟨rfl, filled⟩ | ⟨error, rfl, wrong⟩
    · apply ends_mono _ (ends_healthy careful.time rfl
        ⟨rfl, fun _ same => by cases same⟩)
      rintro (error | now) third ⟨later, goes⟩
      · refine ⟨⟨popped, whole.idle (.of_passes later)⟩, fun healthy => ?_⟩
        obtain ⟨_, same⟩ := goes healthy
        cases same
      · apply ends_mono _ (ends_healthy careful.time rfl
          ⟨rfl, fun _ same => by cases same⟩)
        rintro reply last ⟨latest, goes⟩
        have passedOn := later.trans latest
        have limit : NothingMore choice.settings.maxConcurrentExecutions
            last := by
          unfold NothingMore
          rw [passedOn.queue]
          exact filled
        cases reply with
        | ok status =>
            exact ⟨⟨popped, whole.idle (.of_passes passedOn)⟩, fun _ =>
              ⟨rfl, _, ⟨_, choice, may, rfl⟩, limit⟩⟩
        | error error =>
            refine ⟨⟨popped, whole.idle (.of_passes passedOn)⟩,
              fun healthy => ?_⟩
            obtain ⟨_, same⟩ := goes healthy
            cases same
    · exact ⟨⟨popped, whole⟩, fun healthy => absurd healthy wrong⟩
  · refine ⟨⟨[], (Pass.begin world).idle (.of_passes passed)⟩,
      fun healthy => ?_⟩
    have missed : choice.outcome.error? = some error := by
      rcases wrong with ⟨outcome, -⟩ | ⟨outcome, -⟩ <;>
        rw [outcome, Outcome.error?]
    rcases healthy between _ choice error may missed with
      starts | ⟨_, same, -⟩
    · cases starts
    · cases same

end Ends

end Integr8s
