/-
Module: Integr8s.Proofs.SchedulingRounds
Purpose: What one round of `schedule_pending` does when no other caller is at
  work: the execution that it pops is started or ends as failed, and the others
  are left alone.
Trusted boundary: none
Main exports: Aside, Worked, Popped, Started, Ended, Careful,
  ends_scheduleNext
-/
import Integr8s.Proofs.LoneCalls

namespace Integr8s

open Setting

/-- The place of an execution in a user's active set. -/
def World.slot (world : World) (userId : UserId) (executionId : ExecutionId) :
    Option Nat :=
  (world.queue.userSet world.clock userId).score executionId

/-- A record fails: an active one becomes failed, a terminal one stays what it
is, and a missing one stays missing. -/
def Fails (before after : Option ExecutionDocument) : Prop :=
  match before with
  | none => after = none
  | some doc => ∃ now, after = some now ∧
      if doc.status.isTerminal then now = doc else now.status = .failed

/-- Nothing concerned this execution but the time: a running slot whose time
is over may be gone. -/
structure Aside (executionId : ExecutionId) (world after : World) : Prop where
  clock : world.clock ≤ after.clock
  record : after.executions executionId = world.executions executionId
  pod : after.cluster.pods (podNameOf executionId) =
    world.cluster.pods (podNameOf executionId)
  owner : after.queue.owners executionId = world.queue.owners executionId
  event : after.queue.events executionId = world.queue.events executionId
  runs : ∀ deadline,
    world.queue.running.score executionId = some deadline →
      after.clock < deadline →
        after.queue.running.score executionId = some deadline
  ran : ∀ deadline, after.queue.running.score executionId = some deadline →
    world.queue.running.score executionId = some deadline
  slots : ∀ userId score, after.slot userId executionId = some score →
    world.slot userId executionId = some score

/-- The slot of an execution is given back, unless the key that names its owner
has run out. -/
def SlotFreed (executionId : ExecutionId) (world after : World) : Prop :=
  ∀ entry, world.queue.owners executionId = some entry →
    after.slot entry.value executionId ≠ none →
      entry.expiresAt < after.clock

/-- What passes over an execution leave of its record, its slot's owner, its
stored request and its place in the active sets, which only a stored request
moves. -/
structure Worked (executionId : ExecutionId) (world after : World) : Prop
    where
  clock : world.clock ≤ after.clock
  record : after.executions executionId = world.executions executionId ∨
    Fails (world.executions executionId) (after.executions executionId)
  owner : after.queue.owners executionId = world.queue.owners executionId ∨
    SlotFreed executionId world after
  event : after.queue.events executionId = world.queue.events executionId ∨
    after.queue.events executionId = none
  slots : ∀ userId score, after.slot userId executionId = some score →
    world.slot userId executionId = some score ∨
      world.slot userId executionId ≠ none ∧
        world.queue.events.live world.clock executionId ≠ none

/-- Only one execution was worked on, and nothing was enqueued or popped. -/
structure Besides (executionId : ExecutionId) (world after : World) : Prop
    where
  pending : after.queue.pending = world.queue.pending
  handedOut : after.queue.handedOut = world.queue.handedOut
  others : ∀ other, other ≠ executionId → Aside other world after
  own : Worked executionId world after

/-! ### What steps leave adds up -/

section Preorders

variable {executionId : ExecutionId} {world between after : World}

theorem Fails.trans {first second third : Option ExecutionDocument}
    (earlier : Fails first second) (later : Fails second third) :
    Fails first third := by
  cases first with
  | none =>
      cases earlier
      exact later
  | some doc =>
      obtain ⟨now, rfl, turns⟩ := earlier
      obtain ⟨last, rfl, turnsToo⟩ := later
      refine ⟨last, rfl, ?_⟩
      by_cases terminal : doc.status.isTerminal
      · rw [if_pos terminal] at turns ⊢
        subst turns
        rwa [if_pos terminal] at turnsToo
      · rw [if_neg terminal] at turns ⊢
        rw [if_pos (by rw [turns]; rfl)] at turnsToo
        rw [turnsToo, turns]

theorem Aside.trans (first : Aside executionId world between)
    (second : Aside executionId between after) :
    Aside executionId world after where
  clock := Nat.le_trans first.clock second.clock
  record := second.record.trans first.record
  pod := second.pod.trans first.pod
  owner := second.owner.trans first.owner
  event := second.event.trans first.event
  runs deadline runs lasts := second.runs deadline
    (first.runs deadline runs (Nat.lt_of_le_of_lt second.clock lasts)) lasts
  ran deadline runs := first.ran deadline (second.ran deadline runs)
  slots userId score scored :=
    first.slots userId score (second.slots userId score scored)

/-- What time does to a place in an active set. -/
theorem slot_of_passes {userId : UserId} {score : Nat}
    (passed : world.Passes after)
    (scored : after.slot userId executionId = some score) :
    world.slot userId executionId = some score := by
  unfold World.slot at scored ⊢
  rw [passed.queue] at scored
  exact QueueStore.score_userSet_earlier passed.clock scored

theorem Aside.of_passes (passed : world.Passes after) :
    Aside executionId world after where
  clock := passed.clock
  record := by rw [passed.executions]
  pod := by rw [passed.pods]
  owner := by rw [passed.queue]
  event := by rw [passed.queue]
  runs deadline runs _ := by rw [passed.queue, runs]
  ran deadline runs := by rw [← passed.queue, runs]
  slots userId score scored := slot_of_passes passed scored

theorem Aside.worked (aside : Aside executionId world after) :
    Worked executionId world after :=
  ⟨aside.clock, .inl aside.record, .inl aside.owner, .inl aside.event,
    fun userId score scored => .inl (aside.slots userId score scored)⟩

/-- A place in an active set is one that was there before. -/
theorem Worked.placed (worked : Worked executionId world after)
    {userId : UserId} (placed : after.slot userId executionId ≠ none) :
    world.slot userId executionId ≠ none := by
  obtain ⟨score, scored⟩ := Option.ne_none_iff_exists'.mp placed
  rcases worked.slots userId score scored with same | ⟨there, -⟩
  · rw [same]
    exact Option.some_ne_none score
  · exact there

theorem Worked.trans (first : Worked executionId world between)
    (second : Worked executionId between after) :
    Worked executionId world after := by
  have ordered := Nat.le_trans first.clock second.clock
  refine ⟨ordered, ?_, ?_, ?_, fun userId score scored => ?_⟩
  · rcases first.record with same | fails
    · rw [← same]
      exact second.record
    · rcases second.record with same | failsToo
      · exact .inr (same ▸ fails)
      · exact .inr (fails.trans failsToo)
  · rcases first.owner with same | freed
    · rcases second.owner with sameToo | freed
      · exact .inl (sameToo.trans same)
      · refine .inr fun entry owned placed => ?_
        exact freed entry (same.trans owned) placed
    · refine .inr fun entry owned placed => ?_
      exact Nat.le_trans (freed entry owned (second.placed placed))
        second.clock
  · rcases second.event with same | gone
    · rcases first.event with sameToo | gone
      · exact .inl (same.trans sameToo)
      · exact .inr (same.trans gone)
    · exact .inr gone
  · rcases second.slots userId score scored with same | ⟨placed, stored⟩
    · exact first.slots userId score same
    · refine .inr ⟨first.placed placed, ?_⟩
      obtain ⟨entry, live⟩ := Option.ne_none_iff_exists'.mp stored
      obtain ⟨kept, lasts⟩ := ExpiringStore.live_eq_some.mp live
      rcases first.event with same | gone
      · rw [same] at kept
        rw [ExpiringStore.live_eq_some.mpr
          ⟨kept, Nat.le_trans first.clock lasts⟩]
        exact Option.some_ne_none entry
      · rw [gone] at kept
        cases kept

theorem Besides.trans (first : Besides executionId world between)
    (second : Besides executionId between after) :
    Besides executionId world after where
  pending := second.pending.trans first.pending
  handedOut := second.handedOut.trans first.handedOut
  others other different :=
    (first.others other different).trans (second.others other different)
  own := first.own.trans second.own

theorem Besides.of_passes (passed : world.Passes after) :
    Besides executionId world after where
  pending := by rw [passed.queue]
  handedOut := by rw [passed.queue]
  others _ _ := .of_passes passed
  own := (Aside.of_passes passed).worked

end Preorders

private theorem podNameOf_injective {first second : ExecutionId}
    (same : podNameOf first = podNameOf second) : first = second := by
  simpa [podNameOf] using same

/-! ### What each part of a round leaves -/

section Effects

variable {executionId : ExecutionId} {world after : World}

/-- A new pod concerns only its execution. -/
theorem besides_pods {pods : Collection PodName Pod}
    {created : List PodName}
    (others : ∀ name, name ≠ podNameOf executionId →
      pods name = world.cluster.pods name) :
    Besides executionId world
      { world with cluster := { pods := pods, created := created } } where
  pending := rfl
  handedOut := rfl
  others _ different :=
    { Aside.of_passes (.refl world) with
      pod := others _ fun same => different (podNameOf_injective same) }
  own := { (Aside.of_passes (.refl world)).worked with }

/-- What the write of a failure leaves of the record. -/
theorem fails_written {executions : Executions}
    {result : ExecutionResultDomain} (failed : result.status = .failed)
    (now : Nat) :
    Fails (executions result.executionId)
      ((executions.writeTerminalResult result now).2 result.executionId) := by
  cases stored : executions result.executionId with
  | none =>
      rw [Executions.writeTerminalResult, Collection.updateOne_none stored]
      exact stored
  | some doc =>
      refine ⟨_, Executions.writeTerminalResult_self stored now, ?_⟩
      split
      · rfl
      · exact failed

/-- The write of a failure concerns only its execution. -/
theorem besides_written {result : ExecutionResultDomain} (caller : Caller)
    (failed : result.status = .failed) :
    Besides result.executionId world
      (world.writeTerminalResult caller result).2 where
  pending := rfl
  handedOut := rfl
  others _ different :=
    { Aside.of_passes (.refl world) with
      record := Executions.writeTerminalResult_other different _ }
  own :=
    { (Aside.of_passes (.refl world)).worked with
      record := .inr (fails_written failed _) }

/-- A release from the running set concerns only its execution. -/
theorem besides_release :
    Besides executionId world
      { world with
        queue := world.queue.release world.clock executionId } where
  pending := rfl
  handedOut := rfl
  others _ different :=
    { Aside.of_passes (.refl world) with
      event := Function.update_of_ne different ..
      runs := fun _ runs _ =>
        (SortedSet.score_remove_other different).trans runs
      ran := fun _ runs =>
        (SortedSet.score_remove_other different).symm.trans runs }
  own :=
    { (Aside.of_passes (.refl world)).worked with
      event := .inr (Function.update_self ..) }

private theorem besides_dropRunning :
    Besides executionId world
      { world with queue := world.queue.dropRunning executionId } where
  pending := rfl
  handedOut := rfl
  others _ different :=
    { Aside.of_passes (.refl world) with
      runs := fun _ runs _ =>
        (SortedSet.score_remove_other different).trans runs
      ran := fun _ runs =>
        (SortedSet.score_remove_other different).symm.trans runs }
  own := { (Aside.of_passes (.refl world)).worked with }

/-- The release of a user's slot concerns only its execution. -/
theorem besides_releases (releases : world.Releases executionId after) :
    Besides executionId world after where
  pending := releases.pending
  handedOut := releases.handedOut
  others other different :=
    { clock := releases.clock
      record := by rw [releases.executions]
      pod := by rw [releases.pods]
      owner := releases.owners other different
      event := by rw [releases.events]
      runs := fun _ runs _ => by rw [releases.running, runs]
      ran := fun _ runs => by rw [← releases.running, runs]
      slots := fun userId score => releases.scores userId other score }
  own :=
    { clock := releases.clock
      record := .inl (by rw [releases.executions])
      owner := .inr fun entry owned placed => releases.freed entry owned
        (not_not.mp (SortedSet.score_eq_none.not.mp placed))
      event := .inl (by rw [releases.events])
      slots := fun userId score scored =>
        .inl (releases.scores userId executionId score scored) }

/-- The deadline update concerns only its execution, whose request was
stored. -/
theorem besides_moveDeadlines {between : World} {userId : UserId}
    {deadline : Nat} (passed : world.Passes between)
    (stored : world.queue.events.live world.clock executionId ≠ none) :
    Besides executionId world
      { between with
        queue := between.queue.moveDeadlines between.clock executionId userId
          deadline } := by
  refine ⟨by rw [← passed.queue]; rfl, by rw [← passed.queue]; rfl,
    fun other different => (Aside.of_passes passed).trans ?_, ?_⟩
  · exact
      { Aside.of_passes (.refl between) with
        runs := fun _ runs _ =>
          (SortedSet.score_addExisting_other different).trans runs
        ran := fun _ runs =>
          (SortedSet.score_addExisting_other different).symm.trans runs
        slots := fun user score scored => by
          simp only [World.slot, QueueStore.userSet_moveDeadlines] at scored
          split at scored
          · next same =>
              subst same
              exact (SortedSet.score_addExisting_other different).symm.trans
                scored
          · exact scored }
  · exact
      { (Aside.of_passes passed).worked with
        owner := .inl (by rw [← passed.queue]; rfl)
        slots := fun user score scored => by
          simp only [World.slot, QueueStore.userSet_moveDeadlines] at scored
          split at scored
          · next same =>
              subst same
              rw [SortedSet.score_addExisting_self] at scored
              obtain ⟨old, placed, -⟩ := Option.map_eq_some_iff.mp scored
              refine .inr ⟨?_, stored⟩
              rw [slot_of_passes passed placed]
              exact Option.some_ne_none old
          · exact .inl (slot_of_passes passed scored) }

end Effects

/-- How many places there are in the pending sets. -/
def QueueStore.depth (queue : QueueStore) : Nat :=
  (priorityOrder.map fun priority => (queue.pending priority).card).sum

/-- Nothing was popped. -/
structure Idle (world after : World) : Prop where
  pending : after.queue.pending = world.queue.pending
  handedOut : after.queue.handedOut = world.queue.handedOut
  aside : ∀ executionId, Aside executionId world after

/-- One execution was popped from a pending set, and only it was worked on. -/
structure Popped (executionId : ExecutionId) (world after : World) : Prop
    where
  place : ∃ priority, executionId ∈ world.queue.pending priority ∧
    ∀ other member, member ∈ after.queue.pending other ↔
      member ∈ world.queue.pending other ∧
        ¬ (member = executionId ∧ other = priority)
  depth : after.queue.depth < world.queue.depth
  handedOut : after.queue.handedOut = executionId :: world.queue.handedOut
  others : ∀ other, other ≠ executionId → Aside other world after
  own : Worked executionId world after

/-! ### What the script pops -/

section Pops

variable {executionId : ExecutionId} {world between after : World}

theorem Idle.of_passes (passed : world.Passes after) : Idle world after :=
  ⟨by rw [passed.queue], by rw [passed.queue], fun _ => .of_passes passed⟩

theorem Idle.since (passed : world.Passes between)
    (idle : Idle between after) : Idle world after where
  pending := by rw [idle.pending, passed.queue]
  handedOut := by rw [idle.handedOut, passed.queue]
  aside executionId := (Aside.of_passes passed).trans (idle.aside executionId)

theorem Popped.since (passed : world.Passes between)
    (popped : Popped executionId between after) :
    Popped executionId world after where
  place := by
    rw [← passed.queue]
    exact popped.place
  depth := by
    rw [← passed.queue]
    exact popped.depth
  handedOut := by rw [popped.handedOut, passed.queue]
  others other different :=
    (Aside.of_passes passed).trans (popped.others other different)
  own := (Aside.of_passes passed).worked.trans popped.own

theorem Popped.besides (popped : Popped executionId world between)
    (besides : Besides executionId between after) :
    Popped executionId world after where
  place := by
    rw [besides.pending]
    exact popped.place
  depth := by
    unfold QueueStore.depth
    rw [besides.pending]
    exact popped.depth
  handedOut := by rw [besides.handedOut, popped.handedOut]
  others other different :=
    (popped.others other different).trans (besides.others other different)
  own := popped.own.trans besides.own

/-- A running slot whose time is not over outlives a prune. -/
theorem score_prune_of_lt {set : SortedSet ExecutionId} {bound score : Nat}
    (scored : set.score executionId = some score) (lasts : bound < score) :
    (set.prune bound).score executionId = some score := by
  rw [SortedSet.score_prune, Option.filter_eq_some_iff]
  exact ⟨scored, by simpa using lasts⟩

private theorem score_of_prune {set : SortedSet ExecutionId} {bound score : Nat}
    (scored : (set.prune bound).score executionId = some score) :
    set.score executionId = some score := by
  rw [SortedSet.score_prune, Option.filter_eq_some_iff] at scored
  exact scored.1

/-- The script drops only running slots whose time is over. -/
theorem idle_prune {now : Nat} (ordered : now ≤ world.clock) :
    Idle world { world with
      queue := { world.queue with
        running := world.queue.running.prune now } } where
  pending := rfl
  handedOut := rfl
  aside _ :=
    { Aside.of_passes (.refl world) with
      runs := fun _ runs lasts =>
        score_prune_of_lt runs (Nat.lt_of_le_of_lt ordered lasts)
      ran := fun _ runs => score_of_prune runs }

private theorem depth_handOut {queue : QueueStore} {priority : QueuePriority}
    {now deadline : Nat} (member : executionId ∈ queue.pending priority) :
    (queue.handOut priority executionId now deadline).depth < queue.depth := by
  have fewer := SortedSet.card_remove_of_mem member
  cases priority <;>
    simp [QueueStore.depth, QueueStore.handOut, priorityOrder] <;> omega

/-- The script pops one execution and gives it a running slot. -/
theorem popped_handOut {priority : QueuePriority} {now : Nat}
    (deadline : Nat) (ordered : now ≤ world.clock)
    (member : executionId ∈ world.queue.pending priority) :
    Popped executionId world { world with
      queue := world.queue.handOut priority executionId now deadline } where
  place := by
    refine ⟨priority, member, fun other each => ?_⟩
    by_cases same : other = priority
    · subst same
      simp [QueueStore.handOut, and_comm]
    · simp [QueueStore.handOut, same]
  depth := depth_handOut member
  handedOut := rfl
  others _ different :=
    { Aside.of_passes (.refl world) with
      runs := fun _ runs lasts =>
        (SortedSet.score_add_other different).trans
          (score_prune_of_lt runs (Nat.lt_of_le_of_lt ordered lasts))
      ran := fun _ runs => score_of_prune
        ((SortedSet.score_add_other different).symm.trans runs) }
  own :=
    { (Aside.of_passes (.refl world)).worked with
      owner := .inl rfl }

end Pops

/-! ### How a popped execution ends

A round either starts the execution, or fails it and frees its slots.  The
rules below say so of each part of the round, for whatever outcome the commands
have that the setting admits. -/

/-- Whether an event says that a result could not be stored. -/
def DomainEvent.isResultFailed : DomainEvent → Bool
  | .resultFailed _ => true
  | _ => false

/-- A setting in which nothing that a pass has popped is lost: what follows a
pop goes through, but for the creation of the pod before it exists and for
what is caught. -/
structure Careful (setting : Setting World Command Choice WorldEvent) :
    Prop where
  time : OnlyTime setting
  pops : ∀ world maxActive now deadline choice error,
    setting.choice world (.queue (.trySchedule maxActive now deadline))
        choice →
      choice.outcome = .unacknowledged error →
        (world.queue.trySchedule maxActive now deadline).1 = none
  tells : ∀ queue maxActive now deadline executionId,
    ¬ MayRaise setting queue (.queue (.trySchedule maxActive now deadline))
      (.queuedRequestLostError executionId)
  loads : ∀ executionId, Works setting (.queue (.event executionId))
  moves : ∀ executionId userId deadline,
    Works setting (.queue (.moveDeadlines executionId userId deadline))
  drops : ∀ executionId, Works setting (.queue (.dropRunning executionId))
  releases : ∀ world executionId choice,
    setting.choice world (.queue (.release executionId)) choice →
      choice.outcome = .succeeds ∨
        (∃ error, choice.outcome = .unacknowledged error) ∧
          world.Slotless executionId
  frees : ∀ executionId, Frees setting executionId
  finds : ∀ executionId, Works setting (.findExecution executionId)
  creates : ∀ world name pod choice,
    setting.choice world (.cluster (.createPod name pod)) choice →
      ∀ error, choice.outcome ≠ .unacknowledged error
  adopts : ∀ queue name owner error,
    MayRaise setting queue (.cluster (.setConfigMapOwner name owner)) error →
      ∃ status, error = .apiException status
  takes : ∀ world result choice,
    setting.choice world (.writeTerminalResult result) choice →
      ∀ error, choice.outcome ≠ .fails error
  writes : ∀ world result choice error,
    setting.choice world (.writeTerminalResult result) choice →
      result.executionId ∈ world.queue.running →
        choice.outcome = .unacknowledged error →
          error.isPyMongoError = true
  announces : ∀ queue event error,
    event.executionId ∈ queue.running →
      MayRaise setting queue (.storeEvent event) error ∨
        MayRaise setting queue (.publish event) error →
          error.isPublishError = true
  reports : ∀ world result choice lost queue event error,
    setting.choice world (.writeTerminalResult result) choice →
      choice.outcome = .unacknowledged lost →
        event.isResultFailed = true → event.executionId ∈ queue.running →
          ¬ (MayRaise setting queue (.storeEvent event) error ∨
            MayRaise setting queue (.publish event) error)

/-- A setting in which no store fails: only the creation of a pod and the
publication of an event may go wrong. -/
def Healthy (setting : Setting World Command Choice WorldEvent) : Prop :=
  ∀ world command choice error, setting.choice world command choice →
    choice.outcome.error? = some error →
      command.isStart = true ∨
        ∃ event, command = .publish event ∧ error.isPublishError = true

/-- The record of an execution fails, and nothing else changes. -/
structure RecordFails (executionId : ExecutionId) (world after : World) :
    Prop where
  besides : Besides executionId world after
  queue : after.queue = world.queue
  pods : after.cluster.pods = world.cluster.pods
  record : Fails (world.executions executionId) (after.executions executionId)

theorem RecordFails.around {executionId : ExecutionId}
    {world before after later : World} (passed : world.Passes before)
    (fails : RecordFails executionId before after)
    (passes : after.Passes later) : RecordFails executionId world later where
  besides := ((Besides.of_passes passed).trans fails.besides).trans
    (.of_passes passes)
  queue := (passes.queue.trans fails.queue).trans passed.queue
  pods := (passes.pods.trans fails.pods).trans passed.pods
  record := by
    rw [passes.executions, ← passed.executions]
    exact fails.record

/-- An execution ends as failed: it has no running slot, its user's slot is
given back, and it has no pod that was not there before. -/
structure Ended (executionId : ExecutionId) (world after : World) : Prop where
  record : Fails (world.executions executionId) (after.executions executionId)
  running : executionId ∉ after.queue.running
  slot : SlotFreed executionId world after
  pod : after.cluster.pods (podNameOf executionId) =
    world.cluster.pods (podNameOf executionId)

/-- An execution has a pod, and a running slot that lasts as long as its
request says. -/
structure Started (executionId : ExecutionId) (world after : World) : Prop
    where
  record : after.executions executionId = world.executions executionId
  pod : after.cluster.pods (podNameOf executionId) ≠ none
  slot : ∃ entry deadline, world.queue.events executionId = some entry ∧
    world.clock + seconds (ExecutionQueueService.slotSeconds entry.value) ≤
      deadline ∧
    after.queue.running.score executionId = some deadline

/-- The queue is empty, or every slot is taken. -/
def NothingMore (maxActive : Nat) (world : World) : Prop :=
  maxActive ≤ world.queue.running.card ∨
    ∀ priority, (world.queue.pending priority).entries = []

/-- What `try_schedule` comes to: nothing more can start, an execution was
popped and its request loaded, an execution was popped whose request is lost,
or nothing was popped and an error goes on. -/
inductive Scheduled (setting : Setting World Command Choice WorldEvent)
    (maxActive : Nat) (world : World) :
    Except PyException (Option (ExecutionId × ExecutionRequestedEvent)) →
      World → Prop where
  | nothing (after : World) (idle : Idle world after)
      (filled : NothingMore maxActive after) :
      Scheduled setting maxActive world (.ok none) after
  | loaded (after : World) (executionId : ExecutionId)
      (entry : Expiring ExecutionRequestedEvent) (deadline : Nat)
      (popped : Popped executionId world after)
      (executions : after.executions = world.executions)
      (pods : after.cluster.pods = world.cluster.pods)
      (owners : after.queue.owners = world.queue.owners)
      (stored : world.queue.events executionId = some entry)
      (lasts : world.clock +
        seconds (ExecutionQueueService.slotSeconds entry.value) ≤ deadline)
      (runs : after.queue.running.score executionId = some deadline) :
      Scheduled setting maxActive world (.ok (some (executionId, entry.value)))
        after
  | lost (after : World) (executionId : ExecutionId)
      (popped : Popped executionId world after)
      (executions : after.executions = world.executions)
      (pods : after.cluster.pods = world.cluster.pods)
      (running : executionId ∉ after.queue.running)
      (slot : SlotFreed executionId world after) :
      Scheduled setting maxActive world
        (.error (.queuedRequestLostError executionId)) after
  | failed (after : World) (error : PyException) (idle : Idle world after)
      (other : ∀ executionId, error ≠ .queuedRequestLostError executionId)
      (wrong : ¬ Healthy setting) :
      Scheduled setting maxActive world (.error error) after

/-- What a round of `schedule_pending` comes to. -/
inductive Round (setting : Setting World Command Choice WorldEvent)
    (maxActive : Nat) (world : World) :
    Except PyException Bool → World → Prop where
  | nothing (after : World) (idle : Idle world after)
      (filled : NothingMore maxActive after) :
      Round setting maxActive world (.ok false) after
  | popped (after : World) (executionId : ExecutionId)
      (popped : Popped executionId world after)
      (settled : Started executionId world after ∨
        Ended executionId world after) :
      Round setting maxActive world (.ok true) after
  | raised (after : World) (executionId : ExecutionId) (error : PyException)
      (popped : Popped executionId world after)
      (ended : Ended executionId world after) (wrong : ¬ Healthy setting) :
      Round setting maxActive world (.error error) after
  | failed (after : World) (error : PyException) (idle : Idle world after)
      (wrong : ¬ Healthy setting) :
      Round setting maxActive world (.error error) after

/-! ### The parts of a round -/

section Parts

variable {setting : Setting World Command Choice WorldEvent}
  {caller : Caller} {world : World} (careful : Careful setting)

theorem Healthy.storeEvent (healthy : Healthy setting) {queue : QueueStore}
    {event : DomainEvent} {error : PyException} :
    ¬ MayRaise setting queue (.storeEvent event) error := by
  rintro ⟨-, world, choice, -, may, wrong⟩
  rcases healthy world _ choice error may wrong with
    starts | ⟨_, same, -⟩
  · cases starts
  · cases same

theorem Healthy.publish (healthy : Healthy setting) {queue : QueueStore}
    {event : DomainEvent} {error : PyException}
    (raises : MayRaise setting queue (.publish event) error) :
    error.isPublishError = true := by
  obtain ⟨-, world, choice, -, may, wrong⟩ := raises
  rcases healthy world _ choice error may wrong with
    starts | ⟨_, -, publishes⟩
  · cases starts
  · exact publishes

include careful

/-- An event of an execution with a running slot goes out, or its failure is
logged. -/
theorem ends_announce (event : DomainEvent) :
    setting.Ends backend caller (produceOrLog event)
      (fun result after => world.Passes after ∧
        (event.executionId ∈ world.queue.running ∨ Healthy setting →
          result = .ok ())) world := by
  apply ends_mono _ (ends_produceOrLog careful.time event)
  rintro (error | _) after ⟨passed, raises⟩
  · refine ⟨passed, fun goes => ?_⟩
    obtain ⟨loud, raised⟩ := raises error rfl
    have logged : error.isPublishError = true := by
      rcases goes with runs | healthy
      · exact careful.announces _ event error runs raised
      · rcases raised with stores | publishes
        · exact absurd stores healthy.storeEvent
        · exact healthy.publish publishes
    cases loud.symm.trans logged
  · exact ⟨passed, fun _ => rfl⟩

private theorem ends_announceAll {executionId : ExecutionId}
    {events : List DomainEvent}
    (its : ∀ event ∈ events, event.executionId = executionId) :
    setting.Ends backend caller (ResultProcessor.announceAll events)
      (fun result after => world.Passes after ∧
        (executionId ∈ world.queue.running ∨ Healthy setting →
          result = .ok ())) world := by
  induction events generalizing world with
  | nil => exact ⟨.refl world, fun _ => rfl⟩
  | cons event events inductionHypothesis =>
      unfold ResultProcessor.announceAll
      rw [ends_bind]
      apply ends_mono _ (ends_announce careful event)
      rintro (error | _) between ⟨passed, goes⟩
      · rw [its event (by simp)] at goes
        refine ⟨passed, fun quiet => ?_⟩
        cases goes quiet
      · apply ends_mono _ (inductionHypothesis fun other member =>
          its other (List.mem_cons_of_mem _ member))
        rintro result after ⟨later, goesToo⟩
        rw [passed.queue] at goesToo
        exact ⟨passed.trans later, goesToo⟩

private theorem ends_publishResultStored (executionId : ExecutionId)
    (sizeBytes : Nat) (userId : UserId) (aggregateId : Option String) :
    setting.Ends backend caller
      (ResultProcessor.publishResultStored executionId sizeBytes userId
        aggregateId)
      (fun result after => world.Passes after ∧
        (executionId ∈ world.queue.running ∨ Healthy setting →
          result = .ok ())) world := by
  unfold ResultProcessor.publishResultStored
  rw [ends_bind]
  apply ends_mono _ (ends_passing careful.time rfl)
  rintro (error | eventId) between ⟨passed, raises⟩
  · cases (raises error rfl).1
  · apply ends_mono _ (ends_announce careful _)
    rintro result after ⟨later, goes⟩
    rw [passed.queue] at goes
    exact ⟨passed.trans later, goes⟩

/-- The failure to store a result goes out, when it cannot raise for an
execution with a running slot. -/
theorem ends_publishResultFailed (executionId : ExecutionId)
    (userId : UserId) (aggregateId : Option String)
    (reports : ∀ queue event error, DomainEvent.isResultFailed event = true →
      event.executionId ∈ queue.running →
        ¬ (MayRaise setting queue (.storeEvent event) error ∨
          MayRaise setting queue (.publish event) error)) :
    setting.Ends backend caller
      (ResultProcessor.publishResultFailed executionId userId aggregateId)
      (fun result after => world.Passes after ∧
        (executionId ∈ world.queue.running → result = .ok ())) world := by
  unfold ResultProcessor.publishResultFailed
  rw [ends_bind]
  apply ends_mono _ (ends_passing careful.time rfl)
  rintro (error | eventId) between ⟨passed, raises⟩
  · cases (raises error rfl).1
  · apply ends_mono _ (ends_produce careful.time _)
    rintro (error | _) after ⟨later, raises⟩
    · refine ⟨passed.trans later, fun runs => ?_⟩
      rw [← passed.queue] at runs
      exact absurd (raises error rfl) (reports _ _ error rfl runs)
    · exact ⟨passed.trans later, fun _ => rfl⟩

/-- The result of a failure is stored and announced. -/
theorem ends_store {result : ExecutionResultDomain} {metadata : EventMetadata}
    {aggregateId : Option String} {announce : List DomainEvent}
    (failed : result.status = .failed)
    (its : ∀ event ∈ announce, event.executionId = result.executionId) :
    setting.Ends backend caller
      (ResultProcessor.store result metadata aggregateId announce)
      (fun outcome after => RecordFails result.executionId world after ∧
        (result.executionId ∈ world.queue.running ∨ Healthy setting →
          outcome = .ok ())) world := by
  unfold ResultProcessor.store
  simp only [ends_bind, ends_attempt]
  apply ends_call
  intro between later choice reply next may performed
  have passed := careful.time.passes later
  have writes : RecordFails result.executionId between
      (between.writeTerminalResult caller result).2 :=
    ⟨besides_written caller failed, rfl, rfl, fails_written failed _⟩
  rcases World.perform_cases performed with
    ⟨outcome, went⟩ | ⟨error, rfl, -, ⟨outcome, -⟩ | ⟨outcome, -, rfl⟩⟩
  · rw [World.effect_writeTerminalResult] at went
    obtain ⟨rfl, rfl⟩ := Prod.mk.inj went
    simp only [ends_pure]
    cases (between.writeTerminalResult caller result).1 with
    | false => exact ⟨writes.around passed (.refl _), fun _ => rfl⟩
    | true =>
        simp only [ends_bind]
        apply ends_mono _ (ends_announceAll careful its)
        rintro (error | _) after ⟨announced, goes⟩
        · refine ⟨writes.around passed announced, fun quiet => ?_⟩
          rw [← passed.queue] at quiet
          cases goes quiet
        · apply ends_mono _ (ends_publishResultStored careful _ _ _ _)
          rintro outcome last ⟨stored, goesToo⟩
          refine ⟨writes.around passed (announced.trans stored),
            fun quiet => goesToo ?_⟩
          rw [announced.queue]
          rwa [← passed.queue] at quiet
  · exact absurd outcome (careful.takes between result choice may error)
  · -- The answer is lost: a Mongo error is published, another one goes on
    by_cases mongo : error.isPyMongoError
    · simp only [if_pos mongo, ends_bind]
      apply ends_mono _ (ends_publishResultFailed careful _ _ _
        fun queue event raised => careful.reports between result choice error
          queue event raised may outcome)
      rintro (raised | _) after ⟨published, goes⟩
      · refine ⟨writes.around passed published, fun quiet => ?_⟩
        rcases quiet with runs | healthy
        · rw [← passed.queue] at runs
          cases goes runs
        · rcases healthy between _ choice error may
            (by rw [outcome, Outcome.error?]) with starts | ⟨_, same, -⟩
          · cases starts
          · cases same
      · exact ⟨writes.around passed published, fun _ => rfl⟩
    · simp only [if_neg mongo, ends_raise]
      refine ⟨writes.around passed (.refl _), fun quiet => ?_⟩
      rcases quiet with runs | healthy
      · rw [← passed.queue] at runs
        exact absurd (careful.writes between result choice error may runs
          outcome) mongo
      · rcases healthy between _ choice error may
          (by rw [outcome, Outcome.error?]) with starts | ⟨_, same, -⟩
        · cases starts
        · cases same

/-- A failure of an execution is stored, if it has a record. -/
theorem ends_handleExecutionFailed (event : ExecutionFailedEvent) :
    setting.Ends backend caller (ResultProcessor.handleExecutionFailed event)
      (fun outcome after => RecordFails event.executionId world after ∧
        (event.executionId ∈ world.queue.running ∨ Healthy setting →
          outcome = .ok ())) world := by
  unfold ResultProcessor.handleExecutionFailed ResultProcessor.withExecution
  rw [ends_bind]
  apply ends_works careful.time (careful.finds event.executionId)
  intro between choice passed
  simp only [World.effect, Executions.getExecution_eq]
  cases found : between.executions event.executionId with
  | none =>
      refine ⟨⟨.of_passes passed, passed.queue, passed.pods, ?_⟩, fun _ => rfl⟩
      rw [← passed.executions, found]
      exact rfl
  | some doc =>
      apply ends_mono _ (@ends_store setting caller between careful
        (ResultProcessor.failedResult event) event.metadata event.aggregateId
        [.executionFailed event] rfl ?_)
      · rintro outcome after ⟨fails, goes⟩
        rw [passed.queue] at goes
        exact ⟨fails.around passed (.refl _), goes⟩
      · intro other member
        cases List.mem_singleton.mp member
        rfl

/-- An execution whose request is lost fails, if it has a record. -/
theorem ends_handleLostRequest (executionId : ExecutionId) :
    setting.Ends backend caller (ResultProcessor.handleLostRequest executionId)
      (fun outcome after => RecordFails executionId world after ∧
        (Healthy setting → outcome = .ok ())) world := by
  unfold ResultProcessor.handleLostRequest ResultProcessor.withExecution
  rw [ends_bind]
  apply ends_works careful.time (careful.finds executionId)
  intro between choice passed
  simp only [World.effect, Executions.getExecution_eq]
  cases found : between.executions executionId with
  | none =>
      refine ⟨⟨.of_passes passed, passed.queue, passed.pods, ?_⟩, fun _ => rfl⟩
      rw [← passed.executions, found]
      exact rfl
  | some doc =>
      simp only [ends_bind]
      apply ends_mono _ (ends_passing careful.time rfl)
      rintro (error | eventId) next ⟨later, raises⟩
      · cases (raises error rfl).1
      · apply ends_mono _ (ends_handleExecutionFailed careful _)
        rintro outcome after ⟨fails, goes⟩
        exact ⟨fails.around (passed.trans later) (.refl _),
          fun healthy => goes (.inr healthy)⟩

/-- A pod was created, or it already existed; or its creation failed and there
is none that was not there before. -/
structure PodTried {α : Type} (executionId : ExecutionId) (world : World)
    (result : Except PyException α) (after : World) : Prop where
  besides : Besides executionId world after
  executions : after.executions = world.executions
  queue : after.queue = world.queue
  pod : (∃ value, result = .ok value ∧
      after.cluster.pods (podNameOf executionId) ≠ none) ∨
    ∃ error, result = .error error ∧
      after.cluster.pods = world.cluster.pods

omit careful in
private theorem podTried_of_passes {α : Type} {executionId : ExecutionId}
    {after : World} (error : PyException) (passed : world.Passes after) :
    PodTried executionId world (.error error : Except PyException α) after :=
  ⟨.of_passes passed, passed.executions, passed.queue,
    .inr ⟨error, rfl, passed.pods⟩⟩

omit careful in
theorem PodTried.around {α : Type} {executionId : ExecutionId}
    {before after later : World} {result : Except PyException α}
    (passed : world.Passes before)
    (tried : PodTried executionId before result after)
    (passes : after.Passes later) :
    PodTried executionId world result later where
  besides := ((Besides.of_passes passed).trans tried.besides).trans
    (.of_passes passes)
  executions := (passes.executions.trans tried.executions).trans
    passed.executions
  queue := (passes.queue.trans tried.queue).trans passed.queue
  pod := by
    rw [passes.pods, ← passed.pods]
    exact tried.pod

/-- The pod is created, unless its name is taken; a failed creation leaves
none. -/
theorem ends_createNamespacedPod (executionId : ExecutionId) (pod : Pod) :
    setting.Ends backend caller
      (KubernetesWorker.createNamespacedPod (podNameOf executionId) pod)
      (PodTried executionId world) world := by
  unfold KubernetesWorker.createNamespacedPod
  simp only [ends_attempt, ends_bind]
  apply ends_call
  intro between later choice reply next may performed
  have passed := careful.time.passes later
  rcases World.perform_cases performed with
    ⟨-, went⟩ | ⟨error, rfl, raises, ⟨-, rfl⟩ | ⟨outcome, -, -⟩⟩
  · simp only [World.effect, Cluster.perform, Cluster.createPod] at went
    cases taken : between.cluster.pods (podNameOf executionId) with
    | some other =>
        simp only [taken, Prod.mk.injEq] at went
        obtain ⟨rfl, rfl⟩ := went
        exact ⟨.of_passes passed, passed.executions, passed.queue,
          .inl ⟨false, rfl, by simp [taken]⟩⟩
    | none =>
        simp only [taken, Prod.mk.injEq] at went
        obtain ⟨rfl, rfl⟩ := went
        refine ⟨(Besides.of_passes passed).trans (besides_pods ?_),
          passed.executions, passed.queue, .inl ⟨true, rfl, by simp⟩⟩
        exact fun name different => Collection.insert_other _ different _
  · have other : error ≠ .apiException 409 := bne_iff_ne.mp raises
    simp only [if_neg other, ends_raise]
    exact podTried_of_passes error passed
  · exact absurd outcome (careful.creates between _ pod choice may error)

theorem ends_createConfigMap (name : String) (data : List (String × String)) :
    setting.Ends backend caller (KubernetesWorker.createConfigMap name data)
      (fun _ after => world.Passes after) world := by
  unfold KubernetesWorker.createConfigMap
  rw [ends_attempt]
  apply ends_mono _ (ends_passing careful.time rfl)
  rintro (error | _) after ⟨passed, -⟩
  · simp only
    split <;> exact passed
  · exact passed

/-- An error of the API when a new pod takes over its ConfigMap is only
logged. -/
theorem ends_adoptConfigMap (created : Bool) (name : String)
    (owner : PodName) :
    setting.Ends backend caller
      (KubernetesWorker.adoptConfigMap created name owner)
      (fun result after => result = .ok () ∧ world.Passes after) world := by
  unfold KubernetesWorker.adoptConfigMap KubernetesWorker.setConfigMapOwner
  split
  · rw [ends_attempt]
    apply ends_mono _ (ends_passing careful.time rfl)
    rintro (error | _) after ⟨passed, raises⟩
    · obtain ⟨status, rfl⟩ := careful.adopts _ _ _ error (raises error rfl)
      exact ⟨rfl, passed⟩
    · exact ⟨rfl, passed⟩
  · exact ⟨rfl, .refl world⟩

private theorem ends_publishPodCreated (settings : Settings)
    {event : ExecutionRequestedEvent}
    (runs : event.executionId ∈ world.queue.running) :
    setting.Ends backend caller
      (KubernetesWorker.publishPodCreated settings event)
      (fun result after => result = .ok () ∧ world.Passes after) world := by
  unfold KubernetesWorker.publishPodCreated
  rw [ends_bind]
  apply ends_mono _ (ends_passing careful.time rfl)
  rintro (error | eventId) between ⟨passed, raises⟩
  · cases (raises error rfl).1
  · apply ends_mono _ (ends_announce careful _)
    rintro result after ⟨later, goes⟩
    rw [passed.queue] at goes
    exact ⟨goes (.inl runs), passed.trans later⟩

/-- The pod of an execution with a running slot is created, or its creation
fails before it exists. -/
theorem ends_createPod (settings : Settings)
    {event : ExecutionRequestedEvent}
    (runs : event.executionId ∈ world.queue.running) :
    setting.Ends backend caller (KubernetesWorker.createPod settings event)
      (PodTried event.executionId world) world := by
  unfold KubernetesWorker.createPod KubernetesWorker.getEntrypointScript
  simp only [ends_bind]
  apply ends_mono _ (ends_passing careful.time rfl)
  rintro (error | file) first ⟨passed, -⟩
  · exact podTried_of_passes error passed
  apply ends_mono _ (ends_createConfigMap careful _ _)
  rintro (error | _) second mapped
  · exact podTried_of_passes error (passed.trans mapped)
  have before := passed.trans mapped
  cases built : PodBuilder.buildPodManifest settings event with
  | error error =>
      exact podTried_of_passes error before
  | ok pod =>
  simp only [ends_bind]
  apply ends_mono _ (ends_createNamespacedPod careful event.executionId _)
  rintro (error | created) third tried
  · obtain ⟨value, same, -⟩ | ⟨raised, same, pods⟩ := tried.pod
    · cases same
    · have failed : PodTried event.executionId second
          (.error error : Except PyException Unit) third :=
        ⟨tried.besides, tried.executions, tried.queue, .inr ⟨error, rfl, pods⟩⟩
      exact failed.around before (.refl third)
  · apply ends_mono _ (ends_adoptConfigMap careful created _ _)
    rintro _ fourth ⟨rfl, adopted⟩
    have stillRuns : event.executionId ∈ fourth.queue.running := by
      rwa [adopted.queue, tried.queue, before.queue]
    apply ends_mono _ (ends_publishPodCreated careful settings stillRuns)
    rintro _ fifth ⟨rfl, published⟩
    obtain ⟨value, -, exists'⟩ | ⟨raised, same, -⟩ := tried.pod
    · have made : PodTried event.executionId second
          (.ok () : Except PyException Unit) third :=
        ⟨tried.besides, tried.executions, tried.queue,
          .inl ⟨(), rfl, exists'⟩⟩
      exact made.around before (adopted.trans published)
    · cases same

/-- The slots of a failed execution are given back. -/
theorem ends_freeSlots (executionId : ExecutionId) :
    setting.Ends backend caller
      (do
        ExecutionQueueService.release executionId
        ExecutionQueueService.releaseUserSlot executionId : Program Unit)
      (fun result after => (result = .ok () ∨ ¬ Healthy setting) ∧
        Besides executionId world after ∧
        after.executions = world.executions ∧
        after.cluster.pods = world.cluster.pods ∧
        executionId ∉ after.queue.running ∧
        SlotFreed executionId world after) world := by
  rw [ends_bind]
  apply ends_call
  intro between later choice reply next may performed
  have passed := careful.time.passes later
  have besides := (Besides.of_passes passed).trans
    (@besides_release executionId between)
  have gone : executionId ∉
      (between.queue.release between.clock executionId).running := by
    simp [QueueStore.release, QueueStore.dropRunning]
  have released := careful.releases between executionId choice may
  rcases World.perform_cases performed with
    ⟨-, went⟩ | ⟨error, rfl, -, ⟨outcome, -⟩ | ⟨outcome, -, rfl⟩⟩
  · cases went
    apply ends_mono _ (ends_releaseUserSlot careful.time executionId
      (careful.frees executionId))
    rintro _ after ⟨rfl, releases⟩
    refine ⟨.inl rfl, besides.trans (besides_releases releases),
      releases.executions.trans passed.executions,
      releases.pods.trans passed.pods, ?_, fun entry owned placed => ?_⟩
    · rw [releases.running]
      exact gone
    · refine releases.freed entry ?_
        (not_not.mp (SortedSet.score_eq_none.not.mp placed))
      show between.queue.owners executionId = some entry
      rw [passed.queue, owned]
  · rcases released with works | ⟨⟨_, lost⟩, -⟩
    · cases outcome.symm.trans works
    · cases outcome.symm.trans lost
  · rcases released with works | ⟨-, slotless⟩
    · cases outcome.symm.trans works
    · refine ⟨.inr fun healthy => ?_, besides, passed.executions, passed.pods,
        gone, fun entry _ placed => ?_⟩
      · rcases healthy between _ choice error may
          (by rw [outcome, Outcome.error?]) with starts | ⟨_, same, -⟩
        · cases starts
        · cases same
      · exact absurd (not_not.mp (SortedSet.score_eq_none.not.mp placed))
          (slotless entry.value)

/-- The pod of an execution with a running slot is created, or the execution
ends as failed. -/
theorem ends_startPod (deployment : Deployment)
    {event : ExecutionRequestedEvent}
    (runs : event.executionId ∈ world.queue.running) :
    setting.Ends backend caller
      (ExecutionScheduler.startPod deployment event.executionId event)
      (fun result after => Besides event.executionId world after ∧
        (result = .ok () ∧ after.executions = world.executions ∧
            after.queue = world.queue ∧
            after.cluster.pods (podNameOf event.executionId) ≠ none ∨
          (result = .ok () ∨ ¬ Healthy setting) ∧
            Ended event.executionId world after)) world := by
  unfold ExecutionScheduler.startPod
  rw [ends_attempt]
  apply ends_mono _ (ends_createPod careful deployment.settings runs)
  rintro (error | _) first tried
  · obtain ⟨value, same, -⟩ | ⟨raised, -, pods⟩ := tried.pod
    · cases same
    simp only
    rw [ends_bind]
    apply ends_mono _ (ends_passing careful.time rfl)
    rintro (raised | eventId) second ⟨passed, raises⟩
    · cases (raises raised rfl).1
    have stillRuns : event.executionId ∈ second.queue.running := by
      rwa [passed.queue, tried.queue]
    simp only
    rw [ends_bind]
    apply ends_mono _ (ends_handleExecutionFailed careful _)
    rintro outcome third ⟨fails, goes⟩
    rw [goes (.inl stillRuns)]
    apply ends_mono _ (ends_freeSlots careful event.executionId)
    rintro result last ⟨goesOn, besides, executions, pods', gone, freed⟩
    -- The failure is stored, then the two slots are given back
    have stored := fails.around passed (.refl third)
    refine ⟨(tried.besides.trans stored.besides).trans besides,
      .inr ⟨goesOn, ?_, gone, fun entry owned placed => ?_, ?_⟩⟩
    · rw [executions, ← tried.executions]
      exact stored.record
    · refine freed entry ?_ placed
      rw [stored.queue, tried.queue, owned]
    · rw [pods', stored.pods, pods]
  · obtain ⟨value, -, exists'⟩ | ⟨raised, same, -⟩ := tried.pod
    · exact ⟨tried.besides,
        .inl ⟨rfl, tried.executions, tried.queue, exists'⟩⟩
    · cases same

omit careful in
/-- A time of the queue's script is one that has passed. -/
theorem idle_of_script {maxActive now deadline : Nat}
    (ordered : now ≤ world.clock)
    (nothing : (world.queue.trySchedule maxActive now deadline).1 = none) :
    Idle world { world with
        queue := (world.queue.trySchedule maxActive now deadline).2 } ∧
      NothingMore maxActive { world with
        queue := (world.queue.trySchedule maxActive now deadline).2 } := by
  rcases world.queue.trySchedule_cases maxActive now deadline with
    ⟨same, filled⟩ | ⟨priority, executionId, score, -, -, same⟩
  · rw [same]
    exact ⟨idle_prune ordered, filled⟩
  · rw [same] at nothing
    cases nothing

/-- An execution whose request is lost loses its slots. -/
theorem ends_loseRequest (executionId : ExecutionId) :
    setting.Ends backend caller
      (do
        let _ ← ExecutionQueueService.await (.dropRunning executionId)
        ExecutionQueueService.releaseUserSlot executionId
        Coroutine.raise (.queuedRequestLostError executionId) :
          Program (Option (ExecutionId × ExecutionRequestedEvent)))
      (fun result after =>
        result = .error (.queuedRequestLostError executionId) ∧
        Besides executionId world after ∧
        after.executions = world.executions ∧
        after.cluster.pods = world.cluster.pods ∧
        executionId ∉ after.queue.running ∧
        SlotFreed executionId world after) world := by
  rw [ends_bind]
  apply ends_works careful.time (careful.drops executionId)
  intro between choice passed
  simp only [ends_bind]
  apply ends_mono _ (ends_releaseUserSlot careful.time executionId
    (careful.frees executionId))
  rintro _ after ⟨rfl, releases⟩
  have dropped := (Besides.of_passes passed).trans
    (besides_dropRunning.trans (besides_releases releases))
  refine ⟨rfl, dropped, ?_, ?_, ?_, fun entry owned placed => ?_⟩
  · rw [releases.executions]
    exact passed.executions
  · rw [releases.pods]
    exact passed.pods
  · rw [releases.running]
    simp [World.effect, QueueStore.perform, QueueStore.dropRunning]
  · refine releases.freed entry ?_
      (not_not.mp (SortedSet.score_eq_none.not.mp placed))
    show between.queue.owners executionId = some entry
    rw [passed.queue, owned]

/-- A popped execution gets the deadline that its request says. -/
theorem ends_moveDeadlines {executionId : ExecutionId}
    {entry : Expiring ExecutionRequestedEvent}
    (stored : world.queue.events.live world.clock executionId = some entry)
    (runs : executionId ∈ world.queue.running) :
    setting.Ends backend caller
      (do
        let scheduledAt ← request .now
        let _ ← ExecutionQueueService.await (.moveDeadlines executionId
          entry.value.metadata.userId (scheduledAt +
            seconds (ExecutionQueueService.slotSeconds entry.value)))
        pure (some (executionId, entry.value)) :
          Program (Option (ExecutionId × ExecutionRequestedEvent)))
      (fun result after =>
        result = .ok (some (executionId, entry.value)) ∧
        Besides executionId world after ∧
        after.executions = world.executions ∧
        after.cluster.pods = world.cluster.pods ∧
        after.queue.owners = world.queue.owners ∧
        ∃ deadline, world.clock +
            seconds (ExecutionQueueService.slotSeconds entry.value) ≤
              deadline ∧
          after.queue.running.score executionId = some deadline) world := by
  rw [ends_bind]
  apply ends_quiet careful.time rfl
  rintro first choice reply next passed - performed -
  rcases World.perform_cases performed with ⟨-, went⟩ | ⟨_, -, raises, -⟩
  · cases went
    simp only [ends_bind]
    apply ends_works careful.time (careful.moves _ _ _)
    intro between choice later
    have before := passed.trans later
    have live : world.queue.events.live world.clock executionId ≠ none := by
      rw [stored]
      exact Option.some_ne_none entry
    refine ⟨rfl, besides_moveDeadlines before live, before.executions,
      before.pods, by rw [← before.queue]; rfl, first.clock +
        seconds (ExecutionQueueService.slotSeconds entry.value), ?_, ?_⟩
    · exact Nat.add_le_add_right passed.clock _
    · obtain ⟨old, scored⟩ := SortedSet.mem_iff_score.mp runs
      rw [← before.queue] at scored
      refine SortedSet.score_addExisting_self.trans ?_
      rw [scored]
      rfl
  · cases raises

/-- The next execution is popped with its request, or what else becomes of
it. -/
theorem ends_trySchedule (maxActive : Nat) :
    setting.Ends backend caller (ExecutionQueueService.trySchedule maxActive)
      (Scheduled setting maxActive world) world := by
  unfold ExecutionQueueService.trySchedule
  simp only [ends_bind]
  apply ends_quiet careful.time rfl
  rintro first choice reply next passed - performed -
  rcases World.perform_cases performed with
    ⟨-, went⟩ | ⟨error, -, raises, -⟩
  · cases went
    apply ends_call
    intro between later choice reply next may performed
    have passedOn := careful.time.passes later
    have before := passed.trans passedOn
    rcases World.perform_cases performed with
      ⟨-, went⟩ | ⟨error, rfl, raises, wrong⟩
    · simp only [World.effect, QueueStore.perform] at went
      rcases between.queue.trySchedule_cases maxActive first.clock
          (first.clock + seconds provisionalSlotSeconds) with
        ⟨same, filled⟩ | ⟨priority, executionId, score, -, scored, same⟩
      · simp only [same, Prod.mk.injEq] at went
        obtain ⟨rfl, rfl⟩ := went
        exact .nothing _ ((idle_prune passedOn.clock).since before) filled
      · simp only [same, Prod.mk.injEq] at went
        obtain ⟨rfl, rfl⟩ := went
        have member := SortedSet.mem_iff_score.mpr ⟨score, scored⟩
        have popped := popped_handOut
          (first.clock + seconds provisionalSlotSeconds) passedOn.clock member
        apply ends_works careful.time (careful.loads executionId)
        intro second choice goesOn
        -- What the pop and the load leave of the stores
        have owners : second.queue.owners = world.queue.owners := by
          rw [goesOn.queue, ← before.queue]
          rfl
        have events : second.queue.events = world.queue.events := by
          rw [goesOn.queue, ← before.queue]
          rfl
        have records := goesOn.executions.trans before.executions
        have cluster := goesOn.pods.trans before.pods
        have ordered := Nat.le_trans before.clock goesOn.clock
        have first := popped.besides (.of_passes goesOn)
        simp only [World.effect, QueueStore.perform]
        cases found : second.queue.events.live second.clock executionId with
        | none =>
            simp only [ExpiringStore.get, found, Option.map_none]
            apply ends_mono _ (ends_loseRequest careful executionId)
            rintro _ after ⟨rfl, besides, executions, pods, gone, freed⟩
            refine .lost after executionId ((first.besides besides).since
              before) (executions.trans records) (pods.trans cluster) gone ?_
            intro entry owned placed
            exact freed entry (by rw [owners]; exact owned) placed
        | some entry =>
            simp only [ExpiringStore.get, found, Option.map_some]
            apply ends_mono _ (ends_moveDeadlines careful found ?_)
            · rintro _ after ⟨rfl, besides, executions, pods, owned, deadline,
                lasts, runs⟩
              refine .loaded after executionId entry deadline
                ((first.besides besides).since before)
                (executions.trans records) (pods.trans cluster)
                (owned.trans owners) ?_ ?_ runs
              · rw [← events]
                exact (ExpiringStore.live_eq_some.mp found).1
              · exact Nat.le_trans (Nat.add_le_add_right ordered _) lasts
            · rw [goesOn.queue]
              simp [QueueStore.handOut]
    · have missed : choice.outcome.error? = some error := by
        rcases wrong with ⟨outcome, -⟩ | ⟨outcome, -⟩ <;>
          rw [outcome, Outcome.error?]
      have idle : Idle world next := by
        rcases wrong with ⟨-, rfl⟩ | ⟨outcome, -, rfl⟩
        · exact .of_passes before
        · exact (idle_of_script passedOn.clock
            (careful.pops between _ _ _ choice error may outcome)).1.since
              before
      refine .failed next error idle (fun executionId its => ?_)
        fun healthy => ?_
      · subst its
        exact careful.tells _ _ _ _ executionId
          ⟨raises, between, choice, rfl, may, missed⟩
      · rcases healthy between _ choice error may missed with
          starts | ⟨_, same, -⟩
        · cases starts
        · cases same
  · cases raises

/-- A round: what the queue hands out is started or ends as failed. -/
theorem ends_scheduleNext (deployment : Deployment) (maxActive : Nat)
    (filed : ∀ executionId entry,
      world.queue.events executionId = some entry →
        entry.value.executionId = executionId) :
    setting.Ends backend caller
      (ExecutionScheduler.scheduleNext deployment maxActive)
      (Round setting maxActive world) world := by
  unfold ExecutionScheduler.scheduleNext ExecutionScheduler.nextScheduled
  simp only [ends_bind, ends_attempt]
  apply ends_mono _ (ends_trySchedule careful maxActive)
  rintro result first scheduled
  cases scheduled with
  | nothing _ idle filled => exact .nothing first idle filled
  | loaded _ executionId entry deadline popped executions pods owners stored
      lasts runs =>
      cases filed executionId entry stored
      simp only [ends_pure, ends_bind]
      have running := SortedSet.mem_iff_score.mpr ⟨deadline, runs⟩
      apply ends_mono _ (ends_startPod careful deployment running)
      rintro result after ⟨besides, ⟨rfl, records, queue, exists'⟩ |
        ⟨goes, ended⟩⟩
      · refine .popped after _ (popped.besides besides) (.inl ⟨?_, exists',
          entry, deadline, stored, lasts, ?_⟩)
        · rw [records, executions]
        · rw [queue, runs]
      · have whole : Ended entry.value.executionId world after :=
          { ended with
            record := executions ▸ ended.record
            pod := by rw [ended.pod, pods]
            slot := fun entry owned placed =>
              ended.slot entry (by rw [owners, owned]) placed }
        cases result with
        | ok _ => exact .popped after _ (popped.besides besides) (.inr whole)
        | error error =>
            refine .raised after _ error (popped.besides besides) whole ?_
            rcases goes with same | wrong
            · cases same
            · exact wrong
  | lost _ executionId popped executions pods running slot =>
      simp only [ends_pure, ends_bind]
      apply ends_mono _ (ends_handleLostRequest careful executionId)
      rintro outcome after ⟨fails, goes⟩
      have ended : Ended executionId world after :=
        { record := executions ▸ fails.record
          running := by rwa [fails.queue]
          slot := fun entry owned placed => Nat.le_trans
            (slot entry owned (fails.besides.own.placed placed))
            fails.besides.own.clock
          pod := by rw [fails.pods, pods] }
      cases outcome with
      | ok _ => exact .popped after _ (popped.besides fails.besides) (.inr ended)
      | error error =>
          refine .raised after _ error (popped.besides fails.besides) ended
            fun healthy => ?_
          cases goes healthy
  | failed _ error idle other wrong =>
      cases error with
      | queuedRequestLostError executionId =>
          exact absurd rfl (other executionId)
      | _ => exact .failed first _ idle wrong

end Parts

end Integr8s
