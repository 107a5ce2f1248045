/-
Module: Integr8s.Proofs.PriorityAgreement
Purpose: When the priority stored with an execution is the one of the pending
  set it waits in: an update stores the priority and then moves the execution
  in the queue, and the request brings a priority of its own, so the two agree
  when nothing is enqueued at another priority than the stored one and no move
  overtakes a later update.
Trusted boundary: none
Main exports: PriorityAgreement.stored_priority_is_effective,
  PriorityAgreement.updated_before_enqueued
-/
import Integr8s.Proofs.AwaitedCommands

namespace Integr8s

namespace PriorityAgreement

open Job (start)

/-- How far a call is with the priority of an execution: it doesn't change it,
it is to store it, or it has stored it and moves the execution in the queue
next. -/
inductive Course where
  | apart
  | stores (priority : QueuePriority)
  | moves (priority : QueuePriority)
deriving DecidableEq

/-- An update stores the priority and then moves the execution. -/
def updating (executionId : ExecutionId) :
    Typestate Course Command Reply PyException where
  awaits
    | .stores priority, command =>
        command = .updatePriority executionId priority
    | .moves priority, command =>
        command = .queue (.updatePriority executionId priority)
    | .apart, .updatePriority other _ => other ≠ executionId
    | .apart, .queue (.updatePriority other _) => other ≠ executionId
    | .apart, _ => True
  after
    | .stores priority, .updatePriority .., .ok (some _) => .moves priority
    | _, _, _ => .apart
  loops here := here = .apart
  gone here := here = .apart

/-- The course with which a job begins. -/
def Course.first (executionId : ExecutionId) : Job → Course
  | .updatePriority other newPriority =>
      if other = executionId then .stores newPriority else .apart
  | _ => .apart

/-! ### What the jobs await -/

section Calls

variable {executionId : ExecutionId} {deployment : Deployment}

/-- The commands that no update of a priority awaits. -/
def isPlain : Command → Bool
  | .updatePriority .. | .queue (.updatePriority ..) => false
  | _ => true

theorem settled {command : Command} {there : Course}
    (plain : isPlain command = true) (apart : there = .apart) :
    (updating executionId).awaits there command ∧
      ∀ reply, (updating executionId).answers there command reply →
        (updating executionId).after there command reply = .apart := by
  subst apart
  cases command with
  | queue command =>
      cases command with
      | updatePriority => cases plain
      | _ => exact ⟨trivial, fun _ _ => rfl⟩
  | updatePriority => cases plain
  | _ => exact ⟨trivial, fun _ _ => rfl⟩

theorem plain_of_passive (command : Command)
    (passive : command.isPassive = true) : isPlain command = true := by
  cases command with
  | queue command => cases command <;> first | rfl | cases passive
  | updatePriority => cases passive
  | _ => rfl

theorem plain_of_start (command : Command)
    (starts : command.isStart = true) : isPlain command = true := by
  cases command with
  | queue command => cases starts
  | updatePriority => cases starts
  | _ => rfl

theorem plain_of_release (command : QueueCommand)
    (releases : command.isRelease = true) :
    isPlain (.queue command) = true := by
  cases command <;> first | rfl | cases releases

/-- What awaits plain commands only stays apart. -/
theorem follows_plain {α : Type} {coroutine : Program α}
    (asks : coroutine.Asks fun command => isPlain command = true) :
    (updating executionId).Follows coroutine
      (fun _ there => there = .apart) .apart :=
  Typestate.follows_asks (fun _ _ plain apart => settled plain apart)
    (fun _ apart => apart) asks rfl

private theorem asks_enqueue (event : ExecutionRequestedEvent) :
    (ExecutionQueueService.enqueue event).Asks
      fun command => isPlain command = true := by
  apply Coroutine.Asks.bind
  · exact asks_request rfl
  intro score
  apply Coroutine.Asks.bind
  · exact asks_request rfl
  intro _
  apply Coroutine.Asks.bind
  · exact asks_request rfl
  intro rank
  trivial

theorem asks_trySchedule (maxActive : Nat) :
    (ExecutionQueueService.trySchedule maxActive).Asks
      fun command => isPlain command = true := by
  apply Coroutine.Asks.bind
  · exact asks_request rfl
  intro now
  apply Coroutine.Asks.bind
  · exact asks_request rfl
  intro handed
  match handed with
  | none => trivial
  | some (executionId, _, _) =>
      apply Coroutine.Asks.bind
      · exact asks_request rfl
      intro found
      cases found with
      | none =>
          apply Coroutine.Asks.bind
          · exact asks_request rfl
          intro _
          apply Coroutine.Asks.bind (asks_releaseUserSlot plain_of_release)
          intro _
          trivial
      | some event =>
          apply Coroutine.Asks.bind
          · exact asks_request rfl
          intro scheduledAt
          apply Coroutine.Asks.bind
          · exact asks_request rfl
          intro _
          trivial

/-- An update of a priority keeps to its course. -/
theorem follows_updatePriority (other : ExecutionId)
    (newPriority : QueuePriority) :
    (updating executionId).Follows
      (AdminExecutionService.updatePriority other newPriority)
      (fun _ there => there = .apart)
      (Course.first executionId (.updatePriority other newPriority)) := by
  unfold AdminExecutionService.updatePriority
  rw [Typestate.follows_bind]
  by_cases same : other = executionId
  · subst same
    have begins : Course.first other (.updatePriority other newPriority) =
        .stores newPriority := if_pos rfl
    rw [begins]
    apply Typestate.follows_call rfl
    intro updated _
    match updated with
    | .error error => rfl
    | .ok none => rfl
    | .ok (some updated) =>
        dsimp only
        rw [Typestate.follows_bind]
        apply Typestate.follows_call rfl
        intro moved _
        cases moved <;> rfl
  · have begins : Course.first executionId
        (.updatePriority other newPriority) = .apart := if_neg same
    rw [begins]
    apply Typestate.follows_call same
    intro updated _
    match updated with
    | .error error => rfl
    | .ok none => rfl
    | .ok (some updated) =>
        dsimp only
        rw [Typestate.follows_bind]
        apply Typestate.follows_call same
        intro moved _
        cases moved <;> rfl

/-- Every job keeps to its course, and is apart from the priority in the
end. -/
theorem follows_run (job : Job) :
    (updating executionId).Follows (job.run deployment)
      (fun _ there => there = .apart) (Course.first executionId job) := by
  have settled : ∀ (command : Command) (there : Course),
      isPlain command = true → there = .apart →
        (updating executionId).awaits there command ∧
          ∀ reply, (updating executionId).answers there command reply →
            (updating executionId).after there command reply = .apart :=
    fun _ _ plain apart => settled plain apart
  have stands : ∀ there : Course, there = .apart →
      (updating executionId).loops there := fun _ apart => apart
  have schedules : ∀ (maxActive : Nat) (there : Course), there = .apart →
      (updating executionId).Follows
        (ExecutionQueueService.trySchedule maxActive)
        (fun _ there => there = .apart) there := by
    rintro maxActive there rfl
    exact follows_plain (asks_trySchedule maxActive)
  cases job with
  | updatePriority other newPriority =>
      unfold Job.run
      rw [Typestate.follows_bind]
      apply Typestate.follows_mono _ (follows_updatePriority other newPriority)
      rintro result there rfl
      cases result <;> rfl
  | executeScript submission =>
      apply follows_plain
      apply Coroutine.Asks.bind
      · exact asks_executeScript plain_of_passive plain_of_release
          (fun _ => rfl) (fun _ _ _ _ => rfl) (fun _ => rfl) (fun _ => rfl)
          deployment submission
      intro _
      trivial
  | executionRequested event =>
      apply Typestate.follows_bind_keeping (follows_plain (asks_enqueue event))
      intro _ there apart
      exact follows_schedulePending settled stands schedules plain_of_passive
        plain_of_start plain_of_release (fun _ => rfl) deployment apart
  | executionCancelled event =>
      exact follows_handleExecutionCancelled settled stands schedules
        plain_of_passive plain_of_start plain_of_release (fun _ => rfl)
        (fun _ => rfl) deployment event rfl rfl
  | watchPodEvents reports =>
      exact follows_watchPodEvents settled stands schedules plain_of_passive
        plain_of_start plain_of_release (fun _ => rfl) (fun _ _ => rfl)
        (fun _ => rfl) deployment ∅ reports (fun _ => rfl) rfl
  | schedulePending =>
      exact follows_schedulePending settled stands schedules plain_of_passive
        plain_of_start plain_of_release (fun _ => rfl) deployment rfl

end Calls

/-! ### What commands do to a priority -/

section Effects

variable {executionId : ExecutionId} {world next : World} {caller : Caller}
  {command : Command} {choice : Choice}
  {reply : Except PyException (Reply command)}

/-- A change of a document that leaves its priority leaves every stored
priority. -/
theorem updateOne_priority {executions : Executions} {key : ExecutionId}
    {filter : ExecutionDocument → Bool}
    (change : ExecutionDocument → ExecutionDocument)
    (keeps : ∀ doc, (change doc).priority = doc.priority)
    {doc : ExecutionDocument}
    (stored : (executions.updateOne key filter change).2 executionId =
      some doc) :
    ∃ before, executions executionId = some before ∧
      before.priority = doc.priority := by
  rw [Collection.updateOne_get] at stored
  split at stored
  · next same =>
      obtain ⟨before, found, changed⟩ := Option.map_eq_some_iff.mp stored
      refine ⟨before, same ▸ found, ?_⟩
      split at changed
      · rw [← changed, keeps]
      · rw [changed]
  · exact ⟨doc, stored, rfl⟩

private theorem advanceStatus_priority {executions after : Executions}
    {key : ExecutionId} {status : ExecutionStatus} {now : Nat}
    {modified : Bool} {doc : ExecutionDocument}
    (advanced :
      executions.advanceStatus key status now = .ok (modified, after))
    (stored : after executionId = some doc) :
    ∃ before, executions executionId = some before ∧
      before.priority = doc.priority := by
  unfold Executions.advanceStatus at advanced
  dsimp only at advanced
  split at advanced
  · cases advanced
  · cases advanced
    exact updateOne_priority (Executions.setStatus status now)
      (fun _ => rfl) stored

/-- What the stored priority of an execution comes from: it was stored, an
update stored it, or the record was created with it. -/
theorem effect_priority {doc : ExecutionDocument}
    (stored : (world.effect caller choice command).2.executions executionId =
      some doc) :
    (∃ before, world.executions executionId = some before ∧
      before.priority = doc.priority) ∨
    (∃ before, command = .updatePriority executionId doc.priority ∧
      world.executions executionId = some before) ∨
    command = .createExecution doc ∧ doc.executionId = executionId := by
  cases command with
  | createExecution created =>
      simp only [World.effect, Executions.createExecution] at stored
      split at stored
      · exact .inl ⟨doc, stored, rfl⟩
      · by_cases same : executionId = created.executionId
        · subst same
          cases (Collection.insert_self ..).symm.trans stored
          exact .inr (.inr ⟨rfl, rfl⟩)
        · have kept := Collection.insert_other world.executions same created
          exact .inl ⟨doc, kept.symm.trans stored, rfl⟩
  | updatePriority other priority =>
      have updated : (world.executions.updatePriority other priority
          world.clock).2 executionId = some doc := stored
      rw [Executions.updatePriority_get] at updated
      split at updated
      · next same =>
          obtain ⟨before, found, rfl⟩ := Option.map_eq_some_iff.mp updated
          exact .inr (.inl ⟨before, same ▸ rfl, same ▸ found⟩)
      · exact .inl ⟨doc, updated, rfl⟩
  | deleteExecution other =>
      exact .inl ⟨doc, Executions.deleteExecution_stored stored, rfl⟩
  | writeTerminalResult result =>
      exact .inl (updateOne_priority
        (Executions.setResult result world.clock) (fun _ => rfl) stored)
  | advanceStatus other status =>
      simp only [World.effect] at stored
      split at stored
      · exact .inl ⟨doc, stored, rfl⟩
      · next advanced => exact .inl (advanceStatus_priority advanced stored)
  | insertProcessing record =>
      refine .inl ⟨doc, ?_, rfl⟩
      cases found : world.keys.live world.clock record.key with
      | none =>
          rw [World.effect_insertProcessing_free found] at stored
          exact stored
      | some entry =>
          rw [World.effect_insertProcessing_taken found] at stored
          exact stored
  | updateRecord loaded record =>
      refine .inl ⟨doc, ?_, rfl⟩
      cases found : world.keys.live world.clock record.key with
      | none =>
          rw [World.effect_updateRecord_missing found] at stored
          exact stored
      | some entry =>
          rw [World.effect_updateRecord_found found] at stored
          exact stored
  | delivery command =>
      refine .inl ⟨doc, ?_, rfl⟩
      cases command with
      | updateStatus eventId consumerGroup changes =>
          simp only [World.effect, World.effectDelivery, World.updateStatus]
            at stored
          split at stored <;> exact stored
      | _ => exact stored
  | _ => exact .inl ⟨doc, stored, rfl⟩

private theorem effect_updatePriority {priority : QueuePriority} :
    world.effect caller choice (.updatePriority executionId priority) =
      (.ok (world.executions.updatePriority executionId priority
          world.clock).1,
        { world with
          executions := (world.executions.updatePriority executionId priority
            world.clock).2 }) :=
  rfl

/-- What an update answers, and the priority that it leaves stored. -/
theorem updatePriority_stored {executions : Executions}
    {priority : QueuePriority} {now : Nat} {doc : ExecutionDocument}
    (stored : (executions.updatePriority executionId priority now).2
      executionId = some doc) :
    (executions.updatePriority executionId priority now).1 = some doc ∧
      doc.priority = priority := by
  constructor
  · rw [← stored]
    simp [Executions.updatePriority]
  · rw [Executions.updatePriority_get, if_pos rfl] at stored
    obtain ⟨before, -, rfl⟩ := Option.map_eq_some_iff.mp stored
    rfl

/-- A command of the queue that doesn't move the execution leaves it where it
was, or enqueues it at the priority of its request. -/
theorem perform_pending {queue : QueueStore} {clock : Nat}
    {queueCommand : QueueCommand} {priority : QueuePriority}
    (unmoved : ∀ newPriority,
      queueCommand ≠ .updatePriority executionId newPriority)
    (inside : executionId ∈
      (queue.perform clock queueCommand).2.pending priority) :
    executionId ∈ queue.pending priority ∨
    ∃ event score, queueCommand = .enqueue event score ∧
      event.executionId = executionId ∧ priority = event.priority := by
  rcases queue.perform_place clock queueCommand executionId with
    ⟨same, -⟩ | ⟨event, score, rfl, its⟩ | ⟨-, leaves⟩ |
      ⟨newPriority, rfl, -⟩ | rfl | rfl
  · rw [SortedSet.mem_iff_score, same.pending, ← SortedSet.mem_iff_score]
      at inside
    exact .inl inside
  · by_cases own : priority = event.priority
    · exact .inr ⟨event, score, rfl, its, own⟩
    · left
      simpa [QueueStore.perform, QueueStore.enqueue,
        Function.update_of_ne own] using inside
  · obtain ⟨place, -, left⟩ := leaves.was
    exact .inl ((left priority).mp inside).2
  · exact absurd rfl (unmoved newPriority)
  · exact .inl (SortedSet.mem_remove.mp inside).2
  · exact .inl inside

/-- A move takes an execution from the one pending set that has it to the one
of the new priority. -/
theorem updatePriority_pending {queue : QueueStore}
    {priority newPriority : QueuePriority}
    (once : ∀ first second, executionId ∈ queue.pending first →
      executionId ∈ queue.pending second → first = second)
    (inside : executionId ∈
      (queue.updatePriority executionId newPriority).2.pending priority) :
    priority = newPriority ∧ ∃ before, executionId ∈ queue.pending before := by
  rcases queue.updatePriority_cases executionId newPriority with
    ⟨nothing, nowhere⟩ | ⟨before, score, scored, moved⟩
  · rw [nothing] at inside
    exact absurd inside (nowhere priority)
  · have was := SortedSet.mem_iff_score.mpr ⟨score, scored⟩
    refine ⟨?_, before, was⟩
    rw [moved] at inside
    by_cases its : priority = newPriority
    · exact its
    · simp only [QueueStore.movePending, Function.update_of_ne its] at inside
      by_cases old : priority = before
      · subst old
        simp at inside
      · rw [Function.update_of_ne old] at inside
        exact absurd (once priority before inside was) old

end Effects

/-! ### Stored and effective priority

Where the two differ, some update is about to move the execution to the
priority that is stored.  That is the invariant, and the condition on the steps
keeps it. -/

section Laws

variable {executionId : ExecutionId} {jobs : Caller → Job}
  {world next : World} {locals after : Caller → Course} {state : Backend}
  {caller : Caller} {choice : Choice}

/-- The execution is in at most one pending set, and that is the one of its
stored priority, or some call moves it there next.  Only the updates of its
priority have anything to do with that. -/
structure Tended (executionId : ExecutionId) (jobs : Caller → Job)
    (world : World) (locals : Caller → Course) : Prop where
  once : ∀ first second, executionId ∈ world.queue.pending first →
    executionId ∈ world.queue.pending second → first = second
  tended : ∀ priority doc, executionId ∈ world.queue.pending priority →
    world.executions executionId = some doc → priority = doc.priority ∨
      ∃ caller, locals caller = .moves doc.priority
  updates : ∀ caller, locals caller ≠ .apart →
    ∃ newPriority, jobs caller = .updatePriority executionId newPriority

/-- A place in the queue is at this priority, or another call moves the
execution there next. -/
def Reaches (executionId : ExecutionId) (state : Backend) (caller : Caller)
    (place priority : QueuePriority) : Prop :=
  place = priority ∨ ∃ other, other ≠ caller ∧
    state.awaited other = some (.queue (.updatePriority executionId priority))

/-- A place in the queue is the one of the stored priority, or another call
moves the execution there next. -/
def ReachesStored (executionId : ExecutionId) (state : Backend)
    (caller : Caller) (place : QueuePriority) : Prop :=
  ∀ doc, state.shared.executions executionId = some doc →
    Reaches executionId state caller place doc.priority

/-- What a step of a call may do to the priority of an execution: an update
whose answer is lost, so that it makes no move, stores no priority that the
execution doesn't wait at; a move takes the execution to the stored priority,
and fails only when it is there; it is enqueued at the stored priority, and
only while it waits at no other one; and while it waits no record of it is
created with another one.  In place of each of these, another call may be about
to move it to the stored priority. -/
structure StepAgrees (executionId : ExecutionId) (state : Backend)
    (caller : Caller) (choice : Choice) : Prop where
  stores : ∀ newPriority error,
    state.awaited caller = some (.updatePriority executionId newPriority) →
    choice.outcome = .unacknowledged error → ∀ place,
      executionId ∈ state.shared.queue.pending place →
        Reaches executionId state caller place newPriority
  moves : ∀ newPriority,
    state.awaited caller =
      some (.queue (.updatePriority executionId newPriority)) →
    (∀ error, choice.outcome ≠ .fails error) →
    (∃ place, executionId ∈ state.shared.queue.pending place) →
      ReachesStored executionId state caller newPriority
  stays : ∀ newPriority error,
    state.awaited caller =
      some (.queue (.updatePriority executionId newPriority)) →
    choice.outcome = .fails error → ∀ place,
      executionId ∈ state.shared.queue.pending place →
        ReachesStored executionId state caller place
  enqueues : ∀ event score,
    state.awaited caller = some (.queue (.enqueue event score)) →
    event.executionId = executionId →
    (∀ error, choice.outcome ≠ .fails error) →
      (∀ place, executionId ∈ state.shared.queue.pending place →
        place = event.priority) ∧
      ReachesStored executionId state caller event.priority
  creates : ∀ doc, state.awaited caller = some (.createExecution doc) →
    doc.executionId = executionId → ∀ place,
      executionId ∈ state.shared.queue.pending place →
        Reaches executionId state caller place doc.priority

/-- Every step keeps the stored priority and the queue together, nobody but
the calls stores a priority, and no call dies that is to move the execution to
where it should be. -/
def KeepsAgreement (executionId : ExecutionId) (state : Backend) :
    Move Caller Choice WorldEvent → Prop
  | .caller caller choice => StepAgrees executionId state caller choice
  | .environment event =>
      ∀ priority, event ≠ .updatePriority executionId priority
  | .kill caller => ∀ newPriority,
      state.awaited caller =
        some (.queue (.updatePriority executionId newPriority)) → ∀ place,
        executionId ∈ state.shared.queue.pending place →
          ReachesStored executionId state caller place

/-- Who awaits the move is about to make it. -/
theorem moves_of_awaits {newPriority : QueuePriority}
    (obeyed : (updating executionId).Obeyed locals
      (fun _ _ there => there = .apart) state)
    (awaited : state.awaited caller =
      some (.queue (.updatePriority executionId newPriority))) :
    locals caller = .moves newPriority := by
  have awaits := obeyed.awaits awaited
  cases course : locals caller with
  | apart =>
      rw [course] at awaits
      exact absurd rfl awaits
  | stores priority =>
      rw [course] at awaits
      cases awaits
  | moves priority =>
      rw [course] at awaits
      cases awaits
      rfl

/-- Who is about to move the execution awaits it. -/
theorem awaits_of_moves {priority : QueuePriority}
    (obeyed : (updating executionId).Obeyed locals
      (fun _ _ there => there = .apart) state)
    (lives : state.running caller ≠ none)
    (moves : locals caller = .moves priority) :
    state.awaited caller =
      some (.queue (.updatePriority executionId priority)) := by
  have unfinished : locals caller ≠ .apart := by
    rw [moves]
    exact Course.noConfusion
  obtain ⟨command, awaited, may⟩ :=
    obeyed.awaiting lives (fun _ => unfinished) unfinished
  rw [moves] at may
  cases may
  exact awaited

/-- A call that another one leaves to move the execution still does so after
that one went on. -/
theorem Reaches.goesOn {place priority : QueuePriority}
    (reaches : Reaches executionId state caller place priority)
    (course : Course) (obeyed : (updating executionId).Obeyed locals
      (fun _ _ there => there = .apart) state) :
    place = priority ∨ ∃ other,
      Function.update locals caller course other = .moves priority := by
  rcases reaches with same | ⟨other, different, awaited⟩
  · exact .inl same
  · refine .inr ⟨other, ?_⟩
    rw [Function.update_of_ne different]
    exact moves_of_awaits obeyed awaited

/-- The execution stays tended when it waits nowhere new, its priority is the
one that was stored, and the calls that were to move it still are. -/
theorem Tended.kept (tended : Tended executionId jobs world locals)
    (places : ∀ place, executionId ∈ next.queue.pending place →
      executionId ∈ world.queue.pending place)
    (stored : ∀ doc, next.executions executionId = some doc →
      ∃ before, world.executions executionId = some before ∧
        before.priority = doc.priority) :
    Tended executionId jobs next locals where
  once first second firstInside secondInside :=
    tended.once first second (places first firstInside)
      (places second secondInside)
  tended place doc inside found := by
    obtain ⟨before, was, same⟩ := stored doc found
    rw [← same]
    exact tended.tended place before (places place inside) was
  updates := tended.updates

/-! ### Each step keeps the invariant -/

section Steps

variable {command : Command} {reply : Except PyException (Reply command)}

/-- A command takes effect, or it fails and leaves the stores as they were. -/
theorem took_effect
    (performed : world.perform caller command choice = some (reply, next)) :
    (∃ error, choice.outcome = .fails error ∧ reply = .error error ∧
      next.executions = world.executions ∧ next.queue = world.queue) ∨
    (∀ error, choice.outcome ≠ .fails error) ∧
      next = (world.effect caller choice command).2 := by
  rcases World.perform_cases performed with
    ⟨outcome, went⟩ | ⟨error, raised, -, ⟨outcome, rfl⟩ |
      ⟨outcome, -, rfl⟩⟩
  · refine .inr ⟨fun error => ?_, by rw [went]⟩
    rw [outcome]
    exact Outcome.noConfusion
  · obtain ⟨_, _, _, _, same⟩ := World.failure_eq caller world command
    refine .inl ⟨error, outcome, raised, ?_, ?_⟩ <;> rw [same]
  · refine .inr ⟨fun other => ?_, rfl⟩
    rw [outcome]
    exact Outcome.noConfusion

/-- A call that has nothing to do with the priority of the execution. -/
theorem Tended.bystander (tended : Tended executionId jobs state.shared locals)
    (obeyed : (updating executionId).Obeyed locals
      (fun _ _ there => there = .apart) state)
    (agrees : StepAgrees executionId state caller choice)
    (apart : locals caller = .apart)
    (awaited : state.awaited caller = some command)
    (performed : state.shared.perform caller command choice =
      some (reply, next)) :
    Tended executionId jobs next locals := by
  have awaits := obeyed.awaits awaited
  rw [apart] at awaits
  have goesOn : ∀ {place priority : QueuePriority},
      Reaches executionId state caller place priority → place = priority ∨
        ∃ other, locals other = .moves priority := by
    intro place priority reaches
    have on := reaches.goesOn .apart obeyed
    rwa [← apart, Function.update_eq_self] at on
  rcases took_effect performed with
    ⟨error, -, -, executions, queue⟩ | ⟨takes, rfl⟩
  · apply tended.kept
    · rw [queue]
      exact fun _ => id
    · rw [executions]
      exact fun doc found => ⟨doc, found, rfl⟩
  rcases (World.effect_queue command).2 with
    queue | ⟨queueCommand, rfl, -⟩
  · refine ⟨?_, ?_, tended.updates⟩
    · rw [queue]
      exact tended.once
    · intro place doc inside found
      rw [queue] at inside
      rcases effect_priority found with
        ⟨before, was, same⟩ | ⟨before, rfl, -⟩ | ⟨rfl, its⟩
      · rw [← same]
        exact tended.tended place before inside was
      · exact absurd rfl awaits
      · exact goesOn (agrees.creates doc awaited its place inside)
  · have unmoved : ∀ newPriority,
        queueCommand ≠ .updatePriority executionId newPriority := by
      rintro newPriority rfl
      exact awaits rfl
    by_cases requested : ∃ event score,
        queueCommand = .enqueue event score ∧
          event.executionId = executionId
    · obtain ⟨event, score, rfl, its⟩ := requested
      obtain ⟨alone, reaches⟩ := agrees.enqueues event score awaited its takes
      have there : ∀ place, executionId ∈ (state.shared.queue.perform
          state.shared.clock (.enqueue event score)).2.pending place →
            place = event.priority := by
        intro place inside
        rcases perform_pending unmoved inside with
          before | ⟨other, _, same, -, own⟩
        · exact alone place before
        · cases same
          exact own
      refine ⟨?_, ?_, tended.updates⟩
      · intro first second firstInside secondInside
        exact (there first firstInside).trans (there second secondInside).symm
      · intro place doc inside found
        exact there place inside ▸ goesOn (reaches doc found)
    · apply tended.kept
      · intro place inside
        rcases perform_pending unmoved inside with
          before | ⟨event, score, same, its, -⟩
        · exact before
        · exact absurd ⟨event, score, same, its⟩ requested
      · exact fun doc found => ⟨doc, found, rfl⟩

/-- Only the updates of the priority take a course of their own. -/
theorem Tended.stillUpdates (tended : Tended executionId jobs world locals)
    (course : Course) (busy : locals caller ≠ .apart) (other : Caller)
    (goesOn : Function.update locals caller course other ≠ .apart) :
    ∃ newPriority, jobs other = .updatePriority executionId newPriority := by
  by_cases same : other = caller
  · subst same
    exact tended.updates other busy
  · rw [Function.update_of_ne same] at goesOn
    exact tended.updates other goesOn

/-- A call that stores the priority moves the execution there next. -/
theorem Tended.store (tended : Tended executionId jobs state.shared locals)
    (obeyed : (updating executionId).Obeyed locals
      (fun _ _ there => there = .apart) state)
    (agrees : StepAgrees executionId state caller choice)
    {priority : QueuePriority} (stores : locals caller = .stores priority)
    {reply : Except PyException (Option ExecutionDocument)}
    (awaited : state.awaited caller =
      some (.updatePriority executionId priority))
    (performed : state.shared.perform caller
      (.updatePriority executionId priority) choice = some (reply, next)) :
    Tended executionId jobs next (Function.update locals caller
      ((updating executionId).after (.stores priority)
        (.updatePriority executionId priority) reply)) := by
  have busy : locals caller ≠ .apart := by
    rw [stores]
    exact Course.noConfusion
  -- The caller has stored nothing yet, so nobody waited for its move
  have others : ∀ course other newPriority,
      locals other = .moves newPriority →
        Function.update locals caller course other = .moves newPriority := by
    intro course other newPriority moves
    rw [Function.update_of_ne, moves]
    rintro rfl
    cases stores.symm.trans moves
  rcases World.perform_cases performed with
    ⟨-, went⟩ | ⟨error, rfl, -, ⟨-, rfl⟩ | ⟨outcome, -, rfl⟩⟩
  · obtain ⟨rfl, rfl⟩ := Prod.mk.inj (effect_updatePriority.symm.trans went)
    refine ⟨tended.once, ?_, tended.stillUpdates _ busy⟩
    intro place doc inside found
    obtain ⟨answered, stored⟩ := updatePriority_stored found
    refine .inr ⟨caller, ?_⟩
    rw [Function.update_self, answered, stored]
    rfl
  · refine ⟨tended.once, ?_, tended.stillUpdates _ busy⟩
    intro place doc inside found
    refine (tended.tended place doc inside found).imp_right ?_
    rintro ⟨other, moves⟩
    exact ⟨other, others _ other _ moves⟩
  · refine ⟨tended.once, ?_, tended.stillUpdates _ busy⟩
    intro place doc inside found
    rw [(updatePriority_stored found).2]
    exact (agrees.stores priority error awaited outcome place inside).goesOn
      _ obeyed

/-- A call that moves the execution leaves it at the stored priority, or to
another call that moves it there. -/
theorem Tended.move (tended : Tended executionId jobs state.shared locals)
    (obeyed : (updating executionId).Obeyed locals
      (fun _ _ there => there = .apart) state)
    (agrees : StepAgrees executionId state caller choice)
    {priority : QueuePriority} (moves : locals caller = .moves priority)
    {reply : Except PyException Bool}
    (awaited : state.awaited caller =
      some (.queue (.updatePriority executionId priority)))
    (performed : state.shared.perform caller
      (.queue (.updatePriority executionId priority)) choice =
        some (reply, next)) :
    Tended executionId jobs next (Function.update locals caller .apart) := by
  have busy : locals caller ≠ .apart := by
    rw [moves]
    exact Course.noConfusion
  rcases took_effect performed with
    ⟨error, outcome, -, executions, queue⟩ | ⟨takes, rfl⟩
  · refine ⟨?_, ?_, tended.stillUpdates _ busy⟩
    · rw [queue]
      exact tended.once
    · intro place doc inside found
      rw [queue] at inside
      rw [executions] at found
      exact (agrees.stays priority error awaited outcome place inside doc
        found).goesOn _ obeyed
  · have moved : ∀ place, executionId ∈ (state.shared.queue.updatePriority
        executionId priority).2.pending place →
          place = priority ∧
            ∃ before, executionId ∈ state.shared.queue.pending before :=
      fun place => updatePriority_pending tended.once
    refine ⟨?_, ?_, tended.stillUpdates _ busy⟩
    · intro first second firstInside secondInside
      exact (moved first firstInside).1.trans
        (moved second secondInside).1.symm
    · intro place doc inside found
      obtain ⟨rfl, waited⟩ := moved place inside
      exact (agrees.moves place awaited takes waited doc found).goesOn _ obeyed

/-- What the environment does leaves the execution where it is, and its
priority when it is no update of it. -/
theorem Tended.happen (tended : Tended executionId jobs world locals)
    {event : WorldEvent}
    (unchanged : ∀ priority, event ≠ .updatePriority executionId priority)
    (happened : world.happen event = some next) :
    Tended executionId jobs next locals := by
  cases event with
  | tick duration =>
      cases happened
      exact tended.kept (fun _ => id) fun doc found => ⟨doc, found, rfl⟩
  | updateExecutionError other errorMessage =>
      cases happened
      exact tended.kept (fun _ => id) fun doc found =>
        updateOne_priority (Executions.setResult _ world.clock)
          (fun _ => rfl) found
  | advanceStatus other status =>
      cases happened
      refine tended.kept (fun _ => id) fun doc found => ?_
      simp only [World.applyCall, RepositoryCall.perform] at found
      split at found
      · exact ⟨doc, found, rfl⟩
      · next advanced => exact advanceStatus_priority advanced found
  | updatePriority other priority =>
      cases happened
      refine tended.kept (fun _ => id) fun doc found => ⟨doc, ?_, rfl⟩
      have different : executionId ≠ other := by
        rintro rfl
        exact unchanged priority rfl
      have kept := Executions.updatePriority_get world.executions other
        priority world.clock executionId
      rw [if_neg different] at kept
      exact kept.symm.trans found
  | deleteExecution other =>
      cases happened
      exact tended.kept (fun _ => id) fun doc found =>
        ⟨doc, Executions.deleteExecution_stored found, rfl⟩

end Steps

private theorem tended_law :
    (updating executionId).Law backend (KeepsAgreement executionId)
      (fun _ _ there => there = .apart) (Tended executionId jobs) where
  performs := by
    intro state locals caller command choice reply next obeyed tended agrees
      awaited performed
    refine ⟨trivial, ?_⟩
    have awaits := obeyed.awaits awaited
    cases course : locals caller with
    | apart =>
        have same : Function.update locals caller .apart = locals := by
          rw [← course, Function.update_eq_self]
        exact same.symm ▸
          tended.bystander obeyed agrees course awaited performed
    | stores priority =>
        rw [course] at awaits
        cases awaits
        exact tended.store obeyed agrees course awaited performed
    | moves priority =>
        rw [course] at awaits
        cases awaits
        exact tended.move obeyed agrees course awaited performed
  environment := by
    intro state locals event next _ tended unchanged happened
    exact tended.happen unchanged happened
  kills := by
    intro state locals caller next obeyed tended agrees lives killed
    cases killed
    refine ⟨.apart, rfl, tended.once, ?_, ?_⟩
    · intro place doc inside found
      by_cases moves : ∃ priority, locals caller = .moves priority
      · obtain ⟨priority, moves⟩ := moves
        exact (agrees priority (awaits_of_moves obeyed lives moves) place
          inside doc found).goesOn _ obeyed
      · refine (tended.tended place doc inside found).imp_right ?_
        rintro ⟨other, its⟩
        refine ⟨other, ?_⟩
        rw [Function.update_of_ne, its]
        rintro rfl
        exact moves ⟨_, its⟩
    · intro other goesOn
      by_cases same : other = caller
      · subst same
        rw [Function.update_self] at goesOn
        exact absurd rfl goesOn
      · rw [Function.update_of_ne same] at goesOn
        exact tended.updates other goesOn

end Laws

/-! ### The law over runs -/

section Runs

variable {executionId : ExecutionId} {jobs : Caller → Job}
  {deployment : Deployment} {world : World}

/-- An execution that is still pending is in exactly one pending set, the one
of its stored priority. -/
def Agrees (executionId : ExecutionId) (world : World) : Prop :=
  world.queue.isPending executionId = true →
    ∃ place, (∀ other, executionId ∈ world.queue.pending other ↔
        other = place) ∧
      ∀ doc, world.executions executionId = some doc → doc.priority = place

/-- Every update of the priority that has begun has ended. -/
def UpdatesEnded (executionId : ExecutionId) (jobs : Caller → Job)
    (moves : List (Move Caller Choice WorldEvent)) (final : Backend) : Prop :=
  ∀ move ∈ moves, ∀ caller newPriority, System.Move.about? move = some caller →
    jobs caller = .updatePriority executionId newPriority →
      ¬ final.atWork caller

private theorem isPending_iff {queue : QueueStore} :
    queue.isPending executionId = true ↔
      ∃ place, executionId ∈ queue.pending place := by
  simp [QueueStore.isPending, mem_priorityOrder]

theorem obeyed_start :
    (updating executionId).Obeyed
      (fun caller => Course.first executionId (jobs caller))
      (fun _ _ there => there = .apart) (start deployment world jobs) where
  follows := by
    rintro caller coroutine ⟨⟩
    exact follows_run (jobs caller)
  gone := by
    rintro caller ⟨⟩

/-- No call begins with the move. -/
theorem first_ne_moves (job : Job) (priority : QueuePriority) :
    Course.first executionId job ≠ .moves priority := by
  cases job with
  | updatePriority other newPriority =>
      simp only [Course.first]
      split <;> exact Course.noConfusion
  | _ => exact Course.noConfusion

private theorem update_of_first {job : Job}
    (busy : Course.first executionId job ≠ .apart) :
    ∃ newPriority, job = .updatePriority executionId newPriority := by
  cases job with
  | updatePriority other newPriority =>
      simp only [Course.first] at busy
      split at busy
      · next same => exact ⟨newPriority, same ▸ rfl⟩
      · exact absurd rfl busy
  | _ => exact absurd rfl busy

private theorem tended_start (agrees : Agrees executionId world) :
    Tended executionId jobs world
      (fun caller => Course.first executionId (jobs caller)) where
  once first second firstInside secondInside := by
    obtain ⟨place, only, -⟩ := agrees (isPending_iff.mpr ⟨first, firstInside⟩)
    exact ((only first).mp firstInside).trans
      ((only second).mp secondInside).symm
  tended place doc inside found := by
    obtain ⟨own, only, stored⟩ := agrees (isPending_iff.mpr ⟨place, inside⟩)
    exact .inl (((only place).mp inside).trans (stored doc found).symm)
  updates caller busy := update_of_first busy

/-- A tended execution that no call is about to move is where it should be. -/
theorem Tended.agrees {locals : Caller → Course}
    (tended : Tended executionId jobs world locals)
    (unmoved : ∀ caller priority, locals caller ≠ .moves priority) :
    Agrees executionId world := by
  intro pending
  obtain ⟨place, inside⟩ := isPending_iff.mp pending
  refine ⟨place, fun other => ⟨fun also => ?_, fun same => same ▸ inside⟩, ?_⟩
  · exact tended.once other place also inside
  · intro doc found
    rcases tended.tended place doc inside found with same | ⟨caller, moves⟩
    · exact same.symm
    · exact absurd moves (unmoved caller _)

/-- When no step enqueues the execution at another priority than the stored
one, and no move overtakes a later update, then whenever its updates have ended
an execution that is still pending is in exactly one pending set, the one of
its stored priority. -/
theorem stored_priority_is_effective (agrees : Agrees executionId world)
    {moves : List (Move Caller Choice WorldEvent)} {final : Backend}
    (along : backend.machine.Along (KeepsAgreement executionId)
      (start deployment world jobs) moves)
    (reached : backend.machine.run (start deployment world jobs) moves =
      some final)
    (ended : UpdatesEnded executionId jobs moves final) :
    Agrees executionId final.shared := by
  obtain ⟨locals, tended, obeyed, untouched⟩ :=
    tended_law.run obeyed_start (tended_start agrees) along reached
  apply tended.agrees
  intro caller priority moving
  obtain ⟨newPriority, updates⟩ := tended.updates caller (by
    rw [moving]
    exact Course.noConfusion)
  by_cases began : ∃ move ∈ moves, System.Move.about? move = some caller
  · obtain ⟨move, member, about⟩ := began
    -- An update that is dead or has ended is apart from the priority
    have apart : locals caller = .apart := by
      cases runs : final.running caller with
      | none => exact obeyed.gone caller runs
      | some coroutine =>
          cases result : coroutine.result? with
          | none =>
              exact absurd ⟨coroutine, runs, result⟩
                (ended move member caller newPriority about updates)
          | some value =>
              cases Coroutine.result_eq_some result
              exact obeyed.ended runs
    cases apart.symm.trans moving
  · have first := untouched caller fun move member about =>
      began ⟨move, member, about⟩
    exact first_ne_moves (jobs caller) priority (first ▸ moving)

/-- The execution is stored, and another one has the only running slot. -/
def busyWorld : World where
  executions executionId :=
    if executionId = "x" then some (printRecord .queued) else none
  queue :=
    { running := (∅ : SortedSet ExecutionId).add "y" (seconds 3900) }

/-- One job handles the request, and the others raise the priority. -/
def requestAndUpdate : Caller → Job
  | 0 => .executionRequested printRequest
  | _ => .updatePriority "x" .high

/-- The request is enqueued, and a pass finds no room. -/
def handling : List (Move Caller Choice WorldEvent) :=
  List.replicate 9
    (.caller 0 { settings := { maxConcurrentExecutions := 1 } })

/-- The priority is stored, and the execution is moved if it is in the
queue. -/
def raising : List (Move Caller Choice WorldEvent) :=
  List.replicate 2 (.caller 1 {})

private theorem agrees_busyWorld : Agrees "x" busyWorld := by
  intro pending
  cases pending

/-- Whether the stored priority is this one. -/
def isStored (state : Backend) (priority : QueuePriority) : Bool :=
  (state.shared.executions "x").all fun doc => doc.priority == priority

/-- Whether a step goes through and takes the execution to its stored
priority. -/
def keepsPriority (state : Backend) : Move Caller Choice WorldEvent → Bool
  | .caller caller choice =>
      choice.outcome == .succeeds &&
        match state.running caller with
        | some (.await (.queue (.updatePriority _ priority)) _) =>
            isStored state priority
        | some (.await (.queue (.enqueue event _)) _) =>
            isStored state event.priority &&
              !state.shared.queue.isPending "x"
        | some (.await (.createExecution _) _) => false
        | _ => true
  | _ => false

private theorem reaches_of_isStored {state : Backend} {priority : QueuePriority}
    (checked : isStored state priority = true) (caller : Caller) :
    ReachesStored "x" state caller priority := by
  intro doc found
  simp only [isStored, found, Option.all_some, beq_iff_eq] at checked
  exact .inl checked.symm

private theorem keepsAgreement_of_check (state : Backend)
    (move : Move Caller Choice WorldEvent)
    (checked : keepsPriority state move = true) :
    KeepsAgreement "x" state move := by
  cases move with
  | environment | kill => cases checked
  | caller caller choice =>
      simp only [keepsPriority, Bool.and_eq_true, beq_iff_eq] at checked
      obtain ⟨succeeds, checked⟩ := checked
      have fails : ∀ error, choice.outcome ≠ .fails error := by
        rw [succeeds]
        exact fun _ => Outcome.noConfusion
      have loses : ∀ error, choice.outcome ≠ .unacknowledged error := by
        rw [succeeds]
        exact fun _ => Outcome.noConfusion
      constructor
      · exact fun _ error _ outcome => absurd outcome (loses error)
      · intro newPriority awaited _ _
        obtain ⟨resume, runs⟩ := Callers.running_of_awaited awaited
        rw [runs] at checked
        exact reaches_of_isStored checked caller
      · exact fun _ error _ outcome => absurd outcome (fails error)
      · intro event score awaited its _
        obtain ⟨resume, runs⟩ := Callers.running_of_awaited awaited
        simp only [runs, Bool.and_eq_true, Bool.not_eq_true'] at checked
        refine ⟨fun place inside => ?_, reaches_of_isStored checked.1 caller⟩
        have pending := isPending_iff.mpr ⟨place, inside⟩
        cases pending.symm.trans checked.2
      · intro doc awaited
        obtain ⟨resume, runs⟩ := Callers.running_of_awaited awaited
        simp [runs] at checked

/-- Only the second call updates the priority in these runs. -/
theorem updatesEnded_of_returned {final : Backend}
    {moves : List (Move Caller Choice WorldEvent)}
    (among : ∀ move ∈ moves, move ∈ handling ∨ move ∈ raising)
    (returned : ((final.running 1).bind Coroutine.result?).isSome = true) :
    UpdatesEnded "x" requestAndUpdate moves final := by
  rintro move member caller newPriority about updates
    ⟨coroutine, runs, unfinished⟩
  rcases among move member with handles | raises
  · cases List.eq_of_mem_replicate handles
    cases about
    cases updates
  · cases List.eq_of_mem_replicate raises
    cases about
    simp [runs, unfinished] at returned

/-- The priority changes after the execution was enqueued. -/
theorem stored_priority_is_effective_raised : ∃ final,
    backend.machine.run (start {} busyWorld requestAndUpdate)
      (handling ++ raising) = some final ∧
    final.shared.queue.isPending "x" = true ∧ Agrees "x" final.shared := by
  have ends : (backend.machine.run (start {} busyWorld requestAndUpdate)
      (handling ++ raising)).map (fun final =>
        (final.shared.queue.isPending "x",
          ((final.running 1).bind Coroutine.result?).isSome)) =
      some (true, true) := by
    decide +kernel
  obtain ⟨final, reached, same⟩ := Option.map_eq_some_iff.mp ends
  simp only [Prod.mk.injEq] at same
  obtain ⟨pending, returned⟩ := same
  exact ⟨final, reached, pending, stored_priority_is_effective
    agrees_busyWorld (backend.machine.along_of_check keepsAgreement_of_check
      (by decide +kernel)) reached
    (updatesEnded_of_returned (fun _ => List.mem_append.mp) returned)⟩

/-- The priority changes before the execution was enqueued: the move finds
nothing, and the request brings the priority of its own. -/
theorem updated_before_enqueued : ∃ final,
    Agrees "x" busyWorld ∧
    backend.machine.run (start {} busyWorld requestAndUpdate)
      (raising ++ handling) = some final ∧
    ¬ final.atWork 0 ∧
    UpdatesEnded "x" requestAndUpdate (raising ++ handling) final ∧
    final.shared.queue.isPending "x" = true ∧
    (final.shared.executions "x").map ExecutionDocument.priority =
      some .high ∧
    "x" ∉ final.shared.queue.pending .high ∧
    ¬ Agrees "x" final.shared := by
  have ends : (backend.machine.run (start {} busyWorld requestAndUpdate)
      (raising ++ handling)).map (fun final =>
        (final.shared.queue.isPending "x",
          ((final.running 0).bind Coroutine.result?).isSome,
          ((final.running 1).bind Coroutine.result?).isSome,
          (final.shared.executions "x").map ExecutionDocument.priority,
          decide ("x" ∈ final.shared.queue.pending .high))) =
      some (true, true, true, some .high, false) := by
    decide +kernel
  obtain ⟨final, reached, same⟩ := Option.map_eq_some_iff.mp ends
  simp only [Prod.mk.injEq, decide_eq_false_iff_not] at same
  obtain ⟨pending, handled, returned, stored, elsewhere⟩ := same
  refine ⟨final, agrees_busyWorld, reached, ?_, updatesEnded_of_returned
    (fun _ member => (List.mem_append.mp member).symm) returned, pending,
    stored, elsewhere, fun agrees => ?_⟩
  · rintro ⟨coroutine, runs, unfinished⟩
    simp [runs, unfinished] at handled
  · obtain ⟨place, only, agreed⟩ := agrees pending
    obtain ⟨doc, found, high⟩ := Option.map_eq_some_iff.mp stored
    have same : doc.priority = place := agreed doc found
    exact elsewhere ((only .high).mpr (high.symm.trans same))

end Runs

end PriorityAgreement

end Integr8s
