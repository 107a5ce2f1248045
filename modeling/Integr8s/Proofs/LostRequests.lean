/-
Module: Integr8s.Proofs.LostRequests
Purpose: When a scheduled execution is taken to be one whose request expired:
  its request is deleted between the pop and the load too, so a missing request
  means expiry when no removal or release comes in between.
Trusted boundary: none
Main exports: LostRequests.lost_only_when_expired,
  LostRequests.cancelled_while_scheduled
-/
import Integr8s.Proofs.AwaitedCommands

namespace Integr8s

namespace LostRequests

open Job (start)

/-- Where a job stands with an execution: it is to enqueue its request, it has
taken it out of the pending sets and loads its request next, or neither. -/
inductive Duty where
  | requests
  | loads
  | rests
deriving DecidableEq

/-- The duties of the jobs with an execution. -/
def duties (executionId : ExecutionId) :
    Typestate Duty Command Reply PyException where
  awaits
    | .requests, .queue (.enqueue event _) => event.executionId = executionId
    | .requests, .queue (.trySchedule ..) => False
    | .loads, .queue (.event loaded) => loaded = executionId
    | .loads, _ => False
    | .rests, .queue (.enqueue event _) => event.executionId ≠ executionId
    | here, .queue (.event loaded) =>
        here = .rests ∧ loaded ≠ executionId
    | _, _ => True
  after
    | .requests, .queue (.enqueue ..), _ => .rests
    | .rests, .queue (.trySchedule ..), .ok (some (handed, _, _)) =>
        if handed = executionId then .loads else .rests
    | .loads, _, _ => .rests
    | here, _, _ => here
  loops here := here = .rests
  gone here := here = .rests

/-- The duty with which a job begins. -/
def Duty.first (executionId : ExecutionId) : Job → Duty
  | .executionRequested event =>
      if event.executionId = executionId then .requests else .rests
  | _ => .rests

/-- No job ends between a pop and its load. -/
def Ended (_ : Except PyException Unit) (there : Duty) : Prop :=
  there ≠ .loads

/-! ### What the jobs await -/

section Calls

variable {executionId : ExecutionId} {deployment : Deployment}

/-- The commands that are nothing to the duties. -/
def isPlain : Command → Bool
  | .queue (.enqueue ..) | .queue (.trySchedule ..) | .queue (.event _) =>
      false
  | _ => true

theorem settled {command : Command} {there : Duty}
    (plain : isPlain command = true) (rests : there = .rests) :
    (duties executionId).awaits there command ∧
      ∀ reply, (duties executionId).answers there command reply →
        (duties executionId).after there command reply = .rests := by
  subst rests
  cases command with
  | queue command =>
      cases command with
      | enqueue | trySchedule | event => cases plain
      | _ => exact ⟨trivial, fun _ _ => rfl⟩
  | _ => exact ⟨trivial, fun _ _ => rfl⟩

theorem plain_of_passive (command : Command)
    (passive : command.isPassive = true) : isPlain command = true := by
  cases command with
  | queue command => cases command <;> first | rfl | cases passive
  | _ => rfl

theorem plain_of_start (command : Command)
    (starts : command.isStart = true) : isPlain command = true := by
  cases command with
  | queue command => cases starts
  | _ => rfl

theorem plain_of_release (command : QueueCommand)
    (releases : command.isRelease = true) :
    isPlain (.queue command) = true := by
  cases command <;> first | rfl | cases releases

/-- What awaits plain commands only stays at rest. -/
theorem follows_plain {α : Type} {coroutine : Program α}
    (asks : coroutine.Asks fun command => isPlain command = true) :
    (duties executionId).Follows coroutine (fun _ there => there = .rests)
      .rests :=
  Typestate.follows_asks (fun _ _ plain rests => settled plain rests)
    (fun _ rests => rests) asks rfl

/-- A hand-out of the queue loads what it popped. -/
theorem follows_trySchedule (maxActive : Nat) :
    (duties executionId).Follows
      (ExecutionQueueService.trySchedule maxActive)
      (fun _ there => there = .rests) .rests := by
  apply Typestate.follows_bind_keeping
  · exact follows_plain (asks_request rfl)
  rintro now there rfl
  rw [Typestate.follows_bind]
  apply Typestate.follows_call trivial
  intro handed _
  match handed with
  | .error error => rfl
  | .ok none => rfl
  | .ok (some (handed, score, index)) =>
      dsimp only
      rw [Typestate.follows_bind]
      have loads : (duties executionId).after .rests
          (.queue (.trySchedule maxActive now
            (now + seconds provisionalSlotSeconds)))
          (.ok (some (handed, score, index))) =
            if handed = executionId then .loads else .rests := rfl
      rw [loads]
      apply Typestate.follows_call
      · by_cases same : handed = executionId
        · rw [if_pos same]
          exact same
        · rw [if_neg same]
          exact ⟨rfl, same⟩
      intro found _
      have rests : (duties executionId).after
          (if handed = executionId then .loads else .rests)
          (.queue (.event handed)) found = .rests := by
        split <;> rfl
      rw [rests]
      match found with
      | .error error => rfl
      | .ok none =>
          apply follows_plain
          apply Coroutine.Asks.bind
          · exact asks_request rfl
          intro _
          apply Coroutine.Asks.bind (asks_releaseUserSlot plain_of_release)
          intro _
          trivial
      | .ok (some event) =>
          apply follows_plain
          apply Coroutine.Asks.bind
          · exact asks_request rfl
          intro scheduledAt
          apply Coroutine.Asks.bind
          · exact asks_request rfl
          intro _
          trivial

theorem follows_schedulePending {there : Duty} (rests : there = .rests) :
    (duties executionId).Follows
      (ExecutionScheduler.schedulePending deployment)
      (fun _ there => there = .rests) there := by
  apply Integr8s.follows_schedulePending
    (fun _ _ plain rests => settled plain rests) (fun _ rests => rests) _
    plain_of_passive plain_of_start plain_of_release (fun _ => rfl) _ rests
  rintro maxActive there rfl
  exact follows_trySchedule maxActive

/-- The request of the execution is enqueued once. -/
theorem follows_handleExecutionRequested (event : ExecutionRequestedEvent) :
    (duties executionId).Follows
      (ExecutionScheduler.handleExecutionRequested deployment event) Ended
      (Duty.first executionId (.executionRequested event)) := by
  have begins : ∀ now reply, (duties executionId).awaits
      (Duty.first executionId (.executionRequested event))
        (.queue (.enqueue event now)) ∧
      (duties executionId).after
        (Duty.first executionId (.executionRequested event))
        (.queue (.enqueue event now)) reply = .rests := by
    intro now reply
    by_cases same : event.executionId = executionId
    · simp only [Duty.first, if_pos same]
      exact ⟨same, rfl⟩
    · simp only [Duty.first, if_neg same]
      exact ⟨same, rfl⟩
  have ticks : (duties executionId).awaits
      (Duty.first executionId (.executionRequested event)) .now ∧
      ∀ reply, (duties executionId).after
        (Duty.first executionId (.executionRequested event)) .now reply =
          Duty.first executionId (.executionRequested event) := by
    simp only [Duty.first]
    split <;> exact ⟨trivial, fun _ => rfl⟩
  have unloaded :
      Duty.first executionId (.executionRequested event) ≠ .loads := by
    simp only [Duty.first]
    split <;> exact Duty.noConfusion
  unfold ExecutionScheduler.handleExecutionRequested
    ExecutionQueueService.enqueue
  rw [Typestate.follows_bind, Typestate.follows_bind]
  apply Typestate.follows_call ticks.1
  intro now _
  rw [ticks.2]
  cases now with
  | error error => exact unloaded
  | ok now =>
      dsimp only
      rw [Typestate.follows_bind]
      apply Typestate.follows_call (begins now (.ok ())).1
      intro enqueued _
      rw [(begins now enqueued).2]
      cases enqueued with
      | error error => exact Duty.noConfusion
      | ok _ =>
          dsimp only
          have ranked : ((do
              let rank ← request
                (.queue (.rank event.priority event.executionId))
              pure (rank.getD 0)) : Program Nat).Asks
                fun command => isPlain command = true :=
            Coroutine.Asks.bind (asks_request rfl) fun _ => trivial
          apply Typestate.follows_mono _ (follows_plain ranked)
          rintro result there rfl
          cases result with
          | error error => exact Duty.noConfusion
          | ok _ =>
              apply Typestate.follows_mono _ (follows_schedulePending rfl)
              rintro result there rfl
              exact Duty.noConfusion

/-- Every job keeps to its duty. -/
theorem follows_run (job : Job) :
    (duties executionId).Follows (job.run deployment) Ended
      (Duty.first executionId job) := by
  have ended : ∀ {coroutine : Program Unit},
      (duties executionId).Follows coroutine (fun _ there => there = .rests)
        .rests →
        (duties executionId).Follows coroutine Ended .rests := by
    intro coroutine follows
    apply Typestate.follows_mono _ follows
    rintro result there rfl
    exact Duty.noConfusion
  have settled : ∀ (command : Command) (there : Duty),
      isPlain command = true → there = .rests →
        (duties executionId).awaits there command ∧
          ∀ reply, (duties executionId).answers there command reply →
            (duties executionId).after there command reply = .rests :=
    fun _ _ plain rests => settled plain rests
  have schedules : ∀ (maxActive : Nat) (there : Duty), there = .rests →
      (duties executionId).Follows
        (ExecutionQueueService.trySchedule maxActive)
        (fun _ there => there = .rests) there := by
    rintro maxActive there rfl
    exact follows_trySchedule maxActive
  cases job with
  | executeScript submission =>
      apply ended
      apply follows_plain
      apply Coroutine.Asks.bind
      · exact asks_executeScript plain_of_passive plain_of_release
          (fun _ => rfl) (fun _ _ _ _ => rfl) (fun _ => rfl) (fun _ => rfl)
          deployment submission
      intro _
      trivial
  | updatePriority other newPriority =>
      apply ended
      apply follows_plain
      apply Coroutine.Asks.bind
      · apply Coroutine.Asks.bind
        · exact asks_request rfl
        intro updated
        cases updated with
        | none => trivial
        | some updated =>
            apply Coroutine.Asks.bind
            · exact asks_request rfl
            intro _
            trivial
      intro _
      trivial
  | executionRequested event => exact follows_handleExecutionRequested event
  | executionCancelled event =>
      apply ended
      exact follows_handleExecutionCancelled settled (fun _ rests => rests)
        schedules plain_of_passive plain_of_start plain_of_release
        (fun _ => rfl) (fun _ => rfl) deployment event rfl rfl
  | watchPodEvents reports =>
      apply ended
      exact follows_watchPodEvents settled (fun _ rests => rests) schedules
        plain_of_passive plain_of_start plain_of_release (fun _ => rfl)
        (fun _ _ => rfl) (fun _ => rfl) deployment ∅ reports (fun _ => rfl)
        rfl
  | schedulePending =>
      apply ended
      exact follows_schedulePending rfl

end Calls

/-! ### What a step does to a duty -/

section Steps

variable {executionId : ExecutionId} {world next : World} {here : Duty}
  {command : Command} {reply : Except PyException (Reply command)}
  {caller : Caller} {choice : Choice}

/-- What a step of a job does to the place of the execution and to the duty of
the job. -/
inductive Step (executionId : ExecutionId) (world : World) (here : Duty)
    (command : Command) (after : Duty) (next : World) : Prop where
  | keeps (same : QueueStore.SamePlace executionId world.queue next.queue)
      (rests : after = here ∨ after = .rests) (unloaded : after ≠ .loads)
  | enqueues (event : ExecutionRequestedEvent) (score : Nat)
      (its : event.executionId = executionId) (requests : here = .requests)
      (rests : after = .rests)
      (enqueued :
        next.queue = world.queue.enqueue world.clock event score)
  | handsOut
      (leaves : QueueStore.LeavesPlace executionId world.queue next.queue)
      (idle : here = .rests) (turns : after = .loads ∨ after = .rests)
  | moves (moved : QueueStore.MovesPlace executionId world.queue next.queue)
      (same : after = here) (unloaded : here ≠ .loads)
  | removes (command : command = .queue (.remove executionId))
      (same : after = here) (unloaded : here ≠ .loads)
      (removed :
        next.queue = (world.queue.remove world.clock executionId).2)
  | releases (command : command = .queue (.release executionId))
      (same : after = here) (unloaded : here ≠ .loads)
      (released : next.queue = world.queue.release world.clock executionId)

/-- A failed command gives nobody anything to load. -/
theorem after_error (error : PyException) :
    ((duties executionId).after here command (.error error) = here ∨
      (duties executionId).after here command (.error error) = .rests) ∧
    (duties executionId).after here command (.error error) ≠ .loads := by
  cases here with
  | loads => exact ⟨.inr rfl, Duty.noConfusion⟩
  | rests =>
      cases command with
      | queue command =>
          cases command <;> exact ⟨.inl rfl, Duty.noConfusion⟩
      | _ => exact ⟨.inl rfl, Duty.noConfusion⟩
  | requests =>
      cases command with
      | queue command =>
          cases command with
          | enqueue event score => exact ⟨.inr rfl, Duty.noConfusion⟩
          | _ => exact ⟨.inl rfl, Duty.noConfusion⟩
      | _ => exact ⟨.inl rfl, Duty.noConfusion⟩

/-- After a hand-out of the queue a job loads what it popped, or rests. -/
theorem after_trySchedule {maxActive now deadline : Nat}
    (answer : Except PyException (Option (ExecutionId × Nat × Nat))) :
    (duties executionId).after .rests
        (.queue (.trySchedule maxActive now deadline)) answer = .loads ∨
      (duties executionId).after .rests
        (.queue (.trySchedule maxActive now deadline)) answer = .rests := by
  rcases answer with error | handed
  · exact .inr rfl
  rcases handed with none | handed
  · exact .inr rfl
  by_cases same : handed.1 = executionId
  · exact .inl (if_pos same)
  · exact .inr (if_neg same)

/-- A command that does not hand out the execution gives nobody anything to
load. -/
theorem after_plain {queueCommand : QueueCommand}
    {answer : Except PyException (QueueReply queueCommand)}
    {went : QueueReply queueCommand}
    (awaits : (duties executionId).awaits here (.queue queueCommand))
    (answered : (∃ error, answer = .error error) ∨ answer = .ok went)
    (notHanded : ¬ QueueStore.HandsOut executionId queueCommand went) :
    ((duties executionId).after here (.queue queueCommand) answer = here ∨
      (duties executionId).after here (.queue queueCommand) answer =
        .rests) ∧
    (duties executionId).after here (.queue queueCommand) answer ≠
      .loads := by
  rcases answered with ⟨error, rfl⟩ | rfl
  · exact after_error error
  cases here with
  | loads => exact ⟨.inr rfl, Duty.noConfusion⟩
  | requests =>
      cases queueCommand with
      | enqueue event score => exact ⟨.inr rfl, Duty.noConfusion⟩
      | trySchedule => cases awaits
      | _ => exact ⟨.inl rfl, Duty.noConfusion⟩
  | rests =>
      cases queueCommand with
      | trySchedule maxActive now deadline =>
          rcases went with none | handed
          · exact ⟨.inl rfl, Duty.noConfusion⟩
          · have different : ¬ handed.1 = executionId := notHanded
            have rests : (duties executionId).after .rests
                (.queue (.trySchedule maxActive now deadline))
                (.ok (some handed)) = .rests := if_neg different
            rw [rests]
            exact ⟨.inl rfl, Duty.noConfusion⟩
      | _ => exact ⟨.inl rfl, Duty.noConfusion⟩

/-- A command of the queue that takes effect. -/
theorem step_of_effect {queueCommand : QueueCommand}
    {answer : Except PyException (QueueReply queueCommand)}
    (awaits : (duties executionId).awaits here (.queue queueCommand))
    (effect : next.queue =
      (world.queue.perform world.clock queueCommand).2)
    (answered : (∃ error, answer = .error error) ∨
      answer = .ok (world.queue.perform world.clock queueCommand).1) :
    Step executionId world here (.queue queueCommand)
      ((duties executionId).after here (.queue queueCommand) answer) next := by
  rcases world.queue.perform_place world.clock queueCommand executionId with
    ⟨same, notHanded⟩ | ⟨event, score, rfl, its⟩ | ⟨handed, leaves⟩ |
      ⟨newPriority, rfl, moved⟩ | rfl | rfl
  · rw [← effect] at same
    have turns := after_plain awaits answered notHanded
    exact .keeps same turns.1 turns.2
  · cases here with
    | requests =>
        exact .enqueues event score its rfl rfl effect
    | loads => cases awaits
    | rests => exact absurd its awaits
  · rw [← effect] at leaves
    cases queueCommand with
    | trySchedule maxActive now deadline =>
        cases here with
        | requests | loads => cases awaits
        | rests => exact .handsOut leaves rfl (after_trySchedule answer)
    | _ => exact handed.elim
  · rw [← effect] at moved
    cases here with
    | loads => cases awaits
    | requests | rests => exact .moves moved rfl Duty.noConfusion
  · cases here with
    | loads => cases awaits
    | requests | rests => exact .removes rfl rfl Duty.noConfusion effect
  · cases here with
    | loads => cases awaits
    | requests | rests => exact .releases rfl rfl Duty.noConfusion effect

private theorem step_of_performed
    (awaits : (duties executionId).awaits here command)
    (performed : world.perform caller command choice = some (reply, next)) :
    Step executionId world here command
      ((duties executionId).after here command reply) next := by
  cases command with
  | queue queueCommand =>
      rcases World.perform_cases performed with
        ⟨-, went⟩ | ⟨error, rfl, -, ⟨-, rfl⟩ | ⟨-, -, rfl⟩⟩
      · cases went
        exact step_of_effect awaits rfl (.inr rfl)
      · exact .keeps ⟨fun _ => rfl, rfl⟩ (after_error error).1
          (after_error error).2
      · exact step_of_effect awaits rfl (.inl ⟨error, rfl⟩)
  | _ =>
      rcases (World.perform_queue performed).2 with
        kept | ⟨queueCommand, same, -⟩
      · have stays : QueueStore.SamePlace executionId world.queue
            next.queue := by
          rw [kept]
          exact ⟨fun _ => rfl, rfl⟩
        cases here with
        | loads => cases awaits
        | requests | rests =>
            exact .keeps stays (.inl rfl) Duty.noConfusion
      · cases same

end Steps

/-! ### The stored request is kept

While an enqueued execution is pending, or popped by a pass that has yet to
load it, its request is stored with the lifetime of its enqueue. -/

section Laws

variable {executionId : ExecutionId} {locals : Caller → Duty}
  {deployment : Deployment}

/-- The execution is in no pending set, and nobody loads its request. -/
def Absent (executionId : ExecutionId) (world : World)
    (locals : Caller → Duty) : Prop :=
  (∀ priority, executionId ∉ world.queue.pending priority) ∧
    ∀ caller, locals caller ≠ .loads

/-- At most one job is to enqueue the execution, and until it does the
execution is not in the queue. -/
structure Unqueued (executionId : ExecutionId) (world : World)
    (locals : Caller → Duty) : Prop where
  unique : ∀ first second, locals first = .requests →
    locals second = .requests → first = second
  absent : ∀ caller, locals caller = .requests →
    Absent executionId world locals

/-- From when the execution was enqueued its request is stored while it is in
a pending set or about to be loaded. -/
structure Kept (executionId : ExecutionId) (expiresAt : Nat) (world : World)
    (locals : Caller → Duty) : Prop where
  done : ∀ caller, locals caller ≠ .requests
  once : ∀ first second, executionId ∈ world.queue.pending first →
    executionId ∈ world.queue.pending second → first = second
  apart : ∀ priority, executionId ∈ world.queue.pending priority →
    ∀ caller, locals caller ≠ .loads
  sole : ∀ first second, locals first = .loads →
    locals second = .loads → first = second
  kept : (∃ priority, executionId ∈ world.queue.pending priority) ∨
    (∃ caller, locals caller = .loads) →
      ∃ event, world.queue.events executionId = some ⟨event, expiresAt⟩

/-- A step that enqueues the execution. -/
def Enqueues (executionId : ExecutionId) (state : Backend)
    (move : Move Caller Choice WorldEvent) : Prop :=
  ∃ caller choice event score, move = .caller caller choice ∧
    event.executionId = executionId ∧
      state.awaited caller = some (.queue (.enqueue event score))

/-- Nobody deletes the stored request of the execution between its pop and the
load, and no release does while it is pending. -/
def RequestKept (executionId : ExecutionId) (state : Backend)
    (move : Move Caller Choice WorldEvent) : Prop :=
  ∀ caller choice, move = .caller caller choice →
    (state.awaited caller = some (.queue (.remove executionId)) →
      ∀ loader, state.awaited loader ≠ some (.queue (.event executionId))) ∧
    (state.awaited caller = some (.queue (.release executionId)) →
      (∀ priority, executionId ∉ state.shared.queue.pending priority) ∧
        ∀ loader, state.awaited loader ≠ some (.queue (.event executionId)))

/-- Who loads the request awaits it. -/
theorem awaits_of_loads {state : Backend} {caller : Caller}
    (obeyed : (duties executionId).Obeyed locals (fun _ => Ended) state)
    (loads : locals caller = .loads) :
    state.awaited caller = some (.queue (.event executionId)) := by
  have lives : state.running caller ≠ none := by
    intro dead
    have rests : locals caller = .rests := obeyed.gone caller dead
    cases loads.symm.trans rests
  have unfinished : ∀ result, ¬ Ended result (locals caller) :=
    fun _ ended => ended loads
  have busy : ¬ (duties executionId).loops (locals caller) := by
    intro stands
    have rests : locals caller = .rests := stands
    cases loads.symm.trans rests
  obtain ⟨command, awaited, may⟩ :=
    obeyed.awaiting lives unfinished busy
  rw [loads] at may
  cases command with
  | queue command =>
      cases command with
      | event loaded =>
          have same : loaded = executionId := may
          rw [awaited, same]
      | _ => cases may
  | _ => cases may

private theorem duty_update {caller other : Caller} {after duty : Duty}
    (now : Function.update locals caller after other = duty) :
    other = caller ∧ after = duty ∨ other ≠ caller ∧ locals other = duty := by
  by_cases same : other = caller
  · subst same
    rw [Function.update_self] at now
    exact .inl ⟨rfl, now⟩
  · rw [Function.update_of_ne same] at now
    exact .inr ⟨same, now⟩

/-! ### Each step keeps the laws -/

section Transitions

variable {world next : World} {caller : Caller} {command : Command}
  {after : Duty}

/-- Nobody is to enqueue the execution who was not before. -/
theorem Step.requests
    (step : Step executionId world (locals caller) command after next)
    {other : Caller}
    (requests : Function.update locals caller after other = .requests) :
    locals other = .requests ∧ (other = caller → after = .requests) := by
  rcases duty_update requests with ⟨rfl, now⟩ | ⟨different, before⟩
  · refine ⟨?_, fun _ => now⟩
    cases step with
    | keeps _ turns _ =>
        rcases turns with same | rests
        · exact same ▸ now
        · cases rests.symm.trans now
    | enqueues _ _ _ _ rests _ => cases rests.symm.trans now
    | handsOut _ _ turns =>
        rcases turns with loads | rests
        · cases loads.symm.trans now
        · cases rests.symm.trans now
    | moves _ same _ => exact same ▸ now
    | removes _ same _ _ => exact same ▸ now
    | releases _ same _ _ => exact same ▸ now
  · exact ⟨before, fun same => absurd same different⟩

/-- The execution stays out of the queue until it is enqueued. -/
theorem Absent.step (absent : Absent executionId world locals)
    (step : Step executionId world (locals caller) command after next)
    (notYet : after ≠ .rests ∨ locals caller ≠ .requests) :
    Absent executionId next (Function.update locals caller after) := by
  obtain ⟨nowhere, nobody⟩ := absent
  have unloaded : after ≠ .loads →
      ∀ other, Function.update locals caller after other ≠ .loads := by
    intro different other loads
    rcases duty_update loads with ⟨-, same⟩ | ⟨-, same⟩
    · exact different same
    · exact nobody other same
  cases step with
  | keeps same rests different =>
      refine ⟨fun priority inside => ?_, unloaded different⟩
      rw [SortedSet.mem_iff_score, same.pending priority,
        ← SortedSet.mem_iff_score] at inside
      exact nowhere priority inside
  | enqueues event score its requests rests enqueued =>
      rcases notYet with different | different
      · exact absurd rests different
      · exact absurd requests different
  | handsOut leaves idle turns =>
      obtain ⟨priority, inside, -⟩ := leaves.was
      exact absurd inside (nowhere priority)
  | moves moved same different =>
      obtain ⟨priority, -, inside, -⟩ := moved.was
      exact absurd inside (nowhere priority)
  | removes _ same different removed =>
      refine ⟨fun priority inside => ?_, unloaded (same ▸ different)⟩
      rw [removed] at inside
      exact (SortedSet.mem_remove.mp inside).1 rfl
  | releases _ same different released =>
      refine ⟨fun priority inside => ?_, unloaded (same ▸ different)⟩
      rw [released] at inside
      exact nowhere priority inside

/-- So does the one that is to enqueue it. -/
theorem Unqueued.step (unqueued : Unqueued executionId world locals)
    (step : Step executionId world (locals caller) command after next) :
    Unqueued executionId next (Function.update locals caller after) where
  unique first second firstRequests secondRequests :=
    unqueued.unique first second (step.requests firstRequests).1
      (step.requests secondRequests).1
  absent other requests := by
    obtain ⟨before, mine⟩ := step.requests requests
    apply (unqueued.absent other before).step step
    by_cases same : other = caller
    · left
      rw [mine same]
      exact Duty.noConfusion
    · right
      exact fun also => same (unqueued.unique other caller before also)

/-- Once it is enqueued its request is kept. -/
theorem Unqueued.enqueue {event : ExecutionRequestedEvent} {score : Nat}
    (unqueued : Unqueued event.executionId world locals)
    (requests : locals caller = .requests)
    (enqueued : next.queue = world.queue.enqueue world.clock event score) :
    Kept event.executionId (world.clock + seconds eventTtl) next
      (Function.update locals caller .rests) := by
  obtain ⟨nowhere, nobody⟩ := unqueued.absent caller requests
  have itsOwn : ∀ priority, event.executionId ∈ next.queue.pending priority →
      priority = event.priority := by
    intro priority inside
    by_contra different
    rw [enqueued] at inside
    simp only [QueueStore.enqueue, Function.update_of_ne different] at inside
    exact nowhere priority inside
  have unloaded : ∀ other,
      Function.update locals caller .rests other ≠ .loads := by
    intro other loads
    rcases duty_update loads with ⟨-, same⟩ | ⟨-, same⟩
    · cases same
    · exact nobody other same
  refine ⟨fun other now => ?_, fun first second inFirst inSecond => ?_,
    fun _ _ => unloaded, fun first _ loads => absurd loads (unloaded first),
    fun _ => ⟨event, ?_⟩⟩
  · rcases duty_update now with ⟨-, same⟩ | ⟨different, before⟩
    · cases same
    · exact different (unqueued.unique other caller before requests)
  · exact (itsOwn first inFirst).trans (itsOwn second inSecond).symm
  · rw [enqueued]
    exact Function.update_self ..

/-- When nobody loads the request and the execution is in no pending set there
is nothing to keep. -/
theorem Kept.of_absent {expiresAt : Nat}
    (done : ∀ caller, locals caller ≠ .requests)
    (absent : Absent executionId world locals) :
    Kept executionId expiresAt world locals where
  done := done
  once first _ inFirst := absurd inFirst (absent.1 first)
  apart priority inside := absurd inside (absent.1 priority)
  sole first _ loads := absurd loads (absent.2 first)
  kept := by
    rintro (⟨priority, inside⟩ | ⟨loader, loads⟩)
    · exact absurd inside (absent.1 priority)
    · exact absurd loads (absent.2 loader)

/-- Then a step keeps it that deletes no request that is still to be
loaded. -/
theorem Kept.step {expiresAt : Nat}
    (kept : Kept executionId expiresAt world locals)
    (step : Step executionId world (locals caller) command after next)
    (removes : command = .queue (.remove executionId) →
      ∀ other, locals other ≠ .loads)
    (releases : command = .queue (.release executionId) →
      Absent executionId world locals) :
    Kept executionId expiresAt next
      (Function.update locals caller after) := by
  have done : ∀ other,
      Function.update locals caller after other ≠ .requests :=
    fun other requests => kept.done other (step.requests requests).1
  have loadsBefore : after ≠ .loads → ∀ other,
      Function.update locals caller after other = .loads →
        locals other = .loads := by
    intro different other loads
    rcases duty_update loads with ⟨-, same⟩ | ⟨-, same⟩
    · exact absurd same different
    · exact same
  cases step with
  | keeps same rests different =>
      have inside : ∀ priority, executionId ∈ next.queue.pending priority ↔
          executionId ∈ world.queue.pending priority := by
        intro priority
        rw [SortedSet.mem_iff_score, same.pending priority,
          ← SortedSet.mem_iff_score]
      have before := loadsBefore different
      refine ⟨done, fun first second inFirst inSecond =>
          kept.once first second ((inside first).mp inFirst)
            ((inside second).mp inSecond),
        fun priority now other loads =>
          kept.apart priority ((inside priority).mp now) other
            (before other loads),
        fun first second firstLoads secondLoads =>
          kept.sole first second (before first firstLoads)
            (before second secondLoads), ?_⟩
      rintro (⟨priority, now⟩ | ⟨other, loads⟩)
      · rw [same.event]
        exact kept.kept (.inl ⟨priority, (inside priority).mp now⟩)
      · rw [same.event]
        exact kept.kept (.inr ⟨other, before other loads⟩)
  | enqueues event score its requests rests enqueued =>
      exact absurd requests (kept.done caller)
  | handsOut leaves idle turns =>
      obtain ⟨priority, inside, now⟩ := leaves.was
      have nobody := kept.apart priority inside
      have gone : ∀ other, executionId ∉ next.queue.pending other := by
        intro other still
        obtain ⟨different, before⟩ := (now other).mp still
        exact different (kept.once other priority before inside)
      have mover : ∀ other,
          Function.update locals caller after other = .loads →
            other = caller := by
        intro other loads
        rcases duty_update loads with ⟨same, -⟩ | ⟨-, before⟩
        · exact same
        · exact absurd before (nobody other)
      refine ⟨done, fun first _ inFirst => absurd inFirst (gone first),
        fun other still => absurd still (gone other),
        fun first second firstLoads secondLoads =>
          (mover first firstLoads).trans (mover second secondLoads).symm,
        fun _ => ?_⟩
      rw [leaves.event]
      exact kept.kept (.inl ⟨priority, inside⟩)
  | moves moved same different =>
      obtain ⟨priority, newPriority, inside, now⟩ := moved.was
      have place : ∀ other, executionId ∈ next.queue.pending other →
          other = newPriority := by
        intro other still
        rcases (now other).mp still with same | ⟨apart, before⟩
        · exact same
        · exact absurd (kept.once other priority before inside) apart
      have nobody : ∀ other,
          Function.update locals caller after other ≠ .loads :=
        fun other loads => kept.apart priority inside other
          (loadsBefore (same ▸ different) other loads)
      refine ⟨done, fun first second inFirst inSecond =>
          (place first inFirst).trans (place second inSecond).symm,
        fun _ _ => nobody, fun first _ loads => absurd loads (nobody first),
        fun _ => ?_⟩
      rw [moved.event]
      exact kept.kept (.inl ⟨priority, inside⟩)
  | removes its same different removed =>
      apply Kept.of_absent done
      refine ⟨fun priority inside => ?_, fun other loads =>
        removes its other (loadsBefore (same ▸ different) other loads)⟩
      rw [removed] at inside
      exact (SortedSet.mem_remove.mp inside).1 rfl
  | releases its same different released =>
      apply Kept.of_absent done
      apply (releases its).step (.releases its same different released)
      rw [same]
      by_cases rests : locals caller = .rests
      · right
        rw [rests]
        exact Duty.noConfusion
      · exact .inl rests

end Transitions

/-- A world with the same queue, for the three assertions. -/
theorem Unqueued.same {world next : World}
    (unqueued : Unqueued executionId world locals)
    (same : next.queue = world.queue) : Unqueued executionId next locals where
  unique := unqueued.unique
  absent caller requests := by
    unfold Absent
    rw [same]
    exact unqueued.absent caller requests

theorem Kept.same {world next : World} {expiresAt : Nat}
    (kept : Kept executionId expiresAt world locals)
    (same : next.queue = world.queue) :
    Kept executionId expiresAt next locals where
  done := kept.done
  once := same ▸ kept.once
  apart := same ▸ kept.apart
  sole := kept.sole
  kept := same ▸ kept.kept

/-- The environment leaves the queue alone. -/
theorem queue_of_happen {world next : World} {event : WorldEvent}
    (happened : world.happen event = some next) :
    next.queue = world.queue := by
  rcases World.happen_cases happened with
    ⟨duration, -, rfl⟩ | ⟨executions, rfl⟩ <;> rfl

/-- A killed job has no duty any more. -/
theorem step_of_kill {world : World} {caller : Caller} :
    Step executionId world (locals caller) .now .rests
      (world.depart caller) :=
  .keeps ⟨fun _ => rfl, rfl⟩ (.inr rfl) Duty.noConfusion

private theorem unqueued_law :
    (duties executionId).Law backend (fun (_ : Backend) _ => True)
      (fun _ => Ended) (Unqueued executionId) where
  performs := by
    intro state locals caller command choice reply next obeyed unqueued _
      awaited performed
    exact ⟨trivial,
      unqueued.step (step_of_performed (obeyed.awaits awaited) performed)⟩
  environment := by
    intro state locals event next _ unqueued _ happened
    exact unqueued.same (queue_of_happen happened)
  kills := by
    intro state locals caller next _ unqueued _ _ killed
    cases killed
    exact ⟨.rests, rfl, unqueued.step step_of_kill⟩

/-- Who is to enqueue the execution rests once it has tried to. -/
theorem enqueues_of_turn {here : Duty} {command : Command}
    {reply : Except PyException (Reply command)} (requests : here = .requests)
    (awaits : (duties executionId).awaits here command)
    (rests : (duties executionId).after here command reply = .rests) :
    ∃ event score, command = .queue (.enqueue event score) ∧
      event.executionId = executionId := by
  subst requests
  cases command with
  | queue command =>
      cases command with
      | enqueue event score => exact ⟨event, score, rfl, awaits⟩
      | _ => cases rests
  | _ => cases rests

/-- While nobody enqueues the execution it stays out of the queue. -/
theorem absent_law :
    (duties executionId).Law backend
      (fun (state : Backend) move => ¬ Enqueues executionId state move)
      (fun _ => Ended) (Absent executionId) where
  performs := by
    intro state locals caller command choice reply next obeyed absent
      quiet awaited performed
    have awaits := obeyed.awaits awaited
    refine ⟨trivial,
      absent.step (step_of_performed awaits performed) ?_⟩
    by_contra turns
    simp only [ne_eq, not_or, not_not] at turns
    obtain ⟨event, score, rfl, its⟩ :=
      enqueues_of_turn turns.2 awaits turns.1
    exact quiet ⟨caller, choice, event, score, rfl, its, awaited⟩
  environment := by
    intro state locals event next _ absent _ happened
    unfold Absent
    rw [queue_of_happen happened]
    exact absent
  kills := by
    intro state locals caller next _ absent _ _ killed
    cases killed
    refine ⟨.rests, rfl, absent.1, fun other loads => ?_⟩
    rcases duty_update loads with ⟨-, same⟩ | ⟨-, same⟩
    · cases same
    · exact absent.2 other same

private theorem kept_law {expiresAt : Nat} :
    (duties executionId).Law backend (RequestKept executionId)
      (fun _ => Ended) (Kept executionId expiresAt) where
  performs := by
    intro state locals caller command choice reply next obeyed kept guarded
      awaited performed
    obtain ⟨removes, releases⟩ := guarded caller choice rfl
    refine ⟨trivial, kept.step
      (step_of_performed (obeyed.awaits awaited) performed) ?_ ?_⟩
    · rintro rfl other loads
      exact removes awaited other (awaits_of_loads obeyed loads)
    · rintro rfl
      obtain ⟨nowhere, nobody⟩ := releases awaited
      exact ⟨nowhere, fun other loads =>
        nobody other (awaits_of_loads obeyed loads)⟩
  environment := by
    intro state locals event next _ kept _ happened
    exact kept.same (queue_of_happen happened)
  kills := by
    intro state locals caller next _ kept _ _ killed
    cases killed
    exact ⟨.rests, rfl, kept.step step_of_kill (by rintro ⟨⟩)
      (by rintro ⟨⟩)⟩

end Laws

/-! ### The law over runs -/

section Runs

variable {deployment : Deployment} {executionId : ExecutionId}
  {world : World} {jobs : Caller → Job}

/-- The event of each request is delivered once: no two jobs request the same
execution. -/
def DeliveredOnce (executionId : ExecutionId) (jobs : Caller → Job) : Prop :=
  ∀ first second event other, jobs first = .executionRequested event →
    jobs second = .executionRequested other →
      event.executionId = executionId → other.executionId = executionId →
        first = second

theorem obeyed_start :
    (duties executionId).Obeyed
      (fun caller => Duty.first executionId (jobs caller))
      (fun _ => Ended) (start deployment world jobs) where
  follows := by
    rintro caller coroutine ⟨⟩
    exact follows_run (jobs caller)
  gone := by
    rintro caller ⟨⟩

theorem first_ne_loads (job : Job) : Duty.first executionId job ≠ .loads := by
  cases job with
  | executionRequested event =>
      simp only [Duty.first]
      split <;> exact Duty.noConfusion
  | _ => exact Duty.noConfusion

private theorem requested_of_first {job : Job}
    (requests : Duty.first executionId job = .requests) :
    ∃ event, job = .executionRequested event ∧
      event.executionId = executionId := by
  cases job with
  | executionRequested event =>
      simp only [Duty.first] at requests
      split at requests
      · next same => exact ⟨event, rfl, same⟩
      · cases requests
  | _ => cases requests

private theorem absent_start
    (fresh : ∀ priority, executionId ∉ world.queue.pending priority) :
    Absent executionId world
      (fun caller => Duty.first executionId (jobs caller)) :=
  ⟨fresh, fun caller => first_ne_loads (jobs caller)⟩

private theorem unqueued_start (delivered : DeliveredOnce executionId jobs)
    (fresh : ∀ priority, executionId ∉ world.queue.pending priority) :
    Unqueued executionId world
      (fun caller => Duty.first executionId (jobs caller)) where
  unique first second firstRequests secondRequests := by
    obtain ⟨event, firstJob, its⟩ := requested_of_first firstRequests
    obtain ⟨other, secondJob, also⟩ := requested_of_first secondRequests
    exact delivered first second event other firstJob secondJob its also
  absent _ _ := absent_start fresh

/-- A scheduling pass that took the execution out of the queue finds no stored
request, which is where `try_schedule` takes it to be lost. -/
def FindsNoRequest (executionId : ExecutionId) (state : Backend)
    (caller : Caller) : Prop :=
  state.awaited caller = some (.queue (.event executionId)) ∧
    state.shared.queue.events.get state.shared.clock executionId = none

/-- Who awaits the load is about to load. -/
theorem loads_of_awaits {locals : Caller → Duty} {state : Backend}
    {caller : Caller}
    (obeyed : (duties executionId).Obeyed locals (fun _ => Ended) state)
    (awaited : state.awaited caller = some (.queue (.event executionId))) :
    locals caller = .loads := by
  have awaits := obeyed.awaits awaited
  cases duty : locals caller with
  | loads => rfl
  | requests =>
      rw [duty] at awaits
      cases awaits.1
  | rests =>
      rw [duty] at awaits
      exact absurd rfl awaits.2

/-- Once the execution was enqueued its request is kept from then on. -/
theorem kept_of_enqueues (delivered : DeliveredOnce executionId jobs)
    (fresh : ∀ priority, executionId ∉ world.queue.pending priority)
    {earlier : List (Move Caller Choice WorldEvent)}
    {move : Move Caller Choice WorldEvent} {state next : Backend}
    (reached : backend.machine.run (start deployment world jobs) earlier =
      some state)
    (enqueues : Enqueues executionId state move)
    (stepped : backend.machine.step state move = some next) :
    ∃ locals, Kept executionId (state.shared.clock + seconds eventTtl)
      next.shared locals ∧
        (duties executionId).Obeyed locals (fun _ => Ended) next := by
  obtain ⟨locals, unqueued, obeyed, -⟩ := unqueued_law.run obeyed_start
    (unqueued_start delivered fresh)
    (backend.machine.along_of_forall (fun _ _ => trivial) _ _) reached
  obtain ⟨caller, choice, event, score, rfl, rfl, awaited⟩ := enqueues
  have requests : locals caller = .requests := by
    have awaits := obeyed.awaits awaited
    cases duty : locals caller with
    | requests => rfl
    | loads =>
        rw [duty] at awaits
        cases awaits
    | rests =>
        rw [duty] at awaits
        exact absurd rfl awaits
  obtain ⟨reply, performed, follows⟩ := obeyed.performed awaited stepped
  have rests : (duties event.executionId).after (locals caller)
      (.queue (.enqueue event score)) reply = .rests := by
    rw [requests]
    rfl
  have goesOn := follows trivial
  rw [rests] at goesOn
  refine ⟨_, ?_, goesOn⟩
  rcases World.perform_cases performed with
    ⟨-, went⟩ | ⟨error, -, -, ⟨-, failed⟩ | ⟨-, -, effect⟩⟩
  · exact unqueued.enqueue requests (congrArg World.queue
      (congrArg Prod.snd went).symm)
  · apply Kept.of_absent
    · intro other now
      rcases duty_update now with ⟨-, same⟩ | ⟨different, also⟩
      · cases same
      · exact different (unqueued.unique other caller also requests)
    · obtain ⟨nowhere, nobody⟩ := unqueued.absent caller requests
      rw [failed]
      refine ⟨nowhere, fun other loads => ?_⟩
      rcases duty_update loads with ⟨-, same⟩ | ⟨-, same⟩
      · cases same
      · exact nobody other same
  · exact unqueued.enqueue requests (congrArg World.queue effect)

/-- When every removal and release leaves alone the stored requests that are
still to be loaded, a pass finds no request only of an execution that was
enqueued, and whose request's lifetime has passed since. -/
theorem lost_only_when_expired
    (delivered : DeliveredOnce executionId jobs)
    (fresh : ∀ priority, executionId ∉ world.queue.pending priority)
    {moves : List (Move Caller Choice WorldEvent)} {final : Backend}
    {scheduler : Caller}
    (along : backend.machine.Along (RequestKept executionId)
      (start deployment world jobs) moves)
    (reached : backend.machine.run (start deployment world jobs) moves =
      some final)
    (lost : FindsNoRequest executionId final scheduler) :
    (∃ earlier move later state, moves = earlier ++ move :: later ∧
      backend.machine.run (start deployment world jobs) earlier =
        some state ∧
      Enqueues executionId state move) ∧
    ∀ earlier move later state, moves = earlier ++ move :: later →
      backend.machine.run (start deployment world jobs) earlier =
        some state →
      Enqueues executionId state move →
        state.shared.clock + seconds eventTtl < final.shared.clock := by
  obtain ⟨awaited, missing⟩ := lost
  constructor
  · rcases backend.machine.along_or_breaks
      (fun state move => ¬ Enqueues executionId state move)
      (start deployment world jobs) moves with
      never | ⟨earlier, move, later, state, split, before, enqueues⟩
    · obtain ⟨locals, absent, obeyed, -⟩ :=
        absent_law.run obeyed_start (absent_start fresh) never reached
      exact absurd (loads_of_awaits obeyed awaited) (absent.2 scheduler)
    · exact ⟨earlier, move, later, state, split, before,
        Classical.not_not.mp enqueues⟩
  · rintro earlier move later state rfl before enqueues
    have goesOn := reached
    rw [backend.machine.run_append, before, Option.bind_some] at goesOn
    obtain ⟨next, stepped, rest⟩ := Option.bind_eq_some_iff.mp goesOn
    have after := (backend.machine.along_append before along).2.2 next stepped
    obtain ⟨locals, kept, obeyed⟩ :=
      kept_of_enqueues delivered fresh before enqueues stepped
    obtain ⟨locals, kept, obeyed, -⟩ := kept_law.run obeyed kept after rest
    obtain ⟨event, stored⟩ :=
      kept.kept (.inr ⟨scheduler, loads_of_awaits obeyed awaited⟩)
    exact ExpiringStore.live_eq_none.mp (Option.map_eq_none_iff.mp missing) _
      stored

/-- The execution is stored. -/
def lateWorld : World where
  executions executionId :=
    if executionId = "x" then some (printRecord .queued) else none

/-- One job handles the request, another one its cancellation. -/
def requestAndCancel : Caller → Job
  | 0 => .executionRequested printRequest
  | 1 => .executionCancelled
      { printRequest.toBaseEvent with
        executionId := "x"
        cancelledBy := "u" }
  | _ => .schedulePending

/-- Whether a caller is about to load the request and there is none. -/
def findsNoRequest (state : Backend) (caller : Caller) : Bool :=
  match state.running caller with
  | some (.await (.queue (.event executionId)) _) =>
      executionId == "x" &&
        (state.shared.queue.events.get state.shared.clock "x").isNone
  | _ => false

private theorem findsNoRequest_of_check {state : Backend} {caller : Caller}
    (checked : findsNoRequest state caller = true) :
    FindsNoRequest "x" state caller := by
  unfold findsNoRequest at checked
  split at checked
  · next executionId resume runs =>
      simp only [Bool.and_eq_true, beq_iff_eq, Option.isNone_iff_eq_none]
        at checked
      obtain ⟨rfl, missing⟩ := checked
      exact ⟨by simp [Callers.awaited, runs], missing⟩
  · cases checked

/-- Whether a step neither removes nor releases anything. -/
def deletesNothing (state : Backend) :
    Move Caller Choice WorldEvent → Bool
  | .caller caller _ =>
      match state.running caller with
      | some (.await (.queue (.remove _)) _) => false
      | some (.await (.queue (.release _)) _) => false
      | _ => true
  | _ => true

private theorem requestKept_of_check (state : Backend)
    (move : Move Caller Choice WorldEvent)
    (checked : deletesNothing state move = true) :
    RequestKept "x" state move := by
  rintro caller choice rfl
  unfold deletesNothing at checked
  constructor
  · intro awaited
    unfold Callers.awaited at awaited
    split at awaited
    · next runs =>
        cases awaited
        simp [runs] at checked
    · cases awaited
  · intro awaited
    unfold Callers.awaited at awaited
    split at awaited
    · next runs =>
        cases awaited
        simp [runs] at checked
    · cases awaited

private theorem delivered_requestAndCancel :
    DeliveredOnce "x" requestAndCancel := by
  intro first second event other firstJob secondJob _ _
  match first, second with
  | 0, 0 => rfl
  | 1, _ => cases firstJob
  | _ + 2, _ => cases firstJob
  | 0, 1 => cases secondJob
  | 0, _ + 2 => cases secondJob

/-- The request is enqueued, and a pass begins. -/
def enqueueAndPass : List (Move Caller Choice WorldEvent) :=
  List.replicate 6 (.caller 0 {})

theorem lost_only_when_expired_day : ∃ final,
    backend.machine.run (start {} lateWorld requestAndCancel)
      (enqueueAndPass ++
        [.environment (.tick (seconds 86401)), .caller 0 {}]) = some final ∧
    FindsNoRequest "x" final 0 ∧
    seconds eventTtl < final.shared.clock := by
  have ends : (backend.machine.run (start {} lateWorld requestAndCancel)
      (enqueueAndPass ++
        [.environment (.tick (seconds 86401)), .caller 0 {}])).map
      (fun final => findsNoRequest final 0) = some true := by
    decide +kernel
  obtain ⟨final, reached, checked⟩ := Option.map_eq_some_iff.mp ends
  have lost := findsNoRequest_of_check checked
  have along : backend.machine.Along (RequestKept "x")
      (start {} lateWorld requestAndCancel) (enqueueAndPass ++
        [.environment (.tick (seconds 86401)), .caller 0 {}]) :=
    backend.machine.along_of_check requestKept_of_check (by decide +kernel)
  obtain ⟨⟨earlier, move, later, state, split, before, enqueues⟩, bound⟩ :=
    lost_only_when_expired delivered_requestAndCancel
      (fun _ => AList.notMem_empty "x") along reached lost
  exact ⟨final, reached, lost, Nat.lt_of_le_of_lt (Nat.le_add_left ..)
    (bound earlier move later state split before enqueues)⟩

/-- The cancellation deletes the stored request between the pop and the load,
before any time has passed, and the execution is stored as failed for a request
that expired. -/
theorem cancelled_while_scheduled : ∃ state final,
    DeliveredOnce "x" requestAndCancel ∧
    backend.machine.run (start {} lateWorld requestAndCancel)
      (enqueueAndPass ++ [.caller 0 {}, .caller 1 {}]) = some state ∧
    FindsNoRequest "x" state 0 ∧
    state.shared.clock < seconds eventTtl ∧
    backend.machine.run state (List.replicate 7 (.caller 0 {})) =
      some final ∧
    (final.shared.executions "x").map ExecutionDocument.status =
      some .failed := by
  have ends : (backend.machine.run (start {} lateWorld requestAndCancel)
      (enqueueAndPass ++ [.caller 0 {}, .caller 1 {}])).bind (fun state =>
        (backend.machine.run state (List.replicate 7 (.caller 0 {}))).map
          fun final => (findsNoRequest state 0, state.shared.clock,
            (final.shared.executions "x").map ExecutionDocument.status)) =
      some (true, 0, some .failed) := by
    decide +kernel
  obtain ⟨state, reached, rest⟩ := Option.bind_eq_some_iff.mp ends
  obtain ⟨final, goesOn, same⟩ := Option.map_eq_some_iff.mp rest
  simp only [Prod.mk.injEq] at same
  obtain ⟨lost, clock, status⟩ := same
  exact ⟨state, final, delivered_requestAndCancel, reached,
    findsNoRequest_of_check lost, by rw [clock]; decide, goesOn, status⟩

end Runs

end LostRequests

end Integr8s
