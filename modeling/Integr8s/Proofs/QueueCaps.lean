/-
Module: Integr8s.Proofs.QueueCaps
Purpose: The caps of the execution queue over all interleavings of the queue
  service's calls: the running set never exceeds the limit and every enqueue is
  handed out once at most, and a user's active set never exceeds the limit of
  a reservation that succeeded.
Trusted boundary: none
Main exports: QueueCaps.running_slot_cap, QueueCaps.user_active_cap
-/
import Integr8s.Services.ExecutionQueue

namespace Integr8s

namespace QueueCaps

open ExecutionQueueService

/-- Callers of the queue service over a world. -/
def start (world : World) (calls : Caller → QueueCall) : Backend where
  shared := world
  running caller := some (calls caller).run

/-- The commands of the queue that a call may await. -/
def MayAsk (call : QueueCall) : QueueCommand → Prop
  | .reserveUserSlot userId executionId _ limit =>
      call = .reserveUserSlot userId executionId limit
  | .owner executionId | .dropUserSlot _ executionId =>
      call = .releaseUserSlot executionId ∨
        ∃ limit, call = .trySchedule limit
  | .enqueue event _ => call = .enqueue event
  | .rank _ executionId =>
      ∃ event, call = .enqueue event ∧ event.executionId = executionId
  | .trySchedule limit _ _ => call = .trySchedule limit
  | .event _ | .dropRunning _ | .moveDeadlines .. =>
      ∃ limit, call = .trySchedule limit
  | .release executionId => call = .release executionId
  | .updatePriority executionId newPriority =>
      call = .updatePriority executionId newPriority
  | .remove executionId => call = .remove executionId
  | .status _ => call = .getQueueStatus

/-- A call awaits the time and its commands of the queue. -/
def Allowed (call : QueueCall) : Command → Prop
  | .now => True
  | .queue command => MayAsk call command
  | _ => False

/-! ### What the queue service asks for -/

section Asks

variable {call : QueueCall}

theorem asks_releaseUserSlot {executionId : ExecutionId}
    (releases : call = .releaseUserSlot executionId ∨
      ∃ limit, call = .trySchedule limit) :
    (releaseUserSlot executionId).Asks (Allowed call) := by
  apply Coroutine.Asks.attempt
  · apply Coroutine.Asks.bind
    · exact Coroutine.Asks.call releases
    intro found
    cases found with
    | none => trivial
    | some userId => exact Coroutine.Asks.call releases
  · intro error
    split <;> trivial

theorem asks_trySchedule (limit : Nat) :
    (trySchedule limit).Asks (Allowed (.trySchedule limit)) := by
  apply Coroutine.Asks.bind
  · exact Coroutine.Asks.call trivial
  intro time
  apply Coroutine.Asks.bind
  · exact Coroutine.Asks.call rfl
  intro handed
  cases handed with
  | none => trivial
  | some handed =>
      apply Coroutine.Asks.bind
      · exact Coroutine.Asks.call ⟨limit, rfl⟩
      intro found
      cases found with
      | none =>
          apply Coroutine.Asks.bind
          · exact Coroutine.Asks.call ⟨limit, rfl⟩
          intro _
          apply Coroutine.Asks.bind
          · exact asks_releaseUserSlot (.inr ⟨limit, rfl⟩)
          intro _
          exact Coroutine.Asks.raise _
      | some found =>
          apply Coroutine.Asks.bind
          · exact Coroutine.Asks.call trivial
          intro scheduledAt
          apply Coroutine.Asks.bind
          · exact Coroutine.Asks.call ⟨limit, rfl⟩
          intro _
          trivial

/-- A call awaits nothing else. -/
theorem asks_run (call : QueueCall) : call.run.Asks (Allowed call) := by
  cases call with
  | trySchedule limit =>
      apply Coroutine.Asks.bind (asks_trySchedule limit)
      intro _
      trivial
  | releaseUserSlot executionId => exact asks_releaseUserSlot (.inl rfl)
  | release executionId => exact Coroutine.Asks.call rfl
  | updatePriority executionId newPriority =>
      apply Coroutine.Asks.bind
      · exact Coroutine.Asks.call rfl
      · intro _
        trivial
  | remove executionId =>
      apply Coroutine.Asks.bind
      · exact Coroutine.Asks.call rfl
      · intro _
        trivial
  | reserveUserSlot userId executionId limit =>
      apply Coroutine.Asks.bind
      · exact Coroutine.Asks.bind (Coroutine.Asks.call trivial) fun now =>
          Coroutine.Asks.call rfl
      · intro _
        trivial
  | enqueue event =>
      apply Coroutine.Asks.bind
      · apply Coroutine.Asks.bind
        · exact Coroutine.Asks.call trivial
        intro score
        apply Coroutine.Asks.bind
        · exact Coroutine.Asks.call rfl
        intro _
        apply Coroutine.Asks.bind
        · exact Coroutine.Asks.call ⟨event, rfl, rfl⟩
        intro rank
        trivial
      · intro _
        trivial
  | getQueueStatus =>
      apply Coroutine.Asks.bind
      · exact Coroutine.Asks.bind (Coroutine.Asks.call trivial) fun now =>
          Coroutine.Asks.call rfl
      · intro _
        trivial

private theorem asking_start (world : World) (calls : Caller → QueueCall) :
    System.Asking (fun caller => Allowed (calls caller))
      (start world calls) := by
  intro caller coroutine runs
  cases runs
  exact asks_run (calls caller)

end Asks

/-! ### The running slots -/

section Running

/-- In how many pending sets an execution is. -/
def places (pending : QueuePriority → SortedSet ExecutionId)
    (executionId : ExecutionId) : Nat :=
  priorityOrder.countP fun priority =>
    decide (executionId ∈ pending priority)

/-- The running set is within the cap, and no execution was handed out, or
still can be, more often than it was enqueued. -/
structure Capped (maxActive : Nat) (queue : QueueStore) : Prop where
  running : queue.running.card ≤ maxActive
  handed : ∀ executionId,
    queue.handedOut.count executionId + places queue.pending executionId ≤
      queue.enqueued.count executionId

/-- Changing one pending set changes the places of an execution there only. -/
theorem places_update (pending : QueuePriority → SortedSet ExecutionId)
    (priority : QueuePriority) (set : SortedSet ExecutionId)
    (executionId : ExecutionId) :
    places (Function.update pending priority set) executionId +
      (if executionId ∈ pending priority then 1 else 0) =
    places pending executionId + if executionId ∈ set then 1 else 0 := by
  cases priority <;>
    simp only [places, priorityOrder, List.countP_cons, List.countP_nil,
      Function.update_self, ne_eq, reduceCtorEq, not_false_eq_true,
      Function.update_of_ne, decide_eq_true_eq] <;>
    omega

variable {maxActive : Nat} {queue next : QueueStore}

/-- A queue that holds no more than before and handed out nothing stays within
the cap. -/
theorem Capped.shrink (capped : Capped maxActive queue)
    (running : next.running.card ≤ queue.running.card)
    (fewer : ∀ executionId,
      places next.pending executionId ≤ places queue.pending executionId)
    (handedOut : next.handedOut = queue.handedOut)
    (enqueued : next.enqueued = queue.enqueued) : Capped maxActive next where
  running := running.trans capped.running
  handed executionId := by
    have before := capped.handed executionId
    have less := fewer executionId
    rw [handedOut, enqueued]
    omega

/-- What a removal does to the places of an execution. -/
theorem places_remove_le (pending : QueuePriority → SortedSet ExecutionId)
    (removed executionId : ExecutionId) :
    places (fun priority => (pending priority).remove removed) executionId ≤
      places pending executionId := by
  apply List.countP_mono_left
  intro priority _ present
  simp only [SortedSet.mem_remove, decide_eq_true_eq] at present ⊢
  exact present.2

theorem Capped.enqueue (capped : Capped maxActive queue) (clock : Nat)
    (event : ExecutionRequestedEvent) (score : Nat) :
    Capped maxActive (queue.enqueue clock event score) where
  running := capped.running
  handed executionId := by
    have before := capped.handed executionId
    have moved := places_update queue.pending event.priority
      ((queue.pending event.priority).add event.executionId score) executionId
    simp only [SortedSet.mem_add] at moved
    simp only [QueueStore.enqueue, List.count_cons, beq_iff_eq]
    by_cases it : executionId = event.executionId
    · subst it
      simp only [true_or, if_true] at moved ⊢
      omega
    · have other : ¬ event.executionId = executionId := fun is => it is.symm
      simp only [it, false_or, other, if_false] at moved ⊢
      omega

/-- The script hands out an execution that leaves its pending set, into a
running set that has room. -/
theorem Capped.trySchedule (capped : Capped maxActive queue)
    (now deadline : Nat) :
    Capped maxActive (queue.trySchedule maxActive now deadline).2 := by
  rcases queue.trySchedule_cases maxActive now deadline with
    ⟨none, -⟩ | ⟨priority, handed, score, room, scored, some⟩
  · rw [none]
    exact capped.shrink (SortedSet.card_prune_le _ _) (fun _ => le_refl _) rfl
      rfl
  · rw [some]
    have present : handed ∈ queue.pending priority :=
      SortedSet.mem_iff_score.mpr ⟨score, scored⟩
    refine ⟨le_trans SortedSet.card_add_le room, fun executionId => ?_⟩
    have before := capped.handed executionId
    have moved := places_update queue.pending priority
      ((queue.pending priority).remove handed) executionId
    simp only [SortedSet.mem_remove] at moved
    simp only [QueueStore.handOut, List.count_cons, beq_iff_eq]
    by_cases it : executionId = handed
    · subst it
      simp only [ne_eq, not_true_eq_false, false_and, present, if_true,
        if_false] at moved ⊢
      omega
    · have other : ¬ handed = executionId := fun is => it is.symm
      simp only [ne_eq, it, not_false_eq_true, true_and, other,
        if_false] at moved ⊢
      omega

/-- Moving an execution between two pending sets gives it no second place. -/
theorem Capped.updatePriority (capped : Capped maxActive queue)
    (executionId : ExecutionId) (newPriority : QueuePriority) :
    Capped maxActive (queue.updatePriority executionId newPriority).2 := by
  rcases queue.updatePriority_cases executionId newPriority with
    ⟨none, -⟩ | ⟨priority, score, scored, some⟩
  · rw [none]
    exact capped
  · rw [some]
    have present : executionId ∈ queue.pending priority :=
      SortedSet.mem_iff_score.mpr ⟨score, scored⟩
    refine capped.shrink (le_refl _) (fun other => ?_) rfl rfl
    have left := places_update queue.pending priority
      ((queue.pending priority).remove executionId) other
    have entered := places_update
      (Function.update queue.pending priority
        ((queue.pending priority).remove executionId)) newPriority
      ((Function.update queue.pending priority
        ((queue.pending priority).remove executionId) newPriority).add
        executionId score) other
    simp only [SortedSet.mem_remove, SortedSet.mem_add] at left entered
    simp only [QueueStore.movePending]
    by_cases it : other = executionId
    · subst it
      simp only [ne_eq, not_true_eq_false, false_and, present, true_or,
        if_true, if_false] at left entered
      omega
    · simp only [ne_eq, it, not_false_eq_true, true_and, false_or] at left entered
      omega

/-- Every command of the queue service keeps the cap, whatever its order. -/
theorem Capped.perform (capped : Capped maxActive queue) (clock : Nat)
    {command : QueueCommand}
    (constant : ∀ limit now deadline,
      command = .trySchedule limit now deadline → limit = maxActive) :
    Capped maxActive (queue.perform clock command).2 := by
  cases command with
  | reserveUserSlot userId executionId now limit =>
      simp only [QueueStore.perform, QueueStore.reserveUserSlot]
      split <;> exact capped.shrink (le_refl _) (fun _ => le_refl _) rfl rfl
  | owner executionId =>
      simp only [QueueStore.perform, QueueStore.readOwner]
      split <;> exact capped.shrink (le_refl _) (fun _ => le_refl _) rfl rfl
  | enqueue event score => exact capped.enqueue clock event score
  | trySchedule limit now deadline =>
      cases constant limit now deadline rfl
      exact capped.trySchedule now deadline
  | updatePriority executionId newPriority =>
      exact capped.updatePriority executionId newPriority
  | remove executionId =>
      exact capped.shrink SortedSet.card_remove_le
        (places_remove_le queue.pending executionId) rfl rfl
  | dropRunning executionId | release executionId =>
      exact capped.shrink SortedSet.card_remove_le (fun _ => le_refl _) rfl rfl
  | moveDeadlines executionId userId deadline =>
      exact capped.shrink SortedSet.card_addExisting.le (fun _ => le_refl _)
        rfl rfl
  | dropUserSlot userId executionId =>
      exact capped.shrink (le_refl _) (fun _ => le_refl _) rfl rfl
  | rank | event | status => exact capped

/-- The running set never holds more than the limit, no execution is handed
out more often than it was enqueued, and a call of the script hands one out
only when fewer than the limit are held after pruning: for all orders in which
callers of the queue service, the clock and failures take turns. -/
theorem running_slot_cap {maxActive : Nat} {calls : Caller → QueueCall}
    (constant : ∀ caller limit, calls caller = .trySchedule limit →
      limit = maxActive)
    {world : World} (fresh : world.queue = {})
    {moves : List (Move Caller Choice WorldEvent)} {state : Backend}
    (reached : backend.machine.run (start world calls) moves = some state) :
    state.shared.queue.running.card ≤ maxActive ∧
      (∀ executionId, state.shared.queue.handedOut.count executionId ≤
        state.shared.queue.enqueued.count executionId) ∧
      ∀ caller limit now deadline choice handed next,
        state.awaited caller =
            some (.queue (.trySchedule limit now deadline)) →
          backend.perform caller state.shared
              (.queue (.trySchedule limit now deadline)) choice =
            some (.ok (some handed), next) →
          (state.shared.queue.running.prune now).card < maxActive := by
  have initial : Capped maxActive world.queue := by
    rw [fresh]
    exact ⟨Nat.zero_le _, by simp [places, priorityOrder]⟩
  obtain ⟨asks, capped⟩ := backend.run_asking
    (fun world => Capped maxActive world.queue) (asking_start world calls)
    initial (fun before after move asks capped stepped => by
      rcases Backend.step_queue stepped with
        kept | ⟨caller, choice, command, -, awaits, changed⟩
      · exact kept ▸ capped
      · refine changed ▸ capped.perform _ ?_
        rintro limit now deadline rfl
        exact constant caller limit (asks.awaited awaits)) reached
  refine ⟨capped.running, fun executionId => ?_, ?_⟩
  · have counted := capped.handed executionId
    omega
  · intro caller limit now deadline choice handed next awaits performed
    have same := constant caller limit (asks.awaited awaits)
    have answered := (World.perform_queue_ok performed).1
    rcases state.shared.queue.trySchedule_cases limit now deadline with
      ⟨none, -⟩ | ⟨_, _, _, room, _⟩
    · simp [QueueStore.perform, none] at answered
    · exact same ▸ room

/-- A request of an execution by a user. -/
def requestOf (executionId : ExecutionId) (userId : UserId) :
    ExecutionRequestedEvent where
  eventId := executionId
  aggregateId := some executionId
  metadata :=
    { serviceName := "execution-service"
      serviceVersion := "2.0.0"
      userId := userId }
  executionId := executionId
  script := "print(1)"
  language := "python"
  languageVersion := "3.11"
  runtimeImage := "python:3.11-slim"
  runtimeCommand := ["python"]
  runtimeFilename := "main.py"
  timeoutSeconds := 300
  cpuLimit := "1000m"
  memoryLimit := "128Mi"
  cpuRequest := "200m"
  memoryRequest := "128Mi"

/-- One caller enqueues an execution, all others schedule with room for
one. -/
def enqueueAndSchedule : Caller → QueueCall
  | 0 => .enqueue (requestOf "a" "u")
  | _ => .trySchedule 1

/-- The enqueue, and two attempts to schedule of which the first hands out. -/
def twoAttempts : List (Move Caller Choice WorldEvent) :=
  [.caller 0 {}, .caller 0 {}, .caller 1 {}, .caller 2 {}, .caller 1 {},
    .caller 2 {}]

theorem running_slot_cap_two_attempts :
    ∃ final, backend.machine.run (start {} enqueueAndSchedule) twoAttempts =
        some final ∧
      final.shared.queue.handedOut = ["a"] ∧
      final.shared.queue.running.card ≤ 1 := by
  have ends : (backend.machine.run (start {} enqueueAndSchedule)
      twoAttempts).map (fun final => final.shared.queue.handedOut) =
      some ["a"] := by decide +kernel
  obtain ⟨final, reached, handedOut⟩ := Option.map_eq_some_iff.mp ends
  have constant : ∀ caller limit,
      enqueueAndSchedule caller = .trySchedule limit → limit = 1 := by
    intro caller limit schedules
    unfold enqueueAndSchedule at schedules
    split at schedules <;> cases schedules
    rfl
  exact ⟨final, reached, handedOut,
    (running_slot_cap constant rfl reached).1⟩

end Running

/-! ### The slots of a user -/

section Users

/-- The execution whose user slot a command is about. -/
def slotOf : QueueCommand → Option ExecutionId
  | .reserveUserSlot _ executionId _ _ => some executionId
  | .dropUserSlot _ executionId => some executionId
  | .moveDeadlines executionId _ _ => some executionId
  | _ => none

variable {ownerOf : ExecutionId → UserId} {queue : QueueStore}

/-- Only the user that an execution's slot is reserved for can have it in the
active set. -/
def Owned (ownerOf : ExecutionId → UserId) (queue : QueueStore) : Prop :=
  ∀ userId entry, queue.userSets userId = some entry →
    ∀ executionId ∈ entry.value, ownerOf executionId = userId

/-- A command reserves a slot for the owner of the execution only. -/
def ForOwner (ownerOf : ExecutionId → UserId) (command : QueueCommand) :
    Prop :=
  ∀ userId executionId now limit,
    command = .reserveUserSlot userId executionId now limit →
      ownerOf executionId = userId

theorem Owned.userSet (owned : Owned ownerOf queue) {clock : Nat}
    {userId : UserId} {executionId : ExecutionId}
    (member : executionId ∈ queue.userSet clock userId) :
    ownerOf executionId = userId := by
  simp only [QueueStore.userSet, ExpiringStore.get] at member
  cases found : queue.userSets.live clock userId with
  | none => simp [found] at member
  | some entry =>
      simp only [found, Option.map_some, Option.getD_some] at member
      exact owned userId entry (ExpiringStore.live_eq_some.mp found).1
        executionId member

/-- A change of an active set that adds no execution. -/
theorem Owned.changeUserSet (owned : Owned ownerOf queue) (clock : Nat)
    (userId : UserId)
    {change : SortedSet ExecutionId → SortedSet ExecutionId}
    (adds : ∀ executionId set, executionId ∈ change set → executionId ∈ set) :
    Owned ownerOf (queue.changeUserSet clock userId change) := by
  intro other entry stored executionId member
  simp only [QueueStore.changeUserSet, ExpiringStore.setIfPresent] at stored
  split at stored
  · exact owned other entry stored executionId member
  · by_cases same : other = userId
    · subst same
      simp only [Function.update_self, Option.some.injEq] at stored
      subst stored
      exact owned.userSet (adds _ _ member)
    · simp only [Function.update_of_ne same] at stored
      exact owned other entry stored executionId member

theorem Owned.admitUser (owned : Owned ownerOf queue) (clock now : Nat)
    {userId : UserId} {executionId : ExecutionId}
    (owner : ownerOf executionId = userId) :
    Owned ownerOf (queue.admitUser clock userId executionId now) := by
  intro other entry stored member inside
  simp only [QueueStore.admitUser, ExpiringStore.set] at stored
  by_cases same : other = userId
  · subst same
    simp only [Function.update_self, Option.some.injEq] at stored
    subst stored
    rcases SortedSet.mem_add.mp inside with rfl | kept
    · exact owner
    · exact owned.userSet (SortedSet.mem_of_mem_prune kept)
  · simp only [Function.update_of_ne same] at stored
    exact owned other entry stored member inside

/-- Every command of the queue service keeps the active sets apart. -/
theorem Owned.perform (owned : Owned ownerOf queue) (clock : Nat)
    {command : QueueCommand} (forOwner : ForOwner ownerOf command) :
    Owned ownerOf (queue.perform clock command).2 := by
  cases command with
  | reserveUserSlot userId executionId now limit =>
      rcases queue.reserveUserSlot_cases clock userId executionId now limit with
        ⟨refused, -⟩ | ⟨reserved, -⟩
      · simp only [QueueStore.perform, refused]
        exact owned.changeUserSet clock userId fun _ _ member =>
          SortedSet.mem_of_mem_prune member
      · simp only [QueueStore.perform, reserved]
        exact owned.admitUser clock now (forOwner _ _ _ _ rfl)
  | dropUserSlot userId executionId =>
      exact owned.changeUserSet clock userId fun _ _ member =>
        (SortedSet.mem_remove.mp member).2
  | moveDeadlines executionId userId deadline =>
      have kept : Owned ownerOf (queue.changeUserSet clock userId
          fun set => set.addExisting executionId deadline) :=
        owned.changeUserSet clock userId fun _ _ member =>
          SortedSet.mem_addExisting.mp member
      exact kept
  | owner executionId =>
      simp only [QueueStore.perform, QueueStore.readOwner]
      split <;> exact owned
  | trySchedule limit now deadline =>
      rcases queue.trySchedule_cases limit now deadline with
        ⟨none, -⟩ | ⟨_, _, _, -, -, some⟩
      · simp only [QueueStore.perform, none]
        exact owned
      · simp only [QueueStore.perform, some]
        exact owned
  | updatePriority executionId newPriority =>
      rcases queue.updatePriority_cases executionId newPriority with
        ⟨none, -⟩ | ⟨_, _, -, some⟩
      · simp only [QueueStore.perform, none]
        exact owned
      · simp only [QueueStore.perform, some]
        exact owned
  | _ => exact owned

/-- A command changes no active set but that of the user whose execution it is
about. -/
theorem userSet_other (owned : Owned ownerOf queue) (clock : Nat)
    {command : QueueCommand} (forOwner : ForOwner ownerOf command)
    {userId : UserId}
    (other : ∀ executionId, slotOf command = some executionId →
      ownerOf executionId ≠ userId) :
    (queue.perform clock command).2.userSet clock userId =
      queue.userSet clock userId := by
  have absent : ∀ executionId, slotOf command = some executionId →
      executionId ∉ queue.userSet clock userId :=
    fun executionId about member =>
      other executionId about (owned.userSet member)
  cases command with
  | reserveUserSlot user executionId now limit =>
      have different : userId ≠ user := fun same =>
        other executionId rfl (same ▸ forOwner _ _ _ _ rfl)
      rcases queue.reserveUserSlot_cases clock user executionId now limit with
        ⟨refused, -⟩ | ⟨reserved, -⟩
      · simp only [QueueStore.perform, refused]
        rw [QueueStore.userSet_changeUserSet rfl, if_neg different]
      · simp only [QueueStore.perform, reserved]
        rw [QueueStore.userSet_admitUser, if_neg different]
  | dropUserSlot user executionId =>
      simp only [QueueStore.perform, QueueStore.userSet_dropUserSlot]
      split
      · next same =>
          subst same
          exact SortedSet.remove_of_notMem (absent executionId rfl)
      · rfl
  | moveDeadlines executionId user deadline =>
      simp only [QueueStore.perform, QueueStore.userSet_moveDeadlines]
      split
      · next same =>
          subst same
          exact SortedSet.addExisting_of_notMem (absent executionId rfl)
      · rfl
  | owner executionId =>
      simp only [QueueStore.perform, QueueStore.readOwner]
      split <;> rfl
  | trySchedule limit now deadline =>
      rcases queue.trySchedule_cases limit now deadline with
        ⟨none, -⟩ | ⟨_, _, _, -, -, some⟩
      · simp only [QueueStore.perform, none]
        rfl
      · simp only [QueueStore.perform, some]
        rfl
  | updatePriority executionId newPriority =>
      rcases queue.updatePriority_cases executionId newPriority with
        ⟨none, -⟩ | ⟨_, _, -, some⟩
      · simp only [QueueStore.perform, none]
      · simp only [QueueStore.perform, some]
        rfl
  | _ => rfl

private theorem forOwner_of_asked {call : QueueCall} {command : QueueCommand}
    (oneUser : ∀ userId executionId limit,
      call = .reserveUserSlot userId executionId limit →
        ownerOf executionId = userId)
    (asked : MayAsk call command) : ForOwner ownerOf command := by
  rintro userId executionId now limit rfl
  exact oneUser userId executionId limit asked

/-- A release takes at most the released execution out of an active set. -/
theorem userSet_release {command : QueueCommand} {executionId : ExecutionId}
    (asked : MayAsk (.releaseUserSlot executionId) command) (clock : Nat)
    (userId : UserId) :
    (queue.perform clock command).2.userSet clock userId =
        queue.userSet clock userId ∨
      (queue.perform clock command).2.userSet clock userId =
        (queue.userSet clock userId).remove executionId := by
  cases command with
  | owner owned =>
      simp only [QueueStore.perform, QueueStore.readOwner]
      split <;> exact .inl rfl
  | dropUserSlot user dropped =>
      have same : dropped = executionId := by
        rcases asked with same | ⟨_, impossible⟩
        · cases same
          rfl
        · cases impossible
      subst same
      simp only [QueueStore.perform, QueueStore.userSet_dropUserSlot]
      split
      · next same => exact .inr (same ▸ rfl)
      · exact .inl rfl
  | _ => simp [MayAsk] at asked

/-- After a reservation that succeeds the user's active set holds at most the
limit; one that is refused prunes what expired and changes nothing else; a
release takes out at most the released execution; and no command changes the
active set of a user whose execution it is not about: for all orders in which
callers of the queue service, the clock and failures take turns. -/
theorem user_active_cap {ownerOf : ExecutionId → UserId}
    {calls : Caller → QueueCall}
    (oneUser : ∀ caller userId executionId limit,
      calls caller = .reserveUserSlot userId executionId limit →
        ownerOf executionId = userId)
    {world : World} (fresh : world.queue = {})
    {moves : List (Move Caller Choice WorldEvent)} {state : Backend}
    (reached : backend.machine.run (start world calls) moves = some state)
    (caller : Caller) (choice : Choice) {next : World} :
    (∀ userId executionId now limit,
      state.awaited caller =
          some (.queue (.reserveUserSlot userId executionId now limit)) →
        backend.perform caller state.shared
            (.queue (.reserveUserSlot userId executionId now limit)) choice =
          some (.ok true, next) →
        (next.queue.userSet next.clock userId).card ≤ limit) ∧
    (∀ userId executionId now limit,
      state.awaited caller =
          some (.queue (.reserveUserSlot userId executionId now limit)) →
        backend.perform caller state.shared
            (.queue (.reserveUserSlot userId executionId now limit)) choice =
          some (.ok false, next) →
        next = { state.shared with
          queue := { state.shared.queue with
            userSets := next.queue.userSets } } ∧
        ∀ other, next.queue.userSet next.clock other =
          if other = userId then
            (state.shared.queue.userSet state.shared.clock userId).prune now
          else state.shared.queue.userSet state.shared.clock other) ∧
    (∀ executionId command reply,
      calls caller = .releaseUserSlot executionId →
        state.awaited caller = some command →
        backend.perform caller state.shared command choice =
          some (reply, next) →
        ∀ userId, next.queue.userSet next.clock userId =
            state.shared.queue.userSet state.shared.clock userId ∨
          next.queue.userSet next.clock userId =
            (state.shared.queue.userSet state.shared.clock userId).remove
              executionId) ∧
    ∀ command reply, state.awaited caller = some command →
      backend.perform caller state.shared command choice =
        some (reply, next) →
      ∀ userId, next.queue.userSet next.clock userId =
          state.shared.queue.userSet state.shared.clock userId ∨
        ∃ queueCommand executionId, command = .queue queueCommand ∧
          slotOf queueCommand = some executionId ∧
          ownerOf executionId = userId := by
  have initial : Owned ownerOf world.queue := by
    rw [fresh]
    intro userId entry stored
    cases stored
  obtain ⟨asks, owned⟩ := backend.run_asking
    (fun world => Owned ownerOf world.queue) (asking_start world calls)
    initial (fun before after move asks owned stepped => by
      rcases Backend.step_queue stepped with
        kept | ⟨caller, choice, command, -, awaits, changed⟩
      · exact kept ▸ owned
      · exact changed ▸ owned.perform _
          (forOwner_of_asked (oneUser caller) (asks.awaited awaits))) reached
  refine ⟨?_, ?_, ?_, ?_⟩
  · intro userId executionId now limit awaits performed
    obtain ⟨answered, rfl⟩ := World.perform_queue_ok performed
    rcases state.shared.queue.reserveUserSlot_cases state.shared.clock userId
      executionId now limit with ⟨refused, -⟩ | ⟨reserved, room⟩
    · simp [QueueStore.perform, refused] at answered
    · simp only [QueueStore.perform, reserved, QueueStore.userSet_admitUser,
        if_true]
      exact le_trans SortedSet.card_add_le room
  · intro userId executionId now limit awaits performed
    obtain ⟨answered, rfl⟩ := World.perform_queue_ok performed
    rcases state.shared.queue.reserveUserSlot_cases state.shared.clock userId
      executionId now limit with ⟨refused, -⟩ | ⟨reserved, -⟩
    · simp only [QueueStore.perform, refused]
      exact ⟨rfl, fun other => QueueStore.userSet_changeUserSet rfl⟩
    · simp [QueueStore.perform, reserved] at answered
  · intro executionId command reply releases awaits performed userId
    obtain ⟨sameClock, kept | ⟨queueCommand, rfl, changed⟩⟩ :=
      World.perform_queue performed
    · rw [kept, sameClock]
      exact .inl rfl
    · rw [changed, sameClock]
      have asked : MayAsk (calls caller) queueCommand := asks.awaited awaits
      rw [releases] at asked
      exact userSet_release asked _ userId
  · intro command reply awaits performed userId
    obtain ⟨sameClock, kept | ⟨queueCommand, rfl, changed⟩⟩ :=
      World.perform_queue performed
    · rw [kept, sameClock]
      exact .inl rfl
    · rw [changed, sameClock]
      by_cases about : ∃ executionId,
          slotOf queueCommand = some executionId ∧ ownerOf executionId = userId
      · obtain ⟨executionId, slot, owner⟩ := about
        exact .inr ⟨queueCommand, executionId, rfl, slot, owner⟩
      · left
        apply userSet_other owned _
          (forOwner_of_asked (oneUser caller) (asks.awaited awaits))
        intro executionId slot owner
        exact about ⟨executionId, slot, owner⟩

/-- Two executions of one user ask for the only slot. -/
def twoReservations : Caller → QueueCall
  | 0 => .reserveUserSlot "u" "a" 1
  | _ => .reserveUserSlot "u" "b" 1

private theorem twoReservations_oneUser (caller : Caller) (userId : UserId)
    (executionId : ExecutionId) (limit : Nat)
    (same : twoReservations caller =
      .reserveUserSlot userId executionId limit) : "u" = userId := by
  cases caller with
  | zero => cases same; rfl
  | succ caller => cases same; rfl

/-- The first one has the slot, and the second one is refused. -/
theorem user_active_cap_two_reservations :
    ∃ state next full refused,
      backend.machine.run (start {} twoReservations) [.caller 0 {}] =
        some state ∧
      backend.perform 0 state.shared
          (.queue (.reserveUserSlot "u" "a" 0 1)) {} = some (.ok true, next) ∧
      (next.queue.userSet next.clock "u").card ≤ 1 ∧
      backend.machine.run (start {} twoReservations)
        [.caller 0 {}, .caller 0 {}, .caller 1 {}] = some full ∧
      backend.perform 1 full.shared
          (.queue (.reserveUserSlot "u" "b" 0 1)) {} =
        some (.ok false, refused) ∧
      refused.queue.userSet refused.clock "u" =
        (full.shared.queue.userSet full.shared.clock "u").prune 0 := by
  have reserves := @user_active_cap (fun _ => "u") twoReservations
    twoReservations_oneUser {} rfl [.caller 0 {}] _ rfl 0 {}
  have refuses := @user_active_cap (fun _ => "u") twoReservations
    twoReservations_oneUser {} rfl
    [.caller 0 {}, .caller 0 {}, .caller 1 {}] _ rfl 1 {}
  exact ⟨_, _, _, _, rfl, rfl, reserves.1 "u" "a" 0 1 rfl rfl, rfl, rfl,
    (refuses.2.1 "u" "b" 0 1 rfl rfl).2 "u"⟩

end Users

end QueueCaps

end Integr8s
