/-
Module: Integr8s.Infrastructure.QueueStore
Purpose: The keys of the execution queue and what each script, pipeline and
  single command of the queue service does to them at once.
Trusted boundary: human-reviewed spec
Main exports: QueueStore, QueueStore.reserveUserSlot, QueueStore.trySchedule,
  QueueStore.updatePriority, QueueCommand, QueueReply, QueueStore.perform
-/
import Integr8s.Domain.Events
import Integr8s.Lib.ExpiringStore
import Integr8s.Lib.SortedSet
import Mathlib.Data.Finset.Basic
import Mathlib.Data.String.Basic

namespace Integr8s

/-- `PRIORITY_ORDER`. -/
def priorityOrder : List QueuePriority :=
  [.critical, .high, .normal, .low, .background]

theorem mem_priorityOrder (priority : QueuePriority) :
    priority ∈ priorityOrder := by
  cases priority <;> decide

/-- `_EVENT_TTL`: 24 hours, in seconds. -/
def eventTtl : Nat := 86400

/-- `_SLOT_GRACE_SECONDS`. -/
def slotGraceSeconds : Nat := 300

/-- `_PROVISIONAL_SLOT_SECONDS`: until the event is loaded, a slot assumes the
longest timeout an admin can set. -/
def provisionalSlotSeconds : Nat := 3600 + slotGraceSeconds

/-- What became of the slot that was reserved for an execution. -/
inductive Reservation where
  | held (userId : UserId)
  | released
deriving DecidableEq, Repr

/-- The queue's keys: a pending set for each priority, scored by the time of
the enqueue, the running set, scored by deadlines, the stored requests, and the
active sets of the users with the owners of the executions in them.  Besides,
what no command reads: the executions that were enqueued and handed out, the
ones whose running slot still has the deadline that the script gave it, and the
reservations of user slots. -/
structure QueueStore where
  pending : QueuePriority → SortedSet ExecutionId := fun _ => ∅
  running : SortedSet ExecutionId := ∅
  events : ExpiringStore ExecutionId ExecutionRequestedEvent := fun _ => none
  userSets : ExpiringStore UserId (SortedSet ExecutionId) := fun _ => none
  owners : ExpiringStore ExecutionId UserId := fun _ => none
  enqueued : List ExecutionId := []
  handedOut : List ExecutionId := []
  provisional : Finset ExecutionId := ∅
  reservations : ExecutionId → Option Reservation := fun _ => none

namespace QueueStore

/-- The active set of a user, empty once its key expired. -/
def userSet (queue : QueueStore) (clock : Nat) (userId : UserId) :
    SortedSet ExecutionId :=
  (queue.userSets.get clock userId).getD ∅

/-- Change the active set of a user, when there is one. -/
def changeUserSet (queue : QueueStore) (clock : Nat) (userId : UserId)
    (change : SortedSet ExecutionId → SortedSet ExecutionId) : QueueStore :=
  { queue with
    userSets := (queue.userSets.setIfPresent clock userId
      (change (queue.userSet clock userId))).2 }

/-- The queue after a slot was reserved. -/
def admitUser (queue : QueueStore) (clock : Nat) (userId : UserId)
    (executionId : ExecutionId) (now : Nat) : QueueStore :=
  { queue with
    userSets := queue.userSets.set clock userId
      (((queue.userSet clock userId).prune now).add executionId
        (now + seconds eventTtl)) (seconds eventTtl)
    owners := queue.owners.set clock executionId userId (seconds eventTtl)
    reservations := Function.update queue.reservations executionId
      (some (.held userId)) }

/-- `_RESERVE_USER_SLOT_LUA`. -/
def reserveUserSlot (queue : QueueStore) (clock : Nat) (userId : UserId)
    (executionId : ExecutionId) (now limit : Nat) : Bool × QueueStore :=
  if limit ≤ ((queue.userSet clock userId).prune now).card then
    (false, queue.changeUserSet clock userId fun set => set.prune now)
  else (true, queue.admitUser clock userId executionId now)

/-- The queue after a release ended: the reservation of the execution, if it
had one, is released. -/
def noteRelease (queue : QueueStore) (executionId : ExecutionId) :
    QueueStore :=
  { queue with
    reservations := Function.update queue.reservations executionId
      ((queue.reservations executionId).map fun _ => .released) }

/-- The owner of an execution; without one its release ends here. -/
def readOwner (queue : QueueStore) (clock : Nat)
    (executionId : ExecutionId) : Option UserId × QueueStore :=
  match queue.owners.get clock executionId with
  | some userId => (some userId, queue)
  | none => (none, queue.noteRelease executionId)

/-- The pipeline of `release_user_slot`. -/
def dropUserSlot (queue : QueueStore) (clock : Nat) (userId : UserId)
    (executionId : ExecutionId) : QueueStore :=
  let removed := queue.changeUserSet clock userId fun set =>
    set.remove executionId
  { removed.noteRelease executionId with
    owners := (queue.owners.delete clock executionId).2 }

/-- The pipeline of `enqueue`. -/
def enqueue (queue : QueueStore) (clock : Nat)
    (event : ExecutionRequestedEvent) (score : Nat) : QueueStore :=
  { queue with
    pending := Function.update queue.pending event.priority
      ((queue.pending event.priority).add event.executionId score)
    events := queue.events.set clock event.executionId event
      (seconds eventTtl)
    enqueued := event.executionId :: queue.enqueued }

/-- The first execution of the first pending set that has one. -/
def popPending (pending : QueuePriority → SortedSet ExecutionId) :
    List QueuePriority →
      Option (QueuePriority × (Σ _ : ExecutionId, Nat) ×
        SortedSet ExecutionId)
  | [] => none
  | priority :: priorities =>
      match (pending priority).popMin with
      | some (entry, rest) => some (priority, entry, rest)
      | none => popPending pending priorities

/-- `_TRY_SCHEDULE_LUA`: drop the running slots that ran out, and when there
is room hand out the first pending execution; the answer is its id, the time
of its enqueue and the index of its priority. -/
def trySchedule (queue : QueueStore) (maxActive now deadline : Nat) :
    Option (ExecutionId × Nat × Nat) × QueueStore :=
  let running := queue.running.prune now
  if maxActive ≤ running.card then (none, { queue with running := running })
  else match popPending queue.pending priorityOrder with
    | none => (none, { queue with running := running })
    | some (priority, entry, rest) =>
        (some (entry.1, entry.2, priorityOrder.idxOf priority),
          { queue with
            pending := Function.update queue.pending priority rest
            running := running.add entry.1 deadline
            handedOut := entry.1 :: queue.handedOut
            provisional := insert entry.1 queue.provisional })

/-- The deadline update of `try_schedule`, which adds no member. -/
def moveDeadlines (queue : QueueStore) (clock : Nat)
    (executionId : ExecutionId) (userId : UserId) (deadline : Nat) :
    QueueStore :=
  { queue.changeUserSet clock userId fun set =>
      set.addExisting executionId deadline with
    running := queue.running.addExisting executionId deadline
    provisional := queue.provisional.erase executionId }

/-- `ZREM` on the running set. -/
def dropRunning (queue : QueueStore) (executionId : ExecutionId) :
    QueueStore :=
  { queue with
    running := queue.running.remove executionId
    provisional := queue.provisional.erase executionId }

/-- The pipeline of `release`. -/
def release (queue : QueueStore) (clock : Nat) (executionId : ExecutionId) :
    QueueStore :=
  { queue.dropRunning executionId with
    events := (queue.events.delete clock executionId).2 }

/-- The pending sets after an execution moved from one to another. -/
def movePending (pending : QueuePriority → SortedSet ExecutionId)
    (executionId : ExecutionId) (priority newPriority : QueuePriority)
    (score : Nat) : QueuePriority → SortedSet ExecutionId :=
  let removed := Function.update pending priority
    ((pending priority).remove executionId)
  Function.update removed newPriority
    ((removed newPriority).add executionId score)

/-- `_UPDATE_PRIORITY_LUA`: move the execution out of the first pending set
that has it and keep the time of its enqueue. -/
def updatePriority (queue : QueueStore) (executionId : ExecutionId)
    (newPriority : QueuePriority) : Bool × QueueStore :=
  let found := priorityOrder.findSome? fun priority =>
    ((queue.pending priority).score executionId).map fun score =>
      (priority, score)
  match found with
  | none => (false, queue)
  | some (priority, score) =>
      (true,
        { queue with
          pending := movePending queue.pending executionId priority
            newPriority score })

/-- Whether an execution is in some pending set. -/
def isPending (queue : QueueStore) (executionId : ExecutionId) : Bool :=
  priorityOrder.any fun priority =>
    decide (executionId ∈ queue.pending priority)

/-- The pipeline of `remove`; the answer says whether the execution was
pending or running. -/
def remove (queue : QueueStore) (clock : Nat) (executionId : ExecutionId) :
    Bool × QueueStore :=
  (queue.isPending executionId || decide (executionId ∈ queue.running),
    { queue.release clock executionId with
      pending := fun priority =>
        (queue.pending priority).remove executionId })

/-- The depth of the queue and how many running slots have not run out. -/
def status (queue : QueueStore) (now : Nat) : Nat × Nat :=
  ((priorityOrder.map fun priority => (queue.pending priority).card).sum,
    (queue.running.entries.filter fun entry => now ≤ entry.2).length)

end QueueStore

/-! ### The commands of the queue service -/

/-- What the queue service awaits.  Each command runs at once. -/
inductive QueueCommand where
  | reserveUserSlot (userId : UserId) (executionId : ExecutionId)
      (now limit : Nat)
  | owner (executionId : ExecutionId)
  | dropUserSlot (userId : UserId) (executionId : ExecutionId)
  | enqueue (event : ExecutionRequestedEvent) (score : Nat)
  | rank (priority : QueuePriority) (executionId : ExecutionId)
  | trySchedule (maxActive now deadline : Nat)
  | event (executionId : ExecutionId)
  | dropRunning (executionId : ExecutionId)
  | moveDeadlines (executionId : ExecutionId) (userId : UserId)
      (deadline : Nat)
  | release (executionId : ExecutionId)
  | updatePriority (executionId : ExecutionId) (newPriority : QueuePriority)
  | remove (executionId : ExecutionId)
  | status (now : Nat)

abbrev QueueReply : QueueCommand → Type
  | .reserveUserSlot .. => Bool
  | .owner _ => Option UserId
  | .dropUserSlot .. => Unit
  | .enqueue .. => Unit
  | .rank .. => Option Nat
  | .trySchedule .. => Option (ExecutionId × Nat × Nat)
  | .event _ => Option ExecutionRequestedEvent
  | .dropRunning _ => Unit
  | .moveDeadlines .. => Unit
  | .release _ => Unit
  | .updatePriority .. => Bool
  | .remove _ => Bool
  | .status _ => Nat × Nat

/-- A command of the queue service that goes through. -/
def QueueStore.perform (queue : QueueStore) (clock : Nat) :
    (command : QueueCommand) → QueueReply command × QueueStore
  | .reserveUserSlot userId executionId now limit =>
      queue.reserveUserSlot clock userId executionId now limit
  | .owner executionId => queue.readOwner clock executionId
  | .dropUserSlot userId executionId =>
      ((), queue.dropUserSlot clock userId executionId)
  | .enqueue event score => ((), queue.enqueue clock event score)
  | .rank priority executionId =>
      ((queue.pending priority).rank executionId, queue)
  | .trySchedule maxActive now deadline =>
      queue.trySchedule maxActive now deadline
  | .event executionId => (queue.events.get clock executionId, queue)
  | .dropRunning executionId => ((), queue.dropRunning executionId)
  | .moveDeadlines executionId userId deadline =>
      ((), queue.moveDeadlines clock executionId userId deadline)
  | .release executionId => ((), queue.release clock executionId)
  | .updatePriority executionId newPriority =>
      queue.updatePriority executionId newPriority
  | .remove executionId => queue.remove clock executionId
  | .status now => (queue.status now, queue)

namespace QueueStore

theorem popPending_eq_some
    {pending : QueuePriority → SortedSet ExecutionId}
    {priorities : List QueuePriority} {priority : QueuePriority}
    {entry : Σ _ : ExecutionId, Nat} {rest : SortedSet ExecutionId}
    (popped : popPending pending priorities = some (priority, entry, rest)) :
    (pending priority).popMin = some (entry, rest) := by
  induction priorities with
  | nil => cases popped
  | cons head tail inductionHypothesis =>
      simp only [popPending] at popped
      split at popped
      · next first =>
          cases popped
          exact first
      · exact inductionHypothesis popped

private theorem popPending_eq_none
    {pending : QueuePriority → SortedSet ExecutionId}
    {priorities : List QueuePriority}
    (empty : popPending pending priorities = none) :
    ∀ priority ∈ priorities, (pending priority).entries = [] := by
  induction priorities with
  | nil => simp
  | cons head tail inductionHypothesis =>
      simp only [popPending] at empty
      split at empty
      · cases empty
      · next none =>
          intro priority member
          rcases List.mem_cons.mp member with rfl | member
          · exact SortedSet.popMin_eq_none.mp none
          · exact inductionHypothesis empty priority member

/-- No pending set of a higher priority than the popped one has anything. -/
theorem popPending_first {pending : QueuePriority → SortedSet ExecutionId}
    {priorities : List QueuePriority} {priority other : QueuePriority}
    {entry : Σ _ : ExecutionId, Nat} {rest : SortedSet ExecutionId}
    (popped : popPending pending priorities = some (priority, entry, rest))
    (waits : (pending other).entries ≠ []) :
    priorities.idxOf priority ≤ priorities.idxOf other := by
  induction priorities with
  | nil => cases popped
  | cons head tail inductionHypothesis =>
      simp only [popPending] at popped
      split at popped
      · cases popped
        simp
      · next none =>
          have notOther : head ≠ other := by
            rintro rfl
            exact waits (SortedSet.popMin_eq_none.mp none)
          have notPopped : head ≠ priority := by
            rintro rfl
            cases none.symm.trans (popPending_eq_some popped)
          rw [List.idxOf_cons_ne _ notPopped, List.idxOf_cons_ne _ notOther]
          exact Nat.succ_le_succ (inductionHypothesis popped)

/-- The queue after the script handed out an execution of a pending set. -/
def handOut (queue : QueueStore) (priority : QueuePriority)
    (executionId : ExecutionId) (now deadline : Nat) : QueueStore :=
  { queue with
    pending := Function.update queue.pending priority
      ((queue.pending priority).remove executionId)
    running := (queue.running.prune now).add executionId deadline
    handedOut := executionId :: queue.handedOut
    provisional := insert executionId queue.provisional }

/-- What the script does: it drops the running slots that ran out, and hands
out a pending execution only when there is room, and nothing only when there is
none or nothing is pending. -/
theorem trySchedule_cases (queue : QueueStore)
    (maxActive now deadline : Nat) :
    (queue.trySchedule maxActive now deadline =
        (none, { queue with running := queue.running.prune now }) ∧
      (maxActive ≤ (queue.running.prune now).card ∨
        ∀ priority, (queue.pending priority).entries = [])) ∨
    ∃ priority executionId score,
      (queue.running.prune now).card < maxActive ∧
      (queue.pending priority).score executionId = some score ∧
      queue.trySchedule maxActive now deadline =
        (some (executionId, score, priorityOrder.idxOf priority),
          queue.handOut priority executionId now deadline) := by
  unfold trySchedule
  by_cases full : maxActive ≤ (queue.running.prune now).card
  · left
    simp [full]
  · simp only [if_neg full]
    cases popped : popPending queue.pending priorityOrder with
    | none =>
        left
        exact ⟨rfl, .inr fun priority =>
          popPending_eq_none popped priority (mem_priorityOrder priority)⟩
    | some found =>
        obtain ⟨priority, entry, rest⟩ := found
        obtain ⟨scored, rfl⟩ :=
          SortedSet.popMin_eq_some (popPending_eq_some popped)
        right
        exact ⟨priority, entry.1, entry.2, by omega, scored, rfl⟩

/-- What the priority script does: it moves an execution between two pending
sets, or finds it in none. -/
theorem updatePriority_cases (queue : QueueStore) (executionId : ExecutionId)
    (newPriority : QueuePriority) :
    (queue.updatePriority executionId newPriority = (false, queue) ∧
      ∀ priority, executionId ∉ queue.pending priority) ∨
    ∃ priority score, (queue.pending priority).score executionId = some score ∧
      queue.updatePriority executionId newPriority =
        (true,
          { queue with
            pending := movePending queue.pending executionId priority
              newPriority score }) := by
  unfold updatePriority
  cases found : priorityOrder.findSome? fun priority =>
      ((queue.pending priority).score executionId).map fun score =>
        (priority, score) with
  | none =>
      left
      refine ⟨rfl, fun priority => ?_⟩
      have nowhere := List.findSome?_eq_none_iff.mp found priority
        (mem_priorityOrder priority)
      exact SortedSet.score_eq_none.mp (Option.map_eq_none_iff.mp nowhere)
  | some place =>
      right
      obtain ⟨priority, -, located⟩ := List.exists_of_findSome?_eq_some found
      obtain ⟨score, scored, rfl⟩ := Option.map_eq_some_iff.mp located
      exact ⟨priority, score, scored, rfl⟩

/-! ### The active sets of users -/

section UserSets

variable {queue : QueueStore} {clock now : Nat} {userId other : UserId}
  {executionId : ExecutionId}

/-- An active set stays what it is while its key lives. -/
theorem userSet_later {later : Nat} (ordered : clock ≤ later)
    (alive : queue.userSets.live later userId ≠ none) :
    queue.userSet later userId = queue.userSet clock userId := by
  obtain ⟨entry, found⟩ := Option.ne_none_iff_exists'.mp alive
  have earlier := ExpiringStore.live_earlier ordered found
  simp [userSet, ExpiringStore.get, found, earlier]

/-- A change of one active set that makes nothing of an empty one changes what
is read of that set only. -/
theorem userSet_changeUserSet
    {change : SortedSet ExecutionId → SortedSet ExecutionId}
    (empty : change ∅ = ∅) :
    (queue.changeUserSet clock userId change).userSet clock other =
      if other = userId then change (queue.userSet clock userId)
      else queue.userSet clock other := by
  simp only [userSet, changeUserSet, ExpiringStore.get_setIfPresent]
  by_cases same : other = userId
  · subst same
    cases queue.userSets.get clock other <;> simp [empty]
  · simp [same]

theorem userSet_admitUser :
    (queue.admitUser clock userId executionId now).userSet clock other =
      if other = userId then
        ((queue.userSet clock userId).prune now).add executionId
          (now + seconds eventTtl)
      else queue.userSet clock other := by
  simp only [userSet, admitUser, ExpiringStore.get_set]
  by_cases same : other = userId <;> simp [same]

theorem userSet_dropUserSlot :
    (queue.dropUserSlot clock userId executionId).userSet clock other =
      if other = userId then (queue.userSet clock userId).remove executionId
      else queue.userSet clock other :=
  userSet_changeUserSet rfl

theorem userSet_moveDeadlines {deadline : Nat} :
    (queue.moveDeadlines clock executionId userId deadline).userSet clock
        other =
      if other = userId then
        (queue.userSet clock userId).addExisting executionId deadline
      else queue.userSet clock other :=
  @userSet_changeUserSet queue clock userId other
    (fun set => set.addExisting executionId deadline)
    (SortedSet.addExisting_of_notMem (AList.notMem_empty executionId))

/-- What the reservation script does: it prunes the user's set, and admits the
execution only when there is room. -/
theorem reserveUserSlot_cases (queue : QueueStore) (clock : Nat)
    (userId : UserId) (executionId : ExecutionId) (now limit : Nat) :
    (queue.reserveUserSlot clock userId executionId now limit =
        (false, queue.changeUserSet clock userId fun set => set.prune now) ∧
      limit ≤ ((queue.userSet clock userId).prune now).card) ∨
    (queue.reserveUserSlot clock userId executionId now limit =
        (true, queue.admitUser clock userId executionId now) ∧
      ((queue.userSet clock userId).prune now).card < limit) := by
  unfold reserveUserSlot
  split
  · next full => exact .inl ⟨rfl, full⟩
  · next room => exact .inr ⟨rfl, by omega⟩

end UserSets

/-! ### Where an execution waits -/

section Places

variable {executionId : ExecutionId}

/-- A move of one execution leaves the others where they are. -/
theorem movePending_other {pending : QueuePriority → SortedSet ExecutionId}
    {priority newPriority other : QueuePriority} {since : Nat}
    {member : ExecutionId} (different : member ≠ executionId) :
    (movePending pending executionId priority newPriority since other).score
      member = (pending other).score member := by
  have removed : ((Function.update pending priority
      ((pending priority).remove executionId)) other).score member =
        (pending other).score member := by
    by_cases old : other = priority
    · subst old
      simp [different]
    · rw [Function.update_of_ne old]
  by_cases its : other = newPriority
  · subst its
    simp [movePending, different, removed]
  · simp [movePending, Function.update_of_ne its, removed]

/-- Whether a command, answered so, hands out an execution. -/
def HandsOut (executionId : ExecutionId) :
    (command : QueueCommand) → QueueReply command → Prop
  | .trySchedule .., some (handed, _, _) => handed = executionId
  | _, _ => False

/-- An execution is where it was in the pending sets, and its stored request
is what it was. -/
structure SamePlace (executionId : ExecutionId) (queue next : QueueStore) :
    Prop where
  pending : ∀ priority, (next.pending priority).score executionId =
    (queue.pending priority).score executionId
  event : next.events executionId = queue.events executionId

/-- An execution that is in no other pending set leaves the one it is in. -/
structure LeavesPlace (executionId : ExecutionId) (queue next : QueueStore) :
    Prop where
  was : ∃ priority, executionId ∈ queue.pending priority ∧
    ∀ other, executionId ∈ next.pending other ↔
      other ≠ priority ∧ executionId ∈ queue.pending other
  event : next.events executionId = queue.events executionId

/-- An execution moves from one pending set to another. -/
structure MovesPlace (executionId : ExecutionId) (queue next : QueueStore) :
    Prop where
  was : ∃ priority newPriority, executionId ∈ queue.pending priority ∧
    ∀ other, executionId ∈ next.pending other ↔ other = newPriority ∨
      other ≠ priority ∧ executionId ∈ queue.pending other
  event : next.events executionId = queue.events executionId

private theorem handOut_place (queue : QueueStore) {priority : QueuePriority}
    {handed : ExecutionId} {now deadline : Nat}
    (scored : handed ∈ queue.pending priority) :
    (executionId ≠ handed → SamePlace executionId queue
      (queue.handOut priority handed now deadline)) ∧
    LeavesPlace handed queue (queue.handOut priority handed now deadline) := by
  refine ⟨fun different => ⟨fun other => ?_, rfl⟩, ⟨priority, scored,
    fun other => ?_⟩, rfl⟩
  · by_cases same : other = priority
    · subst same
      simp [handOut, different]
    · simp only [handOut, Function.update_of_ne same]
  · by_cases same : other = priority
    · subst same
      simp [handOut]
    · simp only [handOut, Function.update_of_ne same]
      simp [same]

private theorem movePending_place {queue next : QueueStore}
    {priority newPriority : QueuePriority} {since : Nat}
    (scored : executionId ∈ queue.pending priority)
    (moved : next.pending = movePending queue.pending executionId priority
      newPriority since)
    (events : next.events = queue.events) :
    MovesPlace executionId queue next := by
  refine ⟨⟨priority, newPriority, scored, fun other => ?_⟩, by rw [events]⟩
  rw [moved]
  by_cases its : other = newPriority
  · subst its
    simp [movePending]
  · simp only [movePending, Function.update_of_ne its]
    by_cases old : other = priority
    · subst old
      simp [its]
    · rw [Function.update_of_ne old]
      simp [its, old]

/-- What a command of the queue does to the place of one execution. -/
theorem perform_place (queue : QueueStore) (clock : Nat)
    (command : QueueCommand) (executionId : ExecutionId) :
    (SamePlace executionId queue (queue.perform clock command).2 ∧
      ¬ HandsOut executionId command (queue.perform clock command).1) ∨
    (∃ event score, command = .enqueue event score ∧
      event.executionId = executionId) ∨
    (HandsOut executionId command (queue.perform clock command).1 ∧
      LeavesPlace executionId queue (queue.perform clock command).2) ∨
    (∃ newPriority, command = .updatePriority executionId newPriority ∧
      MovesPlace executionId queue (queue.perform clock command).2) ∨
    command = .remove executionId ∨ command = .release executionId := by
  cases command with
  | enqueue event score =>
      by_cases same : event.executionId = executionId
      · exact .inr (.inl ⟨event, score, rfl, same⟩)
      · have different := Ne.symm same
        refine .inl ⟨⟨fun priority => ?_, ?_⟩, id⟩
        · by_cases its : priority = event.priority
          · subst its
            simp [perform, enqueue, different]
          · simp only [perform, enqueue, Function.update_of_ne its]
        · exact Function.update_of_ne different ..
  | trySchedule maxActive now deadline =>
      rcases queue.trySchedule_cases maxActive now deadline with
        ⟨nothing, -⟩ | ⟨priority, handed, score, -, scored, popped⟩
      · simp only [perform, nothing]
        exact .inl ⟨⟨fun _ => rfl, rfl⟩, id⟩
      · simp only [perform, popped]
        obtain ⟨others, leaves⟩ :=
          @handOut_place executionId queue priority handed now deadline
            (SortedSet.mem_iff_score.mpr ⟨score, scored⟩)
        by_cases same : handed = executionId
        · subst same
          exact .inr (.inr (.inl ⟨rfl, leaves⟩))
        · exact .inl ⟨others (Ne.symm same), same⟩
  | updatePriority other newPriority =>
      by_cases same : other = executionId
      · subst same
        rcases queue.updatePriority_cases other newPriority with
          ⟨nothing, -⟩ | ⟨priority, score, scored, moved⟩
        · simp only [perform, nothing]
          exact .inl ⟨⟨fun _ => rfl, rfl⟩, id⟩
        · simp only [perform, moved]
          exact .inr (.inr (.inr (.inl ⟨newPriority, rfl, movePending_place
            (SortedSet.mem_iff_score.mpr ⟨score, scored⟩) rfl rfl⟩)))
      · have different := Ne.symm same
        rcases queue.updatePriority_cases other newPriority with
          ⟨nothing, -⟩ | ⟨priority, score, scored, moved⟩
        · simp only [perform, nothing]
          exact .inl ⟨⟨fun _ => rfl, rfl⟩, id⟩
        · simp only [perform, moved]
          exact .inl ⟨⟨fun _ => movePending_other different, rfl⟩, id⟩
  | remove other =>
      by_cases same : other = executionId
      · exact .inr (.inr (.inr (.inr (.inl (same ▸ rfl)))))
      · exact .inl ⟨⟨fun _ => SortedSet.score_remove_other (Ne.symm same),
          Function.update_of_ne (Ne.symm same) ..⟩, id⟩
  | release other =>
      by_cases same : other = executionId
      · exact .inr (.inr (.inr (.inr (.inr (same ▸ rfl)))))
      · exact .inl ⟨⟨fun _ => rfl,
          Function.update_of_ne (Ne.symm same) ..⟩, id⟩
  | reserveUserSlot userId other now limit =>
      rcases queue.reserveUserSlot_cases clock userId other now limit with
        ⟨full, -⟩ | ⟨room, -⟩
      · simp only [perform, full]
        exact .inl ⟨⟨fun _ => rfl, rfl⟩, id⟩
      · simp only [perform, room]
        exact .inl ⟨⟨fun _ => rfl, rfl⟩, id⟩
  | owner other =>
      simp only [perform, readOwner]
      split <;> exact .inl ⟨⟨fun _ => rfl, rfl⟩, id⟩
  | _ => exact .inl ⟨⟨fun _ => rfl, rfl⟩, id⟩

end Places

end QueueStore

end Integr8s
