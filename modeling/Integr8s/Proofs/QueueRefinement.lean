/-
Module: Integr8s.Proofs.QueueRefinement
Purpose: The pending sets of the execution queue refine one priority queue:
  what the queue's callers do to them, in whatever order and however it goes,
  is a run of the abstract queue, and every execution has the place there that
  it has in the pending sets.
Trusted boundary: none
Main exports: QueueRefinement.observe, QueueRefinement.Refines,
  QueueRefinement.pending_sets_refine_queue
-/
import Integr8s.Lib.PriorityQueue
import Integr8s.Proofs.QueueCaps

namespace Integr8s

namespace QueueRefinement

open QueueCaps (start)

/-! ### The abstract queue of the pending sets -/

/-- The place of a priority in `PRIORITY_ORDER`: the most urgent one is 0. -/
def urgency (priority : QueuePriority) : Nat := priorityOrder.idxOf priority

private theorem urgency_injective : Function.Injective urgency := by
  intro first second
  cases first <;> cases second <;> decide

/-- The more urgent priority comes first. -/
instance : LinearOrder QueuePriority :=
  LinearOrder.lift' urgency urgency_injective

/-- The queue that the pending sets implement, with times in microseconds. -/
abbrev Waiting : Type := PriorityQueue ExecutionId QueuePriority Nat

abbrev Happening : Type :=
  PriorityQueue.Operation ExecutionId QueuePriority Nat

/-- What a command of the queue's keys that takes effect is to the abstract
queue. -/
def operationOf (queue : QueueStore) : QueueCommand → Option Happening
  | .enqueue event score =>
      some (.arrive event.executionId ⟨event.priority, score⟩)
  | .trySchedule maxActive now deadline =>
      (queue.trySchedule maxActive now deadline).1.map fun popped =>
        .serve popped.1
  | .updatePriority executionId newPriority =>
      some (.promote executionId newPriority)
  | .remove executionId => some (.withdraw executionId)
  | _ => none

/-- What a step of the backend is to the abstract queue. -/
def observe (state : Backend) :
    Move Caller Choice WorldEvent → Option Happening
  | .caller caller choice =>
      match state.awaited caller, choice.outcome with
      | some (.queue _), .fails _ => none
      | some (.queue command), _ => operationOf state.shared.queue command
      | _, _ => none
  | _ => none

/-- Every execution is enqueued once only. -/
def EnqueuesFresh (state : Backend) (move : Move Caller Choice WorldEvent) :
    Prop :=
  ∀ caller choice event score, move = .caller caller choice →
    state.awaited caller = some (.queue (.enqueue event score)) →
      event.executionId ∉ state.shared.queue.enqueued

/-- The pending sets hold just the executions that wait, each in the set of
its priority and with the time of its arrival as its score. -/
structure Refines (queue : QueueStore) (waiting : Waiting) : Prop where
  score : ∀ priority executionId since,
    (queue.pending priority).score executionId = some since ↔
      waiting.waiting executionId = some ⟨priority, since⟩
  arrived : ∀ executionId,
    executionId ∈ waiting.arrived ↔ executionId ∈ queue.enqueued
  orderly : waiting.Orderly

/-! ### Each command is an operation of the queue -/

section Steps

variable {queue : QueueStore} {waiting : Waiting}
  {executionId : ExecutionId} {priority : QueuePriority} {since : Nat}

private theorem refines_empty : Refines {} {} where
  score priority executionId since := by simp
  arrived executionId := by simp
  orderly := PriorityQueue.orderly_empty

/-- An execution is in at most one pending set. -/
theorem Refines.disjoint (refines : Refines queue waiting)
    {first second : QueuePriority}
    (inFirst : executionId ∈ queue.pending first)
    (inSecond : executionId ∈ queue.pending second) : first = second := by
  obtain ⟨firstScore, scored⟩ := SortedSet.mem_iff_score.mp inFirst
  obtain ⟨secondScore, otherScored⟩ := SortedSet.mem_iff_score.mp inSecond
  have same := ((refines.score _ _ _).mp scored).symm.trans
    ((refines.score _ _ _).mp otherScored)
  cases same
  rfl

/-- What is in no pending set does not wait. -/
theorem Refines.absent (refines : Refines queue waiting)
    (nowhere : ∀ priority, executionId ∉ queue.pending priority) :
    waiting.waiting executionId = none := by
  cases found : waiting.waiting executionId with
  | none => rfl
  | some ticket =>
      have scored :=
        (refines.score ticket.priority executionId ticket.since).mpr found
      exact absurd (SortedSet.mem_iff_score.mpr ⟨_, scored⟩) (nowhere _)

/-- An execution that waits is in the pending set of its priority and in no
other. -/
theorem Refines.notMem (refines : Refines queue waiting)
    (scored : (queue.pending priority).score executionId = some since)
    {other : QueuePriority} (different : other ≠ priority) :
    executionId ∉ queue.pending other := fun inside =>
  different
    (refines.disjoint inside (SortedSet.mem_iff_score.mpr ⟨_, scored⟩))

/-- A queue with the same pending sets and the same enqueues refines the same
queue. -/
theorem Refines.keep (refines : Refines queue waiting) {next : QueueStore}
    (pending : next.pending = queue.pending)
    (enqueued : next.enqueued = queue.enqueued) : Refines next waiting where
  score := pending ▸ refines.score
  arrived := enqueued ▸ refines.arrived
  orderly := refines.orderly

/-- Enqueueing an execution lets it arrive. -/
theorem Refines.enqueue (refines : Refines queue waiting) (clock : Nat)
    {event : ExecutionRequestedEvent} {score : Nat}
    (new : event.executionId ∉ queue.enqueued) :
    ∃ after, PriorityQueue.machine.step waiting
        (.arrive event.executionId ⟨event.priority, score⟩) = some after ∧
      Refines (queue.enqueue clock event score) after := by
  have absent : event.executionId ∉ waiting.arrived := fun arrived =>
    new ((refines.arrived _).mp arrived)
  have stepped : PriorityQueue.machine.step waiting
      (.arrive event.executionId ⟨event.priority, score⟩) =
        some (waiting.join event.executionId ⟨event.priority, score⟩) :=
    if_neg absent
  refine ⟨_, stepped, ?_, ?_, refines.orderly.step stepped⟩
  · intro priority executionId since
    by_cases same : executionId = event.executionId
    · subst same
      have gone : ∀ priority,
          (queue.pending priority).score event.executionId = none := by
        intro priority
        cases scored : (queue.pending priority).score event.executionId with
        | none => rfl
        | some since =>
            exact absurd
              (refines.orderly _ _ ((refines.score _ _ _).mp scored)) absent
      by_cases its : priority = event.priority
      · subst its
        simp [QueueStore.enqueue]
      · simp [QueueStore.enqueue, Function.update_of_ne its, gone,
          Ne.symm its]
    · rw [PriorityQueue.join_other same,
        ← refines.score priority executionId since]
      by_cases its : priority = event.priority
      · subst its
        simp [QueueStore.enqueue, same]
      · simp [QueueStore.enqueue, Function.update_of_ne its]
  · intro executionId
    simp [QueueStore.enqueue, PriorityQueue.join, refines.arrived]

/-- Taking an execution out of the pending sets takes it out of the queue. -/
theorem Refines.leave (refines : Refines queue waiting) {next : QueueStore}
    (gone : ∀ priority, (next.pending priority).score executionId = none)
    (others : ∀ priority other, other ≠ executionId →
      (next.pending priority).score other =
        (queue.pending priority).score other)
    (enqueued : next.enqueued = queue.enqueued) :
    Refines next (waiting.leave executionId) where
  score priority other since := by
    by_cases same : other = executionId
    · subst same
      simp [gone]
    · rw [PriorityQueue.leave_other same, others priority other same,
        refines.score]
  arrived other := by
    rw [enqueued]
    exact refines.arrived other
  orderly := by
    have stepped : PriorityQueue.machine.step waiting
        (.withdraw executionId) = some (waiting.leave executionId) := rfl
    exact refines.orderly.step stepped

/-- Moving an execution to another pending set promotes it and keeps its
time. -/
theorem Refines.updatePriority (refines : Refines queue waiting)
    (executionId : ExecutionId) (newPriority : QueuePriority) :
    Refines (queue.updatePriority executionId newPriority).2
      (waiting.reorder executionId newPriority) := by
  have stepped : PriorityQueue.machine.step waiting
      (.promote executionId newPriority) =
        some (waiting.reorder executionId newPriority) := rfl
  have orderly := refines.orderly.step stepped
  rcases queue.updatePriority_cases executionId newPriority with
    ⟨nothing, nowhere⟩ | ⟨priority, score, scored, moved⟩
  · rw [nothing]
    have absent := refines.absent nowhere
    refine ⟨?_, refines.arrived, orderly⟩
    intro priority other since
    by_cases same : other = executionId
    · subst same
      rw [PriorityQueue.reorder_self, refines.score, absent]
      simp
    · rw [PriorityQueue.reorder_other same, refines.score]
  · rw [moved]
    have waits := (refines.score _ _ _).mp scored
    refine ⟨?_, refines.arrived, orderly⟩
    intro other member since
    by_cases same : member = executionId
    · subst same
      rw [PriorityQueue.reorder_self, waits]
      by_cases its : other = newPriority
      · subst its
        simp [QueueStore.movePending]
      · have gone : ((Function.update queue.pending priority
            ((queue.pending priority).remove member)) other).score member =
              none := by
          by_cases old : other = priority
          · subst old
            simp
          · rw [Function.update_of_ne old]
            exact SortedSet.score_eq_none.mpr (refines.notMem scored old)
        simp [QueueStore.movePending, Function.update_of_ne its, gone,
          Ne.symm its]
    · rw [PriorityQueue.reorder_other same, ← refines.score,
        QueueStore.movePending_other same]

/-- What the script pops is in the pending set of its priority, with the time
of its enqueue, and nothing that is pending comes before it. -/
theorem trySchedule_first {maxActive now deadline index : Nat}
    (popped : (queue.trySchedule maxActive now deadline).1 =
      some (executionId, since, index)) :
    ∃ priority, index = urgency priority ∧
      (queue.pending priority).score executionId = some since ∧
      ∀ other member score,
        (queue.pending other).score member = some score →
          (Ticket.mk priority since).place executionId ≤
            (Ticket.mk other score).place member := by
  simp only [QueueStore.trySchedule] at popped
  split at popped
  · cases popped
  · split at popped
    · cases popped
    · next priority entry rest found =>
        cases popped
        have taken := QueueStore.popPending_eq_some found
        refine ⟨priority, rfl, (SortedSet.popMin_eq_some taken).1, ?_⟩
        intro other member score scored
        have nonempty : (queue.pending other).entries ≠ [] := by
          intro empty
          have member := AList.mem_lookup_iff.mp scored
          simp [empty] at member
        have urgent : priority ≤ other :=
          QueueStore.popPending_first found nonempty
        rcases lt_or_eq_of_le urgent with before | same
        · exact (Prod.Lex.toLex_lt_toLex.mpr (.inl before)).le
        · subst same
          exact Prod.Lex.toLex_le_toLex.mpr
            (.inr ⟨rfl, SortedSet.popMin_le taken scored⟩)

/-- A pop serves the first execution of the queue. -/
theorem Refines.trySchedule (refines : Refines queue waiting)
    {maxActive now deadline index : Nat}
    (popped : (queue.trySchedule maxActive now deadline).1 =
      some (executionId, since, index)) :
    waiting.IsFirst executionId ∧
      Refines (queue.trySchedule maxActive now deadline).2
        (waiting.leave executionId) := by
  obtain ⟨urgent, -, itsScore, least⟩ := trySchedule_first popped
  constructor
  · refine ⟨_, (refines.score _ _ _).mp itsScore, ?_⟩
    intro other ticket waits
    exact least _ _ _ ((refines.score _ _ _).mpr waits)
  rcases queue.trySchedule_cases maxActive now deadline with
    ⟨none, -⟩ | ⟨priority, handed, score, -, scored, same⟩
  · cases (congrArg Prod.fst none).symm.trans popped
  rw [same] at popped ⊢
  cases popped
  apply refines.leave
  · intro other
    by_cases its : other = priority
    · subst its
      simp [QueueStore.handOut]
    · simp only [QueueStore.handOut, Function.update_of_ne its]
      exact SortedSet.score_eq_none.mpr (refines.notMem scored its)
  · intro other member different
    by_cases its : other = priority
    · subst its
      simp [QueueStore.handOut, different]
    · simp only [QueueStore.handOut, Function.update_of_ne its]
  · rfl

/-- Removing an execution withdraws it. -/
theorem Refines.remove (refines : Refines queue waiting) (clock : Nat) :
    Refines (queue.remove clock executionId).2
      (waiting.leave executionId) := by
  apply refines.leave
  · intro priority
    exact SortedSet.score_remove_self
  · intro priority other different
    exact SortedSet.score_remove_other different
  · rfl

/-- A command that is nothing to the abstract queue leaves the pending sets as
they are. -/
theorem Refines.silent (refines : Refines queue waiting) (clock : Nat)
    {command : QueueCommand} (nothing : operationOf queue command = none) :
    Refines (queue.perform clock command).2 waiting := by
  cases command with
  | enqueue event score => cases nothing
  | updatePriority executionId newPriority => cases nothing
  | remove executionId => cases nothing
  | trySchedule maxActive now deadline =>
      have none := Option.map_eq_none_iff.mp nothing
      rcases queue.trySchedule_cases maxActive now deadline with
        ⟨same, -⟩ | ⟨_, _, _, -, -, some⟩
      · simp only [QueueStore.perform, same]
        exact refines.keep rfl rfl
      · rw [some] at none
        cases none
  | reserveUserSlot userId executionId now limit =>
      rcases queue.reserveUserSlot_cases clock userId executionId now limit with
        ⟨refused, -⟩ | ⟨reserved, -⟩
      · simp only [QueueStore.perform, refused]
        exact refines.keep rfl rfl
      · simp only [QueueStore.perform, reserved]
        exact refines.keep rfl rfl
  | owner executionId =>
      simp only [QueueStore.perform, QueueStore.readOwner]
      split <;> exact refines.keep rfl rfl
  | _ => exact refines.keep rfl rfl

/-- Every other command is that step of the abstract queue. -/
theorem Refines.visible (refines : Refines queue waiting) (clock : Nat)
    {command : QueueCommand} {operation : Happening}
    (fresh : ∀ event score, command = .enqueue event score →
      event.executionId ∉ queue.enqueued)
    (observed : operationOf queue command = some operation) :
    ∃ after, PriorityQueue.machine.step waiting operation = some after ∧
      Refines (queue.perform clock command).2 after := by
  cases command with
  | enqueue event score =>
      cases observed
      exact refines.enqueue clock (fresh event score rfl)
  | updatePriority executionId newPriority =>
      cases observed
      exact ⟨_, rfl, refines.updatePriority executionId newPriority⟩
  | remove executionId =>
      cases observed
      exact ⟨_, rfl, refines.remove clock⟩
  | trySchedule maxActive now deadline =>
      obtain ⟨⟨executionId, since, index⟩, popped, rfl⟩ :=
        Option.map_eq_some_iff.mp observed
      obtain ⟨first, after⟩ := refines.trySchedule popped
      exact ⟨_, if_pos first, after⟩
  | _ => cases observed

end Steps

/-! ### Runs refine runs -/

section Runs

variable {state next : Backend} {move : Move Caller Choice WorldEvent}

private theorem observe_awaited {caller : Caller} {choice : Choice}
    {command : Command} (awaits : state.awaited caller = some command) :
    observe state (.caller caller choice) =
      match command, choice.outcome with
      | .queue _, .fails _ => none
      | .queue command, _ => operationOf state.shared.queue command
      | _, _ => none := by
  simp only [observe, awaits]
  cases command <;> cases choice.outcome <;> rfl

/-- A step leaves the queue's keys alone and is nothing to the abstract queue,
or it is a command of the queue's keys that takes effect. -/
theorem step_cases (stepped : backend.machine.step state move = some next) :
    (observe state move = none ∧ next.shared.queue = state.shared.queue) ∨
    ∃ caller choice command, move = .caller caller choice ∧
      state.awaited caller = some (.queue command) ∧
      observe state move = operationOf state.shared.queue command ∧
      next.shared.queue =
        (state.shared.queue.perform state.shared.clock command).2 := by
  cases move with
  | caller caller choice =>
      obtain ⟨coroutine, runs, moved⟩ := Option.bind_eq_some_iff.mp stepped
      obtain ⟨⟨shared, rest⟩, advanced, rfl⟩ := Option.map_eq_some_iff.mp moved
      cases coroutine with
      | done result => cases advanced
      | loop body resume =>
          cases advanced
          left
          simp [observe, Callers.awaited, runs]
      | await command resume =>
          have awaits : state.awaited caller = some command := by
            simp [Callers.awaited, runs]
          obtain ⟨⟨reply, after⟩, performed, same⟩ :=
            Option.map_eq_some_iff.mp advanced
          cases same
          have kept := (World.perform_queue performed).2
          rw [observe_awaited awaits]
          cases command with
          | queue command =>
              rcases World.perform_cases performed with
                ⟨went, did⟩ | ⟨error, -, -, ⟨failed, rfl⟩ | ⟨lost, -, rfl⟩⟩
              · rw [went]
                exact .inr ⟨caller, choice, command, rfl, awaits, rfl,
                  congrArg (fun pair => pair.2.queue) did.symm⟩
              · rw [failed]
                exact .inl ⟨rfl, rfl⟩
              · rw [lost]
                exact .inr ⟨caller, choice, command, rfl, awaits, rfl, rfl⟩
          | _ =>
              rcases kept with kept | ⟨_, impossible, -⟩
              · exact .inl ⟨rfl, kept⟩
              · cases impossible
  | environment event =>
      obtain ⟨shared, happened, rfl⟩ := Option.map_eq_some_iff.mp stepped
      rcases World.happen_cases happened with
        ⟨duration, -, rfl⟩ | ⟨executions, rfl⟩ <;> exact .inl ⟨rfl, rfl⟩
  | kill caller =>
      obtain ⟨coroutine, -, killed⟩ := Option.bind_eq_some_iff.mp stepped
      obtain ⟨shared, happened, rfl⟩ := Option.map_eq_some_iff.mp killed
      cases happened
      exact .inl ⟨rfl, rfl⟩

/-- What is observed of a run is a run of the abstract queue, and the pending
sets refine the queue that it ends with. -/
theorem run_refines {calls : Caller → QueueCall} {world : World}
    (fresh : world.queue = {}) {moves : List (Move Caller Choice WorldEvent)}
    (enqueuesFresh :
      backend.machine.Along EnqueuesFresh (start world calls) moves)
    (reached : backend.machine.run (start world calls) moves = some state) :
    ∃ waiting, PriorityQueue.machine.run ({} : Waiting)
        (backend.machine.trace observe (start world calls) moves) =
          some waiting ∧
      Refines state.shared.queue waiting := by
  have initial : Refines (start world calls).shared.queue {} := by
    rw [show (start world calls).shared.queue = {} from fresh]
    exact refines_empty
  apply backend.machine.run_simulates PriorityQueue.machine observe
    EnqueuesFresh (fun state waiting => Refines state.shared.queue waiting)
    _ _ initial enqueuesFresh reached
  · intro state move next waiting _ refines stepped silent
    rcases step_cases stepped with
      ⟨-, kept⟩ | ⟨_, _, command, -, -, observed, changed⟩
    · exact kept ▸ refines
    · rw [changed]
      exact refines.silent _ (observed.symm.trans silent)
  · intro state move next waiting operation new refines stepped visible
    rcases step_cases stepped with
      ⟨nothing, -⟩ | ⟨caller, choice, command, rfl, awaits, observed, changed⟩
    · cases nothing.symm.trans visible
    · rw [changed]
      apply refines.visible _ _ (observed.symm.trans visible)
      rintro event score rfl
      exact new caller choice event score rfl awaits

/-- The five pending sets refine one priority queue, for all orders in which
callers of the queue service, the clock and failures take turns, when every
execution is enqueued once only.  What the callers do to the sets is a run of
the abstract queue, which serves only its first execution.  An execution is in
at most one set; from its enqueue until it is popped or removed it is in the
set of the priority it got last, and only there, with the time of its enqueue;
it is popped once at most; and the script pops only what no pending execution
comes before, by priority, then by the time of the enqueue, then by id. -/
theorem pending_sets_refine_queue {calls : Caller → QueueCall} {world : World}
    (fresh : world.queue = {}) {moves : List (Move Caller Choice WorldEvent)}
    (enqueuesFresh :
      backend.machine.Along EnqueuesFresh (start world calls) moves)
    (reached : backend.machine.run (start world calls) moves = some state) :
    (∃ waiting, PriorityQueue.machine.run ({} : Waiting)
        (backend.machine.trace observe (start world calls) moves) =
          some waiting ∧
      Refines state.shared.queue waiting) ∧
    (∀ executionId first second,
      executionId ∈ state.shared.queue.pending first →
        executionId ∈ state.shared.queue.pending second → first = second) ∧
    (∀ before after executionId ticket,
      backend.machine.trace observe (start world calls) moves =
          before ++ .arrive executionId ticket :: after →
        (∀ operation ∈ after, ¬ operation.TakesOut executionId) →
        ∀ priority,
          (state.shared.queue.pending priority).score executionId =
            if priority =
                PriorityQueue.lastPriority executionId ticket.priority after
            then some ticket.since else none) ∧
    (∀ before after executionId,
      backend.machine.trace observe (start world calls) moves =
          before ++ .serve executionId :: after →
        .serve executionId ∉ after) ∧
    ∀ maxActive now deadline executionId since index,
      (state.shared.queue.trySchedule maxActive now deadline).1 =
          some (executionId, since, index) →
        ∃ priority, index = urgency priority ∧
          (state.shared.queue.pending priority).score executionId =
            some since ∧
          ∀ other member score,
            (state.shared.queue.pending other).score member = some score →
              (Ticket.mk priority since).place executionId ≤
                (Ticket.mk other score).place member := by
  obtain ⟨waiting, ran, refines⟩ := run_refines fresh enqueuesFresh reached
  refine ⟨⟨waiting, ran, refines⟩, ?_, ?_, ?_, ?_⟩
  · intro executionId first second inFirst inSecond
    exact refines.disjoint inFirst inSecond
  · intro before after executionId ticket history stays priority
    rw [history] at ran
    have waits := PriorityQueue.waits_since_arrival ran stays
    have scored := (refines.score _ _ _).mpr waits
    split
    · next same => rw [same, scored]
    · next different =>
        exact SortedSet.score_eq_none.mpr (refines.notMem scored different)
  · intro before after executionId history
    rw [history] at ran
    exact PriorityQueue.served_once PriorityQueue.orderly_empty ran
  · intro maxActive now deadline executionId since index popped
    exact trySchedule_first popped

/-- Check the freshness of what a step enqueues. -/
def enqueuesFresh? (state : Backend) : Move Caller Choice WorldEvent → Bool
  | .caller caller _ =>
      match state.awaited caller with
      | some (.queue (.enqueue event _)) =>
          decide (event.executionId ∉ state.shared.queue.enqueued)
      | _ => true
  | _ => true

private theorem enqueuesFresh_of_check
    (checked : enqueuesFresh? state move = true) :
    EnqueuesFresh state move := by
  rintro caller choice event score rfl awaits
  simpa [enqueuesFresh?, awaits] using checked

/-- Two executions are enqueued, the later one is promoted and handed out, and
the other is removed. -/
def promoteLater : Caller → QueueCall
  | 0 => .enqueue (QueueCaps.requestOf "a" "u")
  | 1 => .enqueue (QueueCaps.requestOf "b" "u")
  | 2 => .updatePriority "b" .high
  | 3 => .trySchedule 1
  | _ => .remove "a"

def promotion : List (Move Caller Choice WorldEvent) :=
  [.caller 0 {}, .environment (.tick 5), .caller 1 {}, .caller 0 {},
    .caller 1 {}, .caller 2 {}, .caller 3 {}, .caller 3 {}, .caller 4 {}]

theorem pending_sets_refine_queue_promotion :
    ∃ state, backend.machine.run (start {} promoteLater) promotion =
        some state ∧
      state.shared.queue.handedOut = ["b"] ∧
      ∃ waiting, PriorityQueue.machine.run ({} : Waiting)
          (backend.machine.trace observe (start {} promoteLater) promotion) =
            some waiting ∧
        Refines state.shared.queue waiting := by
  have ends : (backend.machine.run (start {} promoteLater) promotion).map
      (fun final => final.shared.queue.handedOut) = some ["b"] := by
    decide +kernel
  obtain ⟨state, reached, handedOut⟩ := Option.map_eq_some_iff.mp ends
  have checked : backend.machine.checkAlong enqueuesFresh?
      (start {} promoteLater) promotion = true := by decide +kernel
  exact ⟨state, reached, handedOut,
    (pending_sets_refine_queue rfl (backend.machine.along_of_check
      (fun _ _ => enqueuesFresh_of_check) checked) reached).1⟩

end Runs

end QueueRefinement

end Integr8s
