/-
Module: Integr8s.Lib.PriorityQueue
Purpose: The abstract priority queue: every waiting item holds one ticket with
  its priority and the time of its arrival, and the item served next is the
  most urgent, then the oldest, then the least one.
Trusted boundary: none
Main exports: Ticket, PriorityQueue, PriorityQueue.Operation,
  PriorityQueue.IsFirst, PriorityQueue.machine, PriorityQueue.run_waiting,
  PriorityQueue.served_once
-/
import Integr8s.Lib.Machine
import Mathlib.Data.Prod.Lex
import Mathlib.Data.Set.Insert

universe u v w

/-- What an item waits with. -/
@[ext] structure Ticket (Priority : Type v) (Time : Type w) where
  priority : Priority
  since : Time

/-- Whose turn is first: by priority, then by arrival, then by item. -/
def Ticket.place {Item : Type u} {Priority : Type v} {Time : Type w}
    (ticket : Ticket Priority Time) (item : Item) :
    Priority ×ₗ Time ×ₗ Item :=
  toLex (ticket.priority, toLex (ticket.since, item))

/-- The ticket of every waiting item, so that none waits in two places, and
the items that have ever arrived. -/
structure PriorityQueue (Item : Type u) (Priority : Type v) (Time : Type w)
    where
  waiting : Item → Option (Ticket Priority Time) := fun _ => none
  arrived : Set Item := ∅

namespace PriorityQueue

variable {Item : Type u} {Priority : Type v} {Time : Type w}

/-- What happens to a queue.  An item arrives once only; `serve` is the
removal of the first item, `withdraw` of any. -/
inductive Operation (Item : Type u) (Priority : Type v) (Time : Type w) where
  | arrive (item : Item) (ticket : Ticket Priority Time)
  | promote (item : Item) (priority : Priority)
  | withdraw (item : Item)
  | serve (item : Item)

/-- An operation that takes this item out. -/
def Operation.TakesOut (item : Item) :
    Operation Item Priority Time → Prop
  | .withdraw other | .serve other => other = item
  | .arrive .. | .promote .. => False

/-- Whoever waits has arrived. -/
def Orderly (queue : PriorityQueue Item Priority Time) : Prop :=
  ∀ item ticket, queue.waiting item = some ticket → item ∈ queue.arrived

theorem orderly_empty : Orderly ({} : PriorityQueue Item Priority Time) := by
  rintro item ticket ⟨⟩

/-! ### Changes of the waiting items -/

section Changes

variable [DecidableEq Item]

/-- The queue without an item. -/
def leave (queue : PriorityQueue Item Priority Time) (item : Item) :
    PriorityQueue Item Priority Time :=
  { queue with waiting := Function.update queue.waiting item none }

/-- The queue with an item that has not arrived before. -/
def join (queue : PriorityQueue Item Priority Time) (item : Item)
    (ticket : Ticket Priority Time) : PriorityQueue Item Priority Time where
  waiting := Function.update queue.waiting item (some ticket)
  arrived := insert item queue.arrived

/-- The queue after an item got another priority; it keeps its time. -/
def reorder (queue : PriorityQueue Item Priority Time) (item : Item)
    (priority : Priority) : PriorityQueue Item Priority Time :=
  { queue with
    waiting := Function.update queue.waiting item
      ((queue.waiting item).map fun ticket =>
        { ticket with priority := priority }) }

variable {queue : PriorityQueue Item Priority Time} {item other : Item}
  {ticket : Ticket Priority Time} {priority : Priority}

@[simp] theorem leave_self : (queue.leave item).waiting item = none :=
  Function.update_self ..

@[simp] theorem leave_other (different : other ≠ item) :
    (queue.leave item).waiting other = queue.waiting other :=
  Function.update_of_ne different ..

@[simp] theorem join_self :
    (queue.join item ticket).waiting item = some ticket :=
  Function.update_self ..

@[simp] theorem join_other (different : other ≠ item) :
    (queue.join item ticket).waiting other = queue.waiting other :=
  Function.update_of_ne different ..

@[simp] theorem reorder_self :
    (queue.reorder item priority).waiting item =
      (queue.waiting item).map fun ticket =>
        { ticket with priority := priority } :=
  Function.update_self ..

@[simp] theorem reorder_other (different : other ≠ item) :
    (queue.reorder item priority).waiting other = queue.waiting other :=
  Function.update_of_ne different ..

end Changes

/-! ### The order of service -/

section Order

variable [LinearOrder Item] [LinearOrder Priority] [LinearOrder Time]

/-- An item that waits and is not behind any other. -/
def IsFirst (queue : PriorityQueue Item Priority Time) (item : Item) : Prop :=
  ∃ ticket, queue.waiting item = some ticket ∧
    ∀ other theirs, queue.waiting other = some theirs →
      ticket.place item ≤ theirs.place other

/-- The priority that an item has after an operation. -/
def Operation.priorityAfter (item : Item) (priority : Priority) :
    Operation Item Priority Time → Priority
  | .promote other newPriority =>
      if other = item then newPriority else priority
  | _ => priority

/-- The priority that an item has after some operations. -/
def lastPriority (item : Item) (priority : Priority)
    (operations : List (Operation Item Priority Time)) : Priority :=
  operations.foldl (Operation.priorityAfter item) priority

open Classical in
/-- The priority queue as a machine: it admits only new items and serves only
the first one. -/
noncomputable def machine :
    Machine (PriorityQueue Item Priority Time)
      (Operation Item Priority Time) where
  step
    | queue, .arrive item ticket =>
        if item ∈ queue.arrived then none else some (queue.join item ticket)
    | queue, .promote item priority => some (queue.reorder item priority)
    | queue, .withdraw item => some (queue.leave item)
    | queue, .serve item =>
        if queue.IsFirst item then some (queue.leave item) else none

variable {queue next final : PriorityQueue Item Priority Time} {item : Item}
  {ticket : Ticket Priority Time}
  {operation : Operation Item Priority Time}
  {operations : List (Operation Item Priority Time)}

/-- The first item is the only first one. -/
theorem IsFirst.unique {other : Item} (first : queue.IsFirst item)
    (otherFirst : queue.IsFirst other) : item = other := by
  obtain ⟨ticket, waits, least⟩ := first
  obtain ⟨theirs, otherWaits, otherLeast⟩ := otherFirst
  have same := le_antisymm (least other theirs otherWaits)
    (otherLeast item ticket waits)
  have inner := congrArg (fun place => (ofLex (ofLex place).2).2) same
  exact inner

private theorem step_arrive
    (stepped : machine.step queue (.arrive item ticket) = some next) :
    item ∉ queue.arrived ∧ next = queue.join item ticket := by
  simp only [machine] at stepped
  split at stepped
  · cases stepped
  · next new =>
      cases stepped
      exact ⟨new, rfl⟩

theorem step_serve (stepped : machine.step queue (.serve item) = some next) :
    queue.IsFirst item ∧ next = queue.leave item := by
  simp only [machine] at stepped
  split at stepped
  · next first =>
      cases stepped
      exact ⟨first, rfl⟩
  · cases stepped

/-- Whoever has arrived has arrived for good. -/
theorem step_arrived
    (stepped : machine.step queue operation = some next)
    (arrived : item ∈ queue.arrived) : item ∈ next.arrived := by
  cases operation with
  | arrive other ticket =>
      obtain ⟨-, rfl⟩ := step_arrive stepped
      exact Set.mem_insert_of_mem other arrived
  | promote other priority =>
      cases stepped
      exact arrived
  | withdraw other =>
      cases stepped
      exact arrived
  | serve other =>
      obtain ⟨-, rfl⟩ := step_serve stepped
      exact arrived

/-- A waiting item keeps its ticket, but for its priority, until it is taken
out. -/
theorem step_waiting
    (stepped : machine.step queue operation = some next)
    (arrived : item ∈ queue.arrived)
    (waits : queue.waiting item = some ticket)
    (stays : ¬ operation.TakesOut item) :
    next.waiting item =
      some ⟨operation.priorityAfter item ticket.priority, ticket.since⟩ := by
  cases operation with
  | arrive other theirs =>
      obtain ⟨new, rfl⟩ := step_arrive stepped
      have different : item ≠ other := by
        rintro rfl
        exact new arrived
      simp [different, waits, Operation.priorityAfter]
  | promote other priority =>
      cases stepped
      by_cases same : item = other
      · subst same
        simp [waits, Operation.priorityAfter]
      · simp [same, waits, Operation.priorityAfter, Ne.symm same]
  | withdraw other =>
      cases stepped
      have different : item ≠ other := Ne.symm stays
      simp [different, waits, Operation.priorityAfter]
  | serve other =>
      obtain ⟨-, rfl⟩ := step_serve stepped
      have different : item ≠ other := Ne.symm stays
      simp [different, waits, Operation.priorityAfter]

/-- Whoever has arrived and waits no more never waits again. -/
theorem step_gone (stepped : machine.step queue operation = some next)
    (arrived : item ∈ queue.arrived) (gone : queue.waiting item = none) :
    next.waiting item = none := by
  cases operation with
  | arrive other theirs =>
      obtain ⟨new, rfl⟩ := step_arrive stepped
      have different : item ≠ other := by
        rintro rfl
        exact new arrived
      simp [different, gone]
  | promote other priority =>
      cases stepped
      by_cases same : item = other
      · subst same
        simp [gone]
      · simp [same, gone]
  | withdraw other =>
      cases stepped
      by_cases same : item = other <;> simp [same, gone]
  | serve other =>
      obtain ⟨-, rfl⟩ := step_serve stepped
      by_cases same : item = other <;> simp [same, gone]

/-- Until it is taken out, an item that waits keeps the time of its arrival
and has the priority it got last. -/
theorem run_waiting (reached : machine.run queue operations = some final)
    (arrived : item ∈ queue.arrived)
    (waits : queue.waiting item = some ticket)
    (stays : ∀ operation ∈ operations, ¬ operation.TakesOut item) :
    final.waiting item =
      some ⟨lastPriority item ticket.priority operations, ticket.since⟩ := by
  induction operations generalizing queue ticket with
  | nil =>
      cases reached
      exact waits
  | cons operation operations inductionHypothesis =>
      obtain ⟨next, stepped, rest⟩ := Option.bind_eq_some_iff.mp reached
      exact inductionHypothesis rest (step_arrived stepped arrived)
        (step_waiting stepped arrived waits (stays operation (by simp)))
        fun other member => stays other (by simp [member])

/-- Whoever has arrived and waits no more is not served later. -/
theorem run_gone (reached : machine.run queue operations = some final)
    (arrived : item ∈ queue.arrived) (gone : queue.waiting item = none) :
    .serve item ∉ operations := by
  induction operations generalizing queue with
  | nil => exact List.not_mem_nil
  | cons operation operations inductionHypothesis =>
      obtain ⟨next, stepped, rest⟩ := Option.bind_eq_some_iff.mp reached
      intro member
      rcases List.mem_cons.mp member with rfl | later
      · obtain ⟨⟨ticket, waits, -⟩, -⟩ := step_serve stepped
        cases waits.symm.trans gone
      · exact inductionHypothesis rest (step_arrived stepped arrived)
          (step_gone stepped arrived gone) later

theorem Orderly.step (orderly : Orderly queue)
    (stepped : machine.step queue operation = some next) :
    Orderly next := by
  intro item ticket waits
  by_cases arrived : item ∈ queue.arrived
  · exact step_arrived stepped arrived
  cases was : queue.waiting item with
  | some earlier => exact absurd (orderly item earlier was) arrived
  | none =>
      cases operation with
      | arrive other theirs =>
          obtain ⟨-, rfl⟩ := step_arrive stepped
          by_cases same : item = other
          · exact same ▸ Set.mem_insert other queue.arrived
          · simp [same, was] at waits
      | promote other priority =>
          cases stepped
          by_cases same : item = other
          · subst same
            simp [was] at waits
          · simp [same, was] at waits
      | withdraw other =>
          cases stepped
          by_cases same : item = other <;> simp [same, was] at waits
      | serve other =>
          obtain ⟨-, rfl⟩ := step_serve stepped
          by_cases same : item = other <;> simp [same, was] at waits

theorem Orderly.run (orderly : Orderly queue)
    (reached : machine.run queue operations = some final) : Orderly final :=
  machine.run_invariant' Orderly
    (fun _ _ _ holds stepped => holds.step stepped) orderly reached

/-- No item is served twice. -/
theorem served_once (orderly : Orderly queue)
    {before after : List (Operation Item Priority Time)}
    (reached : machine.run queue (before ++ .serve item :: after) =
      some final) : .serve item ∉ after := by
  rw [machine.run_append] at reached
  obtain ⟨middle, ran, rest⟩ := Option.bind_eq_some_iff.mp reached
  obtain ⟨next, stepped, later⟩ := Option.bind_eq_some_iff.mp rest
  obtain ⟨⟨ticket, waits, -⟩, rfl⟩ := step_serve stepped
  apply run_gone later ((orderly.run ran) item ticket waits)
  exact leave_self

/-- From its arrival until it is taken out, an item waits with the time of
that arrival and the priority it got last. -/
theorem waits_since_arrival
    {before after : List (Operation Item Priority Time)}
    (reached : machine.run queue (before ++ .arrive item ticket :: after) =
      some final)
    (stays : ∀ operation ∈ after, ¬ operation.TakesOut item) :
    final.waiting item =
      some ⟨lastPriority item ticket.priority after, ticket.since⟩ := by
  rw [machine.run_append] at reached
  obtain ⟨middle, -, rest⟩ := Option.bind_eq_some_iff.mp reached
  obtain ⟨next, stepped, later⟩ := Option.bind_eq_some_iff.mp rest
  obtain ⟨-, rfl⟩ := step_arrive stepped
  exact run_waiting later (Set.mem_insert item middle.arrived) join_self stays

end Order

end PriorityQueue
