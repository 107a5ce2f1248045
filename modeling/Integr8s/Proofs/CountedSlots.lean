/-
Module: Integr8s.Proofs.CountedSlots
Purpose: When an execution that holds a running slot counts against the user
  its slot was reserved for, over all interleavings of the queue service's
  calls, with the wait that breaks it as a counterexample.
Trusted boundary: none
Main exports: CountedSlots.Counted, CountedSlots.InTime,
  CountedSlots.counted_while_kept, CountedSlots.uncounted_after_wait
-/
import Integr8s.Proofs.QueueCaps
import Integr8s.Proofs.KeyCheck

namespace Integr8s

namespace CountedSlots

open ExecutionQueueService QueueCaps

/-! ### The law and its invariant -/

section Law

variable (ownerOf : ExecutionId → UserId)

/-- The slot reserved for an execution has not been released. -/
def Held (queue : QueueStore) (executionId : ExecutionId) : Prop :=
  queue.reservations executionId = some (.held (ownerOf executionId))

/-- The running slot of an execution is covered: its owner's active set has it
with a deadline that is not earlier. -/
def Covered (clock : Nat) (queue : QueueStore) (executionId : ExecutionId) :
    Prop :=
  ∀ deadline, queue.running.score executionId = some deadline →
    clock < deadline →
      ∃ counted, (queue.userSet clock (ownerOf executionId)).score
        executionId = some counted ∧ deadline ≤ counted

/-- The invariant of the law: every store knows one owner of an execution, the
running slot of an execution whose reservation is held is covered, and a
released execution is in no active set.  `whole` says whether a slot counts
already while it has the deadline that the script gave it, before the deadline
update. -/
structure Counted (whole : Prop) (clock : Nat) (queue : QueueStore) : Prop
    where
  owned : Owned ownerOf queue
  owners : ∀ executionId entry, queue.owners executionId = some entry →
    entry.value = ownerOf executionId
  events : ∀ executionId entry, queue.events executionId = some entry →
    entry.value.metadata.userId = ownerOf executionId
  held : ∀ executionId userId,
    queue.reservations executionId = some (.held userId) →
      userId = ownerOf executionId
  covered : ∀ executionId, Held ownerOf queue executionId →
    whole ∨ executionId ∉ queue.provisional →
      Covered ownerOf clock queue executionId
  released : ∀ executionId,
    queue.reservations executionId = some .released →
      ∀ userId, executionId ∉ queue.userSet clock userId

/-- The condition of the law on a command.  Deadlines are moved while a held
execution is still in its owner's active set; a release that finds no owner
finds the execution gone from that set; and an execution that runs when its
slot is reserved runs no longer than the reservation. -/
def Kept (clock : Nat) (queue : QueueStore) : Command → Prop
  | .queue (.moveDeadlines executionId _ _) =>
      Held ownerOf queue executionId →
        executionId ∈ queue.userSet clock (ownerOf executionId)
  | .queue (.owner executionId) =>
      Held ownerOf queue executionId →
        queue.owners.get clock executionId = none →
          executionId ∉ queue.userSet clock (ownerOf executionId)
  | .queue (.reserveUserSlot _ executionId now _) =>
      ∀ deadline, queue.running.score executionId = some deadline →
        clock < deadline → deadline ≤ now + seconds eventTtl
  | _ => True

/-- The condition of the law on what the script hands out, when its deadline
counts at once: the reservation reaches that far. -/
def Reaches (clock : Nat) (queue : QueueStore) : Command → Prop
  | .queue (.trySchedule limit now deadline) =>
      ∀ handed, (queue.trySchedule limit now deadline).1 = some handed →
        Held ownerOf queue handed.1 →
          ∃ counted, (queue.userSet clock (ownerOf handed.1)).score handed.1 =
            some counted ∧ deadline ≤ counted
  | _ => True

/-- The condition of the law on the passage of time: no user's key expires
while one of the user's executions holds a slot. -/
def Outlived (whole : Prop) (clock : Nat) (queue : QueueStore) : Prop :=
  ∀ executionId, Held ownerOf queue executionId →
    whole ∨ executionId ∉ queue.provisional →
      ∀ deadline, queue.running.score executionId = some deadline →
        clock < deadline →
          queue.userSets.live clock (ownerOf executionId) ≠ none

/-- What the callers know of the arguments they send. -/
def Known (clock : Nat) : Command → Prop
  | .queue (.reserveUserSlot userId executionId now _) =>
      ownerOf executionId = userId ∧ now ≤ clock
  | .queue (.dropUserSlot userId executionId) => ownerOf executionId = userId
  | .queue (.moveDeadlines executionId userId _) =>
      ownerOf executionId = userId
  | .queue (.enqueue event _) =>
      event.metadata.userId = ownerOf event.executionId
  | _ => True

end Law

/-! ### What each command does to the slots -/

section Steps

variable {ownerOf : ExecutionId → UserId} {whole : Prop} {clock : Nat}
  {queue next : QueueStore}

/-- What does not touch the slots keeps them counted. -/
theorem Counted.same (counted : Counted ownerOf whole clock queue)
    (userSets : next.userSets = queue.userSets)
    (owners : next.owners = queue.owners)
    (events : next.events = queue.events)
    (reservations : next.reservations = queue.reservations)
    (provisional : next.provisional = queue.provisional)
    (running : ∀ executionId deadline,
      next.running.score executionId = some deadline →
        queue.running.score executionId = some deadline) :
    Counted ownerOf whole clock next where
  owned := by
    intro userId
    rw [userSets]
    exact counted.owned userId
  owners := owners ▸ counted.owners
  events := events ▸ counted.events
  held := reservations ▸ counted.held
  covered := by
    intro executionId held slot deadline runs later
    simp only [Held, reservations] at held
    rw [provisional] at slot
    simp only [QueueStore.userSet, userSets]
    exact counted.covered executionId held slot deadline
      (running executionId deadline runs) later
  released := by
    intro executionId released userId
    rw [reservations] at released
    simp only [QueueStore.userSet, userSets]
    exact counted.released executionId released userId

/-- A refused reservation prunes only deadlines that have passed. -/
theorem Counted.prune (counted : Counted ownerOf whole clock queue)
    (userId : UserId) {now : Nat} (past : now ≤ clock) :
    Counted ownerOf whole clock
      (queue.changeUserSet clock userId fun set => set.prune now) where
  owned := counted.owned.changeUserSet clock userId fun _ _ member =>
    SortedSet.mem_of_mem_prune member
  owners := counted.owners
  events := counted.events
  held := counted.held
  covered := by
    intro executionId held slot deadline runs later
    obtain ⟨lasts, scored, reaches⟩ :=
      counted.covered executionId held slot deadline runs later
    refine ⟨lasts, ?_, reaches⟩
    rw [QueueStore.userSet_changeUserSet rfl]
    split
    · next same =>
        rw [SortedSet.score_prune, ← same, scored]
        simp only [Option.filter_some, decide_eq_true_eq]
        rw [if_pos (by omega)]
    · exact scored
  released := by
    intro executionId released other member
    rw [QueueStore.userSet_changeUserSet rfl] at member
    split at member
    · exact counted.released executionId released userId
        (SortedSet.mem_of_mem_prune member)
    · exact counted.released executionId released other member

/-- An admitted execution is counted until its reservation ends. -/
theorem Counted.admit (counted : Counted ownerOf whole clock queue)
    {userId : UserId} {admitted : ExecutionId} {now : Nat}
    (owner : ownerOf admitted = userId) (past : now ≤ clock)
    (reaches : ∀ deadline, queue.running.score admitted = some deadline →
      clock < deadline → deadline ≤ now + seconds eventTtl) :
    Counted ownerOf whole clock
      (queue.admitUser clock userId admitted now) where
  owned := counted.owned.admitUser clock now owner
  owners := by
    intro executionId entry stored
    simp only [QueueStore.admitUser, ExpiringStore.set] at stored
    by_cases same : executionId = admitted
    · subst same
      simp only [Function.update_self, Option.some.injEq] at stored
      rw [← stored, owner]
    · simp only [Function.update_of_ne same] at stored
      exact counted.owners executionId entry stored
  events := counted.events
  held := by
    intro executionId user held
    simp only [QueueStore.admitUser] at held
    by_cases same : executionId = admitted
    · subst same
      simp only [Function.update_self, Option.some.injEq,
        Reservation.held.injEq] at held
      rw [← held, owner]
    · simp only [Function.update_of_ne same] at held
      exact counted.held executionId user held
  covered := by
    intro executionId held slot deadline runs later
    by_cases same : executionId = admitted
    · subst same
      refine ⟨now + seconds eventTtl, ?_, reaches deadline runs later⟩
      rw [QueueStore.userSet_admitUser, if_pos owner]
      exact SortedSet.score_add_self
    · simp only [Held, QueueStore.admitUser, Function.update_of_ne same]
        at held
      obtain ⟨lasts, scored, reaches⟩ :=
        counted.covered executionId held slot deadline runs later
      refine ⟨lasts, ?_, reaches⟩
      rw [QueueStore.userSet_admitUser]
      split
      · next sameUser =>
          rw [SortedSet.score_add_other same, SortedSet.score_prune,
            ← sameUser, scored]
          simp only [Option.filter_some, decide_eq_true_eq]
          rw [if_pos (by omega)]
      · exact scored
  released := by
    intro executionId released other member
    by_cases same : executionId = admitted
    · subst same
      simp [QueueStore.admitUser] at released
    · simp only [QueueStore.admitUser, Function.update_of_ne same] at released
      rw [QueueStore.userSet_admitUser] at member
      split at member
      · rcases SortedSet.mem_add.mp member with is | inside
        · exact same is
        · exact counted.released executionId released userId
            (SortedSet.mem_of_mem_prune inside)
      · exact counted.released executionId released other member

/-- A release that ends for an execution which is in no active set. -/
theorem Counted.noteRelease (counted : Counted ownerOf whole clock queue)
    {ended : ExecutionId}
    (gone : Held ownerOf queue ended →
      ended ∉ queue.userSet clock (ownerOf ended)) :
    Counted ownerOf whole clock (queue.noteRelease ended) where
  owned := counted.owned
  owners := counted.owners
  events := counted.events
  held := by
    intro executionId user held
    by_cases same : executionId = ended
    · subst same
      simp [QueueStore.noteRelease] at held
    · simp only [QueueStore.noteRelease, Function.update_of_ne same] at held
      exact counted.held executionId user held
  covered := by
    intro executionId held slot
    by_cases same : executionId = ended
    · subst same
      simp [Held, QueueStore.noteRelease] at held
    · simp only [Held, QueueStore.noteRelease, Function.update_of_ne same]
        at held
      exact counted.covered executionId held slot
  released := by
    intro executionId released userId member
    by_cases same : executionId = ended
    · subst same
      cases reservation : queue.reservations executionId with
      | none => simp [QueueStore.noteRelease, reservation] at released
      | some reserved =>
          cases reserved with
          | released =>
              exact counted.released executionId reservation userId member
          | held user =>
              have owner := counted.held executionId user reservation
              subst owner
              have his : ownerOf executionId = userId :=
                counted.owned.userSet member
              exact gone reservation (his ▸ member)
    · simp only [QueueStore.noteRelease, Function.update_of_ne same]
        at released
      exact counted.released executionId released userId member

/-- The pipeline of a release takes the execution out of its owner's set. -/
theorem Counted.drop (counted : Counted ownerOf whole clock queue)
    (ended : ExecutionId) :
    Counted ownerOf whole clock
      (queue.dropUserSlot clock (ownerOf ended) ended) where
  owned := counted.owned.changeUserSet clock (ownerOf ended) fun _ _ member =>
    (SortedSet.mem_remove.mp member).2
  owners := by
    intro executionId entry stored
    by_cases same : executionId = ended
    · subst same
      simp [QueueStore.dropUserSlot, ExpiringStore.delete] at stored
    · simp only [QueueStore.dropUserSlot, ExpiringStore.delete,
        Function.update_of_ne same] at stored
      exact counted.owners executionId entry stored
  events := counted.events
  held := by
    intro executionId user held
    by_cases same : executionId = ended
    · subst same
      simp [QueueStore.dropUserSlot, QueueStore.noteRelease] at held
    · simp only [QueueStore.dropUserSlot, QueueStore.noteRelease,
        Function.update_of_ne same] at held
      exact counted.held executionId user held
  covered := by
    intro executionId held slot deadline runs later
    by_cases same : executionId = ended
    · subst same
      simp [Held, QueueStore.dropUserSlot, QueueStore.noteRelease] at held
    · simp only [Held, QueueStore.dropUserSlot, QueueStore.noteRelease,
        Function.update_of_ne same] at held
      obtain ⟨lasts, scored, reaches⟩ :=
        counted.covered executionId held slot deadline runs later
      refine ⟨lasts, ?_, reaches⟩
      rw [QueueStore.userSet_dropUserSlot]
      split
      · next sameUser =>
          rw [SortedSet.score_remove_other same, ← sameUser, scored]
      · exact scored
  released := by
    intro executionId released userId member
    rw [QueueStore.userSet_dropUserSlot] at member
    by_cases same : executionId = ended
    · subst same
      split at member
      · exact (SortedSet.mem_remove.mp member).1 rfl
      · next other => exact other (counted.owned.userSet member).symm
    · simp only [QueueStore.dropUserSlot, QueueStore.noteRelease,
        Function.update_of_ne same] at released
      split at member
      · exact counted.released executionId released (ownerOf ended)
          (SortedSet.mem_remove.mp member).2
      · exact counted.released executionId released userId member

theorem Counted.enqueue (counted : Counted ownerOf whole clock queue)
    {event : ExecutionRequestedEvent} (score : Nat)
    (user : event.metadata.userId = ownerOf event.executionId) :
    Counted ownerOf whole clock (queue.enqueue clock event score) where
  owned := counted.owned
  owners := counted.owners
  events := by
    intro executionId entry stored
    simp only [QueueStore.enqueue, ExpiringStore.set] at stored
    by_cases same : executionId = event.executionId
    · subst same
      simp only [Function.update_self, Option.some.injEq] at stored
      rw [← stored, user]
    · simp only [Function.update_of_ne same] at stored
      exact counted.events executionId entry stored
  held := counted.held
  covered := counted.covered
  released := counted.released

/-- A slot with the deadline that the script gave it is covered only when the
reservation reaches that far. -/
theorem Counted.handOut (counted : Counted ownerOf whole clock queue)
    (priority : QueuePriority) {handed : ExecutionId} {now deadline : Nat}
    (reaches : whole → Held ownerOf queue handed → ∃ counted,
      (queue.userSet clock (ownerOf handed)).score handed = some counted ∧
        deadline ≤ counted) :
    Counted ownerOf whole clock
      (queue.handOut priority handed now deadline) where
  owned := counted.owned
  owners := counted.owners
  events := counted.events
  held := counted.held
  covered := by
    intro executionId held slot expiry runs later
    simp only [QueueStore.handOut] at runs slot
    by_cases same : executionId = handed
    · subst same
      rcases slot with whole | outside
      · simp only [SortedSet.score_add_self, Option.some.injEq] at runs
        subst runs
        exact reaches whole held
      · simp at outside
    · rw [SortedSet.score_add_other same, SortedSet.score_prune,
        Option.filter_eq_some_iff] at runs
      refine counted.covered executionId held ?_ expiry runs.1 later
      simpa [same] using slot
  released := counted.released

/-- Both deadlines of a counted execution become the same. -/
theorem Counted.moveDeadlines (counted : Counted ownerOf whole clock queue)
    (moved : ExecutionId) (deadline : Nat)
    (present : Held ownerOf queue moved →
      moved ∈ queue.userSet clock (ownerOf moved)) :
    Counted ownerOf whole clock
      (queue.moveDeadlines clock moved (ownerOf moved) deadline) where
  owned := by
    have kept : Owned ownerOf (queue.changeUserSet clock (ownerOf moved)
        fun set => set.addExisting moved deadline) :=
      counted.owned.changeUserSet clock _ fun _ _ member =>
        SortedSet.mem_addExisting.mp member
    exact kept
  owners := counted.owners
  events := counted.events
  held := counted.held
  covered := by
    intro executionId held slot expiry runs later
    rw [QueueStore.userSet_moveDeadlines]
    simp only [QueueStore.moveDeadlines] at runs slot
    by_cases same : executionId = moved
    · subst same
      obtain ⟨old, scored⟩ := SortedSet.mem_iff_score.mp (present held)
      rw [SortedSet.score_addExisting_self] at runs
      obtain ⟨_, -, rfl⟩ := Option.map_eq_some_iff.mp runs
      rw [if_pos rfl, SortedSet.score_addExisting_self, scored]
      exact ⟨deadline, rfl, le_refl _⟩
    · rw [SortedSet.score_addExisting_other same] at runs
      have kept : whole ∨ executionId ∉ queue.provisional := by
        simpa [same] using slot
      obtain ⟨lasts, scored, reaches⟩ :=
        counted.covered executionId held kept expiry runs later
      refine ⟨lasts, ?_, reaches⟩
      split
      · next sameUser =>
          rw [SortedSet.score_addExisting_other same, ← sameUser, scored]
      · exact scored
  released := by
    intro executionId released userId member
    rw [QueueStore.userSet_moveDeadlines] at member
    split at member
    · exact counted.released executionId released (ownerOf moved)
        (SortedSet.mem_addExisting.mp member)
    · exact counted.released executionId released userId member

/-- A running slot that is given up needs no cover. -/
theorem Counted.dropRunning (counted : Counted ownerOf whole clock queue)
    (ended : ExecutionId) :
    Counted ownerOf whole clock (queue.dropRunning ended) where
  owned := counted.owned
  owners := counted.owners
  events := counted.events
  held := counted.held
  covered := by
    intro executionId held slot expiry runs later
    simp only [QueueStore.dropRunning] at runs slot
    by_cases same : executionId = ended
    · subst same
      simp at runs
    · rw [SortedSet.score_remove_other same] at runs
      refine counted.covered executionId held ?_ expiry runs later
      simpa [same] using slot
  released := counted.released

theorem Counted.release (counted : Counted ownerOf whole clock queue)
    (ended : ExecutionId) :
    Counted ownerOf whole clock (queue.release clock ended) := by
  have dropped := counted.dropRunning ended
  exact {
    owned := dropped.owned
    owners := dropped.owners
    events := by
      intro executionId entry stored
      simp only [QueueStore.release, ExpiringStore.delete] at stored
      by_cases same : executionId = ended
      · subst same
        simp at stored
      · simp only [Function.update_of_ne same] at stored
        exact counted.events executionId entry stored
    held := dropped.held
    covered := dropped.covered
    released := dropped.released }

/-- Every command whose arguments are known keeps the law where its condition
holds. -/
theorem Counted.perform (counted : Counted ownerOf whole clock queue)
    {command : QueueCommand} (known : Known ownerOf clock (.queue command))
    (kept : Kept ownerOf clock queue (.queue command))
    (reaches : whole → Reaches ownerOf clock queue (.queue command)) :
    Counted ownerOf whole clock (queue.perform clock command).2 := by
  cases command with
  | reserveUserSlot userId executionId now limit =>
      rcases queue.reserveUserSlot_cases clock userId executionId now limit
        with ⟨refused, -⟩ | ⟨reserved, -⟩
      · simp only [QueueStore.perform, refused]
        exact counted.prune userId known.2
      · simp only [QueueStore.perform, reserved]
        exact counted.admit known.1 known.2 kept
  | owner executionId =>
      simp only [QueueStore.perform, QueueStore.readOwner]
      cases found : queue.owners.get clock executionId with
      | some userId => exact counted
      | none => exact counted.noteRelease fun held => kept held found
  | dropUserSlot userId executionId =>
      cases known
      exact counted.drop executionId
  | enqueue event score => exact counted.enqueue score known
  | trySchedule limit now deadline =>
      rcases queue.trySchedule_cases limit now deadline with
        ⟨none, -⟩ | ⟨priority, handed, score, -, -, some⟩
      · simp only [QueueStore.perform, none]
        refine counted.same rfl rfl rfl rfl rfl fun executionId expiry runs =>
          ?_
        simp only [SortedSet.score_prune, Option.filter_eq_some_iff] at runs
        exact runs.1
      · simp only [QueueStore.perform, some]
        refine counted.handOut priority fun isWhole held => ?_
        exact reaches isWhole _ (by rw [some]) held
  | moveDeadlines executionId userId deadline =>
      cases known
      exact counted.moveDeadlines executionId deadline kept
  | dropRunning executionId => exact counted.dropRunning executionId
  | release executionId => exact counted.release executionId
  | remove executionId =>
      exact (counted.release executionId).same rfl rfl rfl rfl rfl
        fun _ _ runs => runs
  | updatePriority executionId newPriority =>
      rcases queue.updatePriority_cases executionId newPriority with
        ⟨none, -⟩ | ⟨_, _, -, some⟩
      · simp only [QueueStore.perform, none]
        exact counted
      · simp only [QueueStore.perform, some]
        exact counted.same rfl rfl rfl rfl rfl fun _ _ runs => runs
  | rank | event | status => exact counted

/-- Time keeps the law while no key that still counts a slot expires. -/
theorem Counted.tick (counted : Counted ownerOf whole clock queue)
    {later : Nat} (ordered : clock ≤ later)
    (outlived : Outlived ownerOf whole later queue) :
    Counted ownerOf whole later queue where
  owned := counted.owned
  owners := counted.owners
  events := counted.events
  held := counted.held
  covered := by
    intro executionId held slot deadline runs after
    have alive := outlived executionId held slot deadline runs after
    rw [QueueStore.userSet_later ordered alive]
    exact counted.covered executionId held slot deadline runs (by omega)
  released := by
    intro executionId released userId member
    by_cases alive : queue.userSets.live later userId = none
    · simp [QueueStore.userSet, ExpiringStore.get, alive] at member
    · rw [QueueStore.userSet_later ordered alive] at member
      exact counted.released executionId released userId member

end Steps

/-! ### The law over runs -/

section Runs

variable (ownerOf : ExecutionId → UserId) (whole : Prop)

/-- The condition of the law on the steps of a run. -/
def InTime (state : Backend) : Move Caller Choice WorldEvent → Prop
  | .caller caller _ => ∀ command, state.awaited caller = some command →
      Kept ownerOf state.shared.clock state.shared.queue command ∧
        (whole → Reaches ownerOf state.shared.clock state.shared.queue command)
  | .environment (.tick duration) =>
      Outlived ownerOf whole (state.shared.clock + duration)
        state.shared.queue
  | _ => True

/-- The callers of the queue service know the owners and a time that has
come. -/
def contract : BackendContract where
  invariant world := Counted ownerOf whole world.clock world.queue
  guarantee _ before after := after.clock = before.clock
  rely _ before after := before.clock ≤ after.clock
  claims _ command world := Known ownerOf world.clock command
  allows _ world command _ :=
    Kept ownerOf world.clock world.queue command ∧
      (whole → Reaches ownerOf world.clock world.queue command)
  permits _ world
    | .tick duration =>
        Outlived ownerOf whole (world.clock + duration) world.queue
    | _ => True

theorem sound : (contract ownerOf whole).Sound backend where
  rely_refl _ world := le_refl world.clock
  rely_trans _ _ _ _ := le_trans
  progress_refl _ := trivial
  interference _ _ _ _ _ _ _ kept := kept.ge
  progresses _ _ _ _ _ := trivial
  environment := by
    intro atWork world event next counted permitted happened
    cases event with
    | tick duration =>
        cases happened
        exact ⟨counted.tick (Nat.le_add_right _ _) permitted, trivial,
          fun _ _ => Nat.le_add_right _ _, fun _ _ => trivial⟩
    | _ =>
        cases happened
        exact ⟨counted, trivial, fun _ _ => le_refl _, fun _ _ => trivial⟩
  kill := by
    intro world caller next counted _ killed
    cases killed
    exact ⟨counted, trivial, trivial, fun _ _ => le_refl _⟩
  gone _ _ _ _ _ := trivial

variable {ownerOf whole} {caller : Caller} {world : World}

/-- A command whose arguments are known. -/
theorem wp_await {command : QueueCommand}
    {post : Except PyException (QueueReply command) → World → Prop}
    (counted : Counted ownerOf whole world.clock world.queue)
    (known : Known ownerOf world.clock (.queue command))
    (answers : ∀ later, world.clock ≤ later.clock →
      Counted ownerOf whole later.clock later.queue →
        post (.ok (world.queue.perform world.clock command).1) later)
    (raises : ∀ error later, post (.error error) later) :
    (contract ownerOf whole).wp backend caller (await command) post world := by
  apply Contract.wp_call known
  intro choice reply next allowed performed
  obtain ⟨sameClock, changed⟩ := World.perform_queue performed
  have kept : Counted ownerOf whole next.clock next.queue := by
    rw [sameClock]
    rcases changed with same | ⟨queueCommand, is, same⟩
    · rw [same]
      exact counted
    · cases is
      rw [same]
      exact counted.perform known allowed.1 allowed.2
  refine ⟨kept, sameClock, fun later reached => ?_⟩
  cases reply with
  | error error => exact raises error later
  | ok answer =>
      obtain ⟨answered, -⟩ := World.perform_queue_ok performed
      rw [← answered]
      exact answers later (sameClock ▸ reached.1) reached.2

/-- A command that needs no knowledge and whose answer does not matter. -/
theorem wp_await_any {command : QueueCommand}
    (counted : Counted ownerOf whole world.clock world.queue)
    (known : Known ownerOf world.clock (.queue command)) :
    (contract ownerOf whole).wp backend caller (await command)
      (fun _ _ => True) world :=
  wp_await counted known (fun _ _ _ => trivial) fun _ _ => trivial

/-- Reading the clock gives a time that has come. -/
theorem wp_clock {post : Except PyException Nat → World → Prop}
    (counted : Counted ownerOf whole world.clock world.queue)
    (answers : ∀ later, world.clock ≤ later.clock →
      Counted ownerOf whole later.clock later.queue →
        post (.ok world.clock) later) :
    (contract ownerOf whole).wp backend caller (request .now) post world :=
  wp_now trivial counted rfl fun later reached =>
    answers later reached.1 reached.2

private theorem wp_releaseUserSlot (executionId : ExecutionId)
    {post : Except PyException Unit → World → Prop}
    (counted : Counted ownerOf whole world.clock world.queue)
    (ends : ∀ result later, post result later) :
    (contract ownerOf whole).wp backend caller (releaseUserSlot executionId)
      post world := by
  rw [releaseUserSlot, Contract.wp_attempt, Contract.wp_bind]
  have caught : ∀ error later,
      (contract ownerOf whole).wp backend caller
        (if error = PyException.redisError then pure ()
          else Coroutine.raise error) post later := by
    intro error later
    split <;> exact ends _ later
  apply wp_await counted
  · exact trivial
  · intro later _ kept
    simp only [QueueStore.perform, QueueStore.readOwner]
    cases found : world.queue.owners.get world.clock executionId with
    | none => exact ends _ later
    | some userId =>
        have owner : ownerOf executionId = userId := by
          obtain ⟨entry, alive, rfl⟩ := Option.map_eq_some_iff.mp found
          exact (counted.owners executionId entry
            (ExpiringStore.live_eq_some.mp alive).1).symm
        apply wp_await kept
        · exact owner
        · intro after _ _
          exact ends _ after
        · exact caught
  · exact caught

private theorem wp_trySchedule (limit : Nat)
    (counted : Counted ownerOf whole world.clock world.queue) :
    (contract ownerOf whole).wp backend caller (trySchedule limit)
      (fun _ _ => True) world := by
  rw [trySchedule, Contract.wp_bind]
  apply wp_clock counted
  intro scripted _ counted
  dsimp only
  rw [Contract.wp_bind]
  refine wp_await counted ?_ ?_ fun _ _ => trivial
  · exact trivial
  intro later _ counted
  dsimp only
  generalize (scripted.queue.perform scripted.clock
    (.trySchedule limit world.clock
      (world.clock + seconds provisionalSlotSeconds))).1 = handed
  cases handed with
  | none => trivial
  | some handed =>
      obtain ⟨executionId, score, index⟩ := handed
      dsimp only
      rw [Contract.wp_bind]
      refine wp_await counted ?_ ?_ fun _ _ => trivial
      · exact trivial
      intro loaded _ kept
      simp only [QueueStore.perform]
      cases found : later.queue.events.get later.clock executionId with
      | none =>
          dsimp only
          rw [Contract.wp_bind]
          refine wp_await kept ?_ ?_ fun _ _ => trivial
          · exact trivial
          intro dropped _ counted
          dsimp only
          rw [Contract.wp_bind]
          apply wp_releaseUserSlot executionId counted
          intro result after
          cases result <;> trivial
      | some event =>
          have owner : ownerOf executionId = event.metadata.userId := by
            obtain ⟨entry, alive, rfl⟩ := Option.map_eq_some_iff.mp found
            exact (counted.events executionId entry
              (ExpiringStore.live_eq_some.mp alive).1).symm
          dsimp only
          rw [Contract.wp_bind]
          apply wp_clock kept
          intro scheduled _ counted
          dsimp only
          rw [Contract.wp_bind]
          refine wp_await counted ?_ ?_ fun _ _ => trivial
          · exact owner
          intro after _ _
          trivial

/-- A call that is for the owner of its execution keeps the contract. -/
theorem wp_run {call : QueueCall}
    (reserves : ∀ userId executionId limit,
      call = .reserveUserSlot userId executionId limit →
        ownerOf executionId = userId)
    (enqueues : ∀ event, call = .enqueue event →
      event.metadata.userId = ownerOf event.executionId)
    (counted : Counted ownerOf whole world.clock world.queue) :
    (contract ownerOf whole).wp backend caller call.run (fun _ _ => True)
      world := by
  cases call with
  | reserveUserSlot userId executionId limit =>
      simp only [QueueCall.run, reserveUserSlot, Contract.wp_bind]
      apply wp_clock counted
      intro later ordered kept
      refine wp_await kept ?_ ?_ fun _ _ => trivial
      · exact ⟨reserves _ _ _ rfl, ordered⟩
      intro after _ _
      trivial
  | releaseUserSlot executionId =>
      exact wp_releaseUserSlot executionId counted fun _ _ => trivial
  | enqueue event =>
      simp only [QueueCall.run, enqueue, Contract.wp_bind]
      apply wp_clock counted
      intro later _ kept
      refine wp_await kept ?_ ?_ fun _ _ => trivial
      · exact (enqueues event rfl)
      intro ranked _ counted
      refine wp_await counted ?_ ?_ fun _ _ => trivial
      · exact trivial
      intro after _ _
      trivial
  | trySchedule limit =>
      rw [QueueCall.run, Contract.wp_bind]
      apply Contract.wp_mono _ counted (wp_trySchedule limit counted)
      intro result after _ _
      cases result <;> trivial
  | release executionId => exact wp_await_any counted trivial
  | updatePriority executionId newPriority =>
      rw [QueueCall.run, Contract.wp_bind]
      refine wp_await counted ?_ ?_ fun _ _ => trivial
      · exact trivial
      intro after _ _
      trivial
  | remove executionId =>
      rw [QueueCall.run, Contract.wp_bind]
      refine wp_await counted ?_ ?_ fun _ _ => trivial
      · exact trivial
      intro after _ _
      trivial
  | getQueueStatus =>
      simp only [QueueCall.run, getQueueStatus, Contract.wp_bind]
      apply wp_clock counted
      intro later _ kept
      refine wp_await kept ?_ ?_ fun _ _ => trivial
      · exact trivial
      intro after _ _
      trivial

/-- While the condition holds, an execution with an unexpired running slot
whose reservation is not released is in its user's active set with a deadline
that is not earlier, and a released execution is in no active set.  With
`whole` this holds also between the script of an attempt to schedule and its
deadline update. -/
theorem counted_while_kept {calls : Caller → QueueCall}
    (oneUser : ∀ caller userId executionId limit,
      calls caller = .reserveUserSlot userId executionId limit →
        ownerOf executionId = userId)
    (ownRequests : ∀ caller event, calls caller = .enqueue event →
      event.metadata.userId = ownerOf event.executionId)
    {world : World} (fresh : world.queue = {})
    {moves : List (Move Caller Choice WorldEvent)} {final : Backend}
    (inTime : backend.machine.Along (InTime ownerOf whole)
      (start world calls) moves)
    (reached : backend.machine.run (start world calls) moves = some final) :
    (∀ executionId userId deadline,
      final.shared.queue.reservations executionId = some (.held userId) →
        final.shared.queue.running.score executionId = some deadline →
        final.shared.clock < deadline →
        whole ∨ executionId ∉ final.shared.queue.provisional →
          ∃ counted, (final.shared.queue.userSet final.shared.clock
            userId).score executionId = some counted ∧ deadline ≤ counted) ∧
    ∀ executionId,
      final.shared.queue.reservations executionId = some .released →
        ∀ userId, executionId ∉
          final.shared.queue.userSet final.shared.clock userId := by
  have initial : Counted ownerOf whole world.clock world.queue := by
    rw [fresh]
    constructor
    · intro userId entry stored
      cases stored
    · intro executionId entry stored
      cases stored
    · intro executionId entry stored
      cases stored
    · intro executionId userId held
      cases held
    · intro executionId held
      cases held
    · intro executionId released
      cases released
  have guarded : backend.machine.Along (contract ownerOf whole).guard
      (start world calls) moves := by
    refine inTime.mono fun state move meets => ?_
    cases move with
    | caller caller choice => exact meets
    | environment event =>
        cases event with
        | tick duration => exact meets
        | _ => trivial
    | kill caller => trivial
  have begins : (contract ownerOf whole).Safe backend (fun _ _ _ => True)
      (start world calls) := by
    apply Contract.Safe.start (sound ownerOf whole)
    · exact initial
    · intro _ dead
      cases dead
    · intro caller coroutine runs later reached
      cases runs
      exact wp_run (oneUser caller) (ownRequests caller) reached.2
  have safe := (sound ownerOf whole).run Contract.stable_true begins guarded
    reached
  have counted := safe.invariant
  refine ⟨?_, counted.released⟩
  intro executionId userId deadline held runs later slot
  have owner := counted.held executionId userId held
  subst owner
  exact counted.covered executionId held slot deadline runs later

end Runs

section Examples

/-- One user submits one execution, and everyone else schedules it. -/
def oneExecution : Caller → QueueCall
  | 0 => .reserveUserSlot "u" "a" 100
  | 1 => .enqueue (requestOf "a" "u")
  | _ => .trySchedule 10

/-- The submission of the execution. -/
def submitted : List (Move Caller Choice WorldEvent) :=
  [.caller 0 {}, .caller 0 {}, .caller 1 {}, .caller 1 {}]

/-- One attempt to schedule it. -/
def scheduled : List (Move Caller Choice WorldEvent) :=
  List.replicate 5 (.caller 2 {})

/-- The execution waits until a second before its user's key expires, and is
scheduled; two seconds later its slot is not counted any more. -/
theorem uncounted_after_wait :
    ∃ final, backend.machine.run (start {} oneExecution)
        (submitted ++ [.environment (.tick (seconds 86399))] ++ scheduled ++
          [.environment (.tick (seconds 2))]) = some final ∧
      final.shared.queue.reservations "a" = some (.held "u") ∧
      final.shared.clock = seconds 86401 ∧
      final.shared.queue.running.score "a" = some (seconds 86999) ∧
      final.shared.queue.provisional = ∅ ∧
      "a" ∉ final.shared.queue.userSet final.shared.clock "u" := by
  have ends : (backend.machine.run (start {} oneExecution)
      (submitted ++ [.environment (.tick (seconds 86399))] ++ scheduled ++
        [.environment (.tick (seconds 2))])).map (fun final =>
          (final.shared.queue.reservations "a", final.shared.clock,
            final.shared.queue.running.score "a",
            final.shared.queue.provisional,
            decide ("a" ∈
              final.shared.queue.userSet final.shared.clock "u"))) =
      some (some (.held "u"), seconds 86401, some (seconds 86999), ∅,
        false) := by decide +kernel
  obtain ⟨final, reached, shown⟩ := Option.map_eq_some_iff.mp ends
  simp only [Prod.mk.injEq, decide_eq_false_iff_not] at shown
  exact ⟨final, reached, shown⟩

/-- Check the condition of the law at a step, for runs in which no time
passes. -/
def inTimeCheck (ownerOf : ExecutionId → UserId) (state : Backend) :
    Move Caller Choice WorldEvent → Bool
  | .caller caller _ =>
      let queue := state.shared.queue
      match state.awaited caller with
      | some (.queue (.moveDeadlines executionId _ _)) =>
          decide (executionId ∈
            queue.userSet state.shared.clock (ownerOf executionId))
      | some (.queue (.owner executionId)) =>
          (queue.owners.get state.shared.clock executionId).isSome
      | some (.queue (.reserveUserSlot _ executionId _ _)) =>
          (queue.running.score executionId).isNone
      | _ => true
  | .environment (.tick _) => false
  | _ => true

theorem inTime_of_check {ownerOf : ExecutionId → UserId} (state : Backend)
    (move : Move Caller Choice WorldEvent)
    (checked : inTimeCheck ownerOf state move = true) :
    InTime ownerOf False state move := by
  cases move with
  | caller caller choice =>
      intro command awaits
      refine ⟨?_, False.elim⟩
      simp only [inTimeCheck, awaits] at checked
      unfold Kept
      split
      · intro _
        exact of_decide_eq_true checked
      · intro _ missing
        simp [missing] at checked
      · intro deadline runs
        simp [runs] at checked
      · trivial
  | environment event =>
      cases event with
      | tick duration => cases checked
      | _ => trivial
  | kill caller => trivial

theorem counted_while_kept_scheduled :
    ∃ final counted, backend.machine.run (start {} oneExecution)
        (submitted ++ scheduled) = some final ∧
      (final.shared.queue.userSet final.shared.clock "u").score "a" =
        some counted ∧
      seconds 600 ≤ counted := by
  have ends : (backend.machine.run (start {} oneExecution)
      (submitted ++ scheduled)).map (fun final =>
        (final.shared.queue.reservations "a", final.shared.clock,
          final.shared.queue.running.score "a",
          final.shared.queue.provisional)) =
      some (some (.held "u"), 0, some (seconds 600), ∅) := by
    decide +kernel
  obtain ⟨final, reached, shown⟩ := Option.map_eq_some_iff.mp ends
  simp only [Prod.mk.injEq] at shown
  have oneUser : ∀ caller userId executionId limit,
      oneExecution caller = .reserveUserSlot userId executionId limit →
        (fun _ => "u") executionId = userId := by
    intro caller userId executionId limit reserves
    unfold oneExecution at reserves
    split at reserves <;> cases reserves
    rfl
  have ownRequests : ∀ caller event, oneExecution caller = .enqueue event →
      event.metadata.userId = (fun _ => "u") event.executionId := by
    intro caller event enqueues
    unfold oneExecution at enqueues
    split at enqueues <;> cases enqueues
    rfl
  have law := counted_while_kept oneUser ownRequests rfl
    (backend.machine.along_of_check inTime_of_check
      (show backend.machine.checkAlong (inTimeCheck fun _ => "u")
        (start {} oneExecution) (submitted ++ scheduled) = true by
          decide +kernel)) reached
  obtain ⟨counted, scored, reaches⟩ := law.1 "a" "u" (seconds 600) shown.1
    shown.2.2.1 (by rw [shown.2.1]; decide)
    (.inr (by rw [shown.2.2.2]; exact Finset.notMem_empty _))
  exact ⟨final, counted, reached, scored, reaches⟩

end Examples

end CountedSlots

end Integr8s
