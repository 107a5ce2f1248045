/-
Module: Integr8s.Proofs.StrandedLetters
Purpose: When the dead letter queue strands no row, over all interleavings of
  failing events and retry jobs whose publishes fail in any pattern, with the
  failed notification that strands one as a counterexample.
Trusted boundary: none
Main exports: StrandedLetters.DLQCall, StrandedLetters.Settled,
  StrandedLetters.OnlyPublishesFail, StrandedLetters.Careful,
  StrandedLetters.settled_when_careful, StrandedLetters.notification_strands
-/
import Integr8s.Dlq.Manager
import Integr8s.Proofs.KeyCheck
import Integr8s.Proofs.LetterSteps

namespace Integr8s

namespace StrandedLetters

/-- An operation of the dead letter queue. -/
inductive DLQCall where
  | handleMessage (testEnvironment : Bool) (message : DLQMessageDocument)
  | processDueRetries
deriving DecidableEq, Repr

/-- The coroutine of an operation. -/
def DLQCall.run : DLQCall → Program Unit
  | .handleMessage testEnvironment message => do
      let now ← request .now
      DLQManager.handleMessage testEnvironment message now
  | .processDueRetries => DLQManager.processDueRetries

/-- Any number of operations over a queue that is empty. -/
def start (clock : Nat) (messages : List Message)
    (calls : Caller → DLQCall) : Backend where
  shared := { clock := clock, messages := messages }
  running caller := some (calls caller).run

/-- The event of a row went back into the topic, for the row's consumer group
and with the row's count. -/
def Republished (world : World) (row : DLQMessageDocument) : Prop :=
  ∃ message ∈ world.log,
    message.event.base.eventId = row.event.base.eventId ∧
      message.targetGroup = some row.consumerGroup ∧
      message.retryCount = row.retryCount

/-- A row that the retry loop will pick up, or that nothing has to be done
for. -/
def Settled (world : World) (row : DLQMessageDocument) : Prop :=
  (row.status = .scheduled ∧ row.nextRetryAt.isSome = true) ∨
    row.status = .discarded ∨
    (row.status = .retried ∧ Republished world row)

/-- The Kafka publishes of the manager. -/
def publishes : Command → Bool
  | .delivery (.republish _) | .delivery (.notify _) => true
  | _ => false

/-- Only publishes fail, and no process dies. -/
def OnlyPublishesFail (state : Backend) : Move Caller Choice WorldEvent → Prop
  | .caller caller choice =>
      ∀ command, state.awaited caller = some command →
        publishes command = true ∨ choice.outcome = .succeeds
  | .environment _ => True
  | .kill _ => False

/-- An operation that saves the row of an event in a consumer group. -/
def DLQCall.Saves (call : DLQCall) (eventId : EventId)
    (consumerGroup : String) : Prop :=
  ∃ testEnvironment message, call = .handleMessage testEnvironment message ∧
    message.event.base.eventId = eventId ∧
    message.consumerGroup = consumerGroup

/-- The row of an event in a consumer group keeps a retry time, or the
operation that saved it has still to schedule or discard it. -/
def Reschedules (calls : Caller → DLQCall) (world : World) (eventId : EventId)
    (consumerGroup : String) : Prop :=
  ∀ row ∈ world.deadLetters, row.isFor eventId consumerGroup = true →
    row.nextRetryAt.isSome = true ∨
      ∃ saver ∈ world.owing, (calls saver).Saves eventId consumerGroup

/-- The condition of the law on a command: the notification of a saved row is
published; a retry that is not published says so with an error that the
manager expects; and a row that goes back to `SCHEDULED` without a retry time
still has one. -/
def MayGo (calls : Caller → DLQCall) (world : World) :
    Command → Choice → Prop
  | .delivery (.notify (.received ..)), choice => choice.outcome = .succeeds
  | .delivery (.republish _), choice =>
      ∀ error, choice.outcome = .fails error → error.isProduceError = true
  | .delivery (.updateStatus eventId consumerGroup changes), _ =>
      changes.status = .scheduled → changes.nextRetryAt = none →
        Reschedules calls world eventId consumerGroup
  | _, _ => True

/-- The condition of the law at a step. -/
def Careful (calls : Caller → DLQCall) (state : Backend) :
    Move Caller Choice WorldEvent → Prop
  | .caller caller choice =>
      ∀ command, state.awaited caller = some command →
        MayGo calls state.shared command choice
  | _ => True

/-- No operation that has begun is in progress. -/
def Finished (moves : List (Move Caller Choice WorldEvent))
    (final : Backend) : Prop :=
  ∀ move ∈ moves, ∀ caller, System.Move.about? move = some caller →
    ¬ final.atWork caller

/-! ### The law and its invariant -/

section Law

variable (calls : Caller → DLQCall)

/-- The call has marked a row and has not published it. -/
def Marks (caller : Caller) (world : World) (row : DLQMessageDocument) :
    Prop :=
  caller ∈ world.retrying ∧ world.marking caller =
    some ⟨row.event.base.eventId, row.consumerGroup, some row.retryCount⟩

/-- The call saved the row and has not scheduled or discarded it. -/
def Owes (caller : Caller) (world : World) (row : DLQMessageDocument) :
    Prop :=
  caller ∈ world.owing ∧
    (calls caller).Saves row.event.base.eventId row.consumerGroup

/-- Some operation in progress has still to move the row. -/
def InCharge (world : World) (row : DLQMessageDocument) : Prop :=
  (∃ caller, Owes calls caller world row) ∨
    (row.status = .retried ∧ ∃ caller, Marks caller world row)

/-- The invariant of the law: an operation is in charge of every row that is
not settled. -/
def Kept (world : World) : Prop :=
  ∀ row ∈ world.deadLetters, Settled world row ∨ InCharge calls world row

/-- The call has nothing left to see to. -/
def Idle (caller : Caller) (world : World) : Prop :=
  caller ∉ world.owing ∧ caller ∉ world.retrying

/-- How a command may go. -/
def Allows (_ : Caller) (world : World) (command : Command)
    (choice : Choice) : Prop :=
  (publishes command = true ∨ choice.outcome = .succeeds) ∧
    MayGo calls world command choice

def contract : BackendContract where
  invariant := Kept calls
  guarantee caller before after :=
    (∀ other, other ≠ caller → Own other before after) ∧
      RowsLast before after
  rely := Own
  progress := RowsLast
  gone := Idle
  allows := Allows calls
  mayKill _ _ := False

/-! ### What each command does to the rows -/

section Steps

variable {calls} {caller : Caller} {world before after : World}
  {message row : DLQMessageDocument} {changes : DLQMessageChanges}

theorem Idle.stable (relied : Own caller before after)
    (idle : Idle caller before) : Idle caller after :=
  ⟨relied.owing.not.mpr idle.1, relied.retrying.not.mpr idle.2⟩

/-- A settled row stays so while the log grows. -/
theorem Settled.grow (settled : Settled before row)
    (grows : ∀ message ∈ before.log, message ∈ after.log) :
    Settled after row := by
  rcases settled with scheduled | discarded | ⟨retried, message, sent, its⟩
  · exact .inl scheduled
  · exact .inr (.inl discarded)
  · exact .inr (.inr ⟨retried, message, grows message sent, its⟩)

theorem Kept.same (kept : Kept calls before) (same : SameLetters before after) :
    Kept calls after := by
  intro row member
  rw [same.deadLetters] at member
  rcases kept row member with settled | ⟨owner, owes⟩ | ⟨retried, marker, marks⟩
  · exact .inl (settled.grow fun message sent => same.log ▸ sent)
  · exact .inr (.inl ⟨owner, same.owing ▸ owes.1, owes.2⟩)
  · exact .inr (.inr ⟨retried, marker, same.retrying ▸ marks.1,
      (congrFun same.marking marker).trans marks.2⟩)

/-- Whoever saves a row is in charge of it. -/
theorem Kept.saveMessage (kept : Kept calls world)
    (saves : (calls caller).Saves message.event.base.eventId
      message.consumerGroup) :
    Kept calls (world.saveMessage caller message) := by
  intro row member
  rcases World.mem_saveMessage member with rfl | ⟨present, -⟩
  · exact .inr (.inl ⟨caller, Finset.mem_insert_self .., saves⟩)
  · rcases kept row present with settled | ⟨owner, owes⟩ | marked
    · exact .inl settled
    · exact .inr (.inl ⟨owner, Finset.mem_insert_of_mem owes.1, owes.2⟩)
    · exact .inr (.inr marked)

/-- Whoever marks a row has to publish it. -/
theorem Kept.noteMark (kept : Kept calls world) (idle : Idle caller world)
    {eventId : EventId} {consumerGroup : String} {count : Nat}
    (retried : changes.status = .retried)
    (counts : changes.retryCount = some count) :
    Kept calls ((world.changeRow eventId consumerGroup changes).noteMark caller
      ⟨eventId, consumerGroup, changes.retryCount⟩) := by
  intro row member
  rcases World.mem_changeRow member with ⟨old, -, its, rfl⟩ | ⟨present, -⟩
  · right; right
    refine ⟨retried, caller, Finset.mem_insert_self .., ?_⟩
    obtain ⟨sameEvent, sameGroup⟩ := DLQMessageDocument.isFor_iff.mp its
    simp [World.noteMark, DLQMessageDocument.change, counts, sameEvent,
      sameGroup]
  · rcases kept row present with
      settled | owed | ⟨status, marker, marks⟩
    · exact .inl settled
    · exact .inr (.inl owed)
    · right; right
      have different : marker ≠ caller := by
        rintro rfl
        exact idle.2 marks.1
      refine ⟨status, marker, Finset.mem_insert_of_mem marks.1, ?_⟩
      simpa [World.noteMark, World.changeRow, different] using marks.2

/-- A call that scheduled or discarded the rows of an event in a consumer
group was in charge of no others. -/
theorem Kept.noteSettled (kept : Kept calls world)
    {eventId : EventId} {consumerGroup : String}
    (own : ∀ row, Owes calls caller world row ∨ Marks caller world row →
      row.isFor eventId consumerGroup = true)
    (settles : ∀ row ∈ world.deadLetters,
      row.isFor eventId consumerGroup = true →
        Settled world (row.change changes world.clock) ∨
          ∃ owner, owner ≠ caller ∧ Owes calls owner world row) :
    Kept calls
      ((world.changeRow eventId consumerGroup changes).noteSettled caller) := by
  intro row member
  rcases World.mem_changeRow member with
    ⟨old, present, its, rfl⟩ | ⟨present, others⟩
  · rcases settles old present its with settled | ⟨owner, different, owes⟩
    · exact .inl settled
    · exact .inr (.inl ⟨owner, Finset.mem_erase_of_ne_of_mem different owes.1,
        owes.2⟩)
  · have another : ∀ owner,
        Owes calls owner world row ∨ Marks owner world row →
          owner ≠ caller := by
      rintro owner charged rfl
      have same := own row charged
      simp [others] at same
    rcases kept row present with
      settled | ⟨owner, owes⟩ | ⟨status, marker, marks⟩
    · exact .inl settled
    · exact .inr (.inl ⟨owner,
        Finset.mem_erase_of_ne_of_mem (another owner (.inl owes)) owes.1,
        owes.2⟩)
    · exact .inr (.inr ⟨status, marker,
        Finset.mem_erase_of_ne_of_mem (another marker (.inr marks)) marks.1,
        marks.2⟩)

/-- A row that its marker published is settled. -/
theorem Kept.republish (kept : Kept calls world) {retry : Message}
    (own : ∀ row, Marks caller world row →
      retry.event.base.eventId = row.event.base.eventId ∧
        retry.targetGroup = some row.consumerGroup ∧
        retry.retryCount = row.retryCount) :
    Kept calls (world.republish caller retry) := by
  intro row member
  rcases kept row member with
    settled | ⟨owner, owes⟩ | ⟨status, marker, marks⟩
  · left
    apply settled.grow
    intro message sent
    rw [World.log_republish]
    exact List.mem_append_left _ sent
  · exact .inr (.inl ⟨owner, owes⟩)
  · by_cases same : marker = caller
    · subst same
      left; right; right
      refine ⟨status, retry.sent, ?_, own row marks⟩
      rw [World.log_republish]
      exact List.mem_append_right _ (List.mem_singleton_self _)
    · exact .inr (.inr ⟨status, marker,
        Finset.mem_erase_of_ne_of_mem same marks.1, marks.2⟩)

end Steps

/-! ### The rules for calls

A row that is not settled has an operation in charge of it, which saved it or
marked it.  The rules follow that operation until it has settled the row. -/

section Coroutines

variable {calls} {caller : Caller} {world : World}

/-- A command that leaves the law's invariant alone leads where its answer
leads, since no command changes what others are in charge of. -/
theorem leads_effect {command : Command} {choice : Choice}
    {continues : World → Prop}
    (kept : Kept calls (world.effect caller choice command).2)
    (answers : ∀ later, Own caller (world.effect caller choice command).2
      later → Kept calls later → continues later) :
    Leads (contract calls) caller world (world.effect caller choice command).2
      continues :=
  ⟨kept, ⟨fun _ different => World.effect_own different command,
    World.effect_rows command⟩, fun later reached =>
      answers later reached.1 reached.2⟩

theorem sure_of_quiet {command : Command} (quiet : publishes command = false)
    (choice : Choice) (allowed : Allows calls caller world command choice) :
    choice.outcome = .succeeds := by
  apply allowed.1.resolve_left
  simp [quiet]

/-- A command that goes through. -/
theorem wp_sure {command : Command}
    {post : Except PyException (Reply command) → World → Prop}
    (sure : ∀ choice, Allows calls caller world command choice →
      choice.outcome = .succeeds)
    (keeps : ∀ choice, Allows calls caller world command choice →
      Kept calls (world.effect caller choice command).2)
    (answers : ∀ choice later,
      Own caller (world.effect caller choice command).2 later →
        Kept calls later →
          post (world.effect caller choice command).1 later) :
    (contract calls).wp backend caller (request command) post world := by
  apply wp_request trivial
  · intro choice _ allowed
    exact leads_effect (keeps choice allowed) (answers choice)
  · intro choice error outcome allowed _
    rw [sure choice allowed] at outcome
    cases outcome
  · intro choice error outcome allowed _ _
    rw [sure choice allowed] at outcome
    cases outcome

/-- A value that is read or made up. -/
theorem wp_value {command : Command}
    {post : Except PyException (Reply command) → World → Prop}
    (kept : Kept calls world)
    (sure : ∀ choice, Allows calls caller world command choice →
      choice.outcome = .succeeds)
    (effects : ∀ choice, (world.effect caller choice command).2 = world)
    (answers : ∀ choice later, Own caller world later → Kept calls later →
      post (world.effect caller choice command).1 later) :
    (contract calls).wp backend caller (request command) post world := by
  apply wp_sure sure
  · intro choice _
    rw [effects choice]
    exact kept
  · intro choice later relied keptLater
    rw [effects choice] at relied
    exact answers choice later relied keptLater

/-- A notification by a call that has nothing left to see to. -/
theorem wp_notify {event : DLQEvent} (kept : Kept calls world)
    (idle : Idle caller world) :
    (contract calls).wp backend caller (DLQManager.notify event)
      (fun _ => Idle caller) world := by
  apply wp_unchanged trivial kept
  · exact ⟨fun other _ => Own.refl other world, RowsLast.refl world⟩
  · exact fun _ => rfl
  · rfl
  · intro _ later reached _
    exact idle.stable reached.1
  · intro _ later reached _
    exact idle.stable reached.1

/-- Scheduling or discarding a row ends what its call is in charge of. -/
theorem wp_settle {message : DLQMessageDocument} {changes : DLQMessageChanges}
    {post : Except PyException Unit → World → Prop} (kept : Kept calls world)
    (ends : changes.status = .scheduled ∨ changes.status = .discarded)
    (own : ∀ row, Owes calls caller world row ∨ Marks caller world row →
      row.isFor message.event.base.eventId message.consumerGroup = true)
    (settles : (changes.status = .scheduled → changes.nextRetryAt = none →
        Reschedules calls world message.event.base.eventId
          message.consumerGroup) →
      ∀ row ∈ world.deadLetters,
        row.isFor message.event.base.eventId message.consumerGroup = true →
          Settled world (row.change changes world.clock) ∨
            ∃ owner, owner ≠ caller ∧ Owes calls owner world row)
    (answers : ∀ later, Idle caller later → Kept calls later →
      post (.ok ()) later) :
    (contract calls).wp backend caller
      (DLQManager.updateStatus message changes) post world := by
  have effect : ∀ choice, (world.effect caller choice (.delivery
      (.updateStatus message.event.base.eventId message.consumerGroup
        changes))).2 =
      (world.changeRow message.event.base.eventId message.consumerGroup
        changes).noteSettled caller := by
    intro choice
    rcases ends with status | status <;>
      simp only [World.effect, World.effectDelivery, World.updateStatus,
        status]
  apply wp_sure (sure_of_quiet rfl)
  · intro choice allowed
    rw [effect choice]
    exact kept.noteSettled own (settles allowed.2)
  · intro choice later relied keptLater
    rw [effect choice] at relied
    refine answers later ?_ keptLater
    apply Idle.stable relied
    simp [Idle, World.noteSettled]

/-- The call has saved a row and still owes its next status. -/
structure Saved (calls : Caller → DLQCall) (message : DLQMessageDocument)
    (caller : Caller) (world : World) : Prop where
  owing : caller ∈ world.owing
  retrying : caller ∉ world.retrying
  saves : (calls caller).Saves message.event.base.eventId message.consumerGroup
  only : ∀ eventId consumerGroup,
    (calls caller).Saves eventId consumerGroup →
      message.event.base.eventId = eventId ∧
        message.consumerGroup = consumerGroup

variable {message : DLQMessageDocument}

theorem Saved.stable {before after : World} (relied : Own caller before after)
    (saved : Saved calls message caller before) :
    Saved calls message caller after :=
  ⟨relied.owing.mpr saved.owing, relied.retrying.not.mpr saved.retrying,
    saved.saves, saved.only⟩

theorem Saved.own (saved : Saved calls message caller world)
    (row : DLQMessageDocument)
    (charged : Owes calls caller world row ∨ Marks caller world row) :
    row.isFor message.event.base.eventId message.consumerGroup = true := by
  rcases charged with owes | marks
  · obtain ⟨sameEvent, sameGroup⟩ := saved.only _ _ owes.2
    exact DLQMessageDocument.isFor_iff.mpr
      ⟨sameEvent.symm, sameGroup.symm⟩
  · exact absurd marks.1 saved.retrying

theorem wp_discardMessage {reason : String} (kept : Kept calls world)
    (saved : Saved calls message caller world) :
    (contract calls).wp backend caller
      (DLQManager.discardMessage message reason) (fun _ => Idle caller)
      world := by
  rw [DLQManager.discardMessage, Contract.wp_bind]
  apply wp_value kept (sure_of_quiet rfl) fun _ => rfl
  intro _ stamped relied keptStamped
  have savedStamped := saved.stable relied
  simp only [World.effect]
  rw [Contract.wp_bind]
  apply wp_settle keptStamped (.inr rfl) savedStamped.own
  · intro _ row _ _
    exact .inl (.inr (.inl rfl))
  · intro settled idle keptSettled
    exact wp_notify keptSettled idle

/-- Handling a failed event leaves nothing to its call. -/
theorem wp_handleMessage {testEnvironment : Bool} {now : Nat}
    (is : calls caller = .handleMessage testEnvironment message)
    (kept : Kept calls world) (idle : Idle caller world) :
    (contract calls).wp backend caller
      (DLQManager.handleMessage testEnvironment message now)
      (fun _ => Idle caller) world := by
  have saves : (calls caller).Saves message.event.base.eventId
      message.consumerGroup :=
    ⟨testEnvironment, message, is, rfl, rfl⟩
  have only : ∀ eventId consumerGroup,
      (calls caller).Saves eventId consumerGroup →
        message.event.base.eventId = eventId ∧
          message.consumerGroup = consumerGroup := by
    rintro eventId consumerGroup ⟨environment, other, same, its⟩
    rw [is] at same
    cases same
    exact its
  unfold DLQManager.handleMessage
  split
  · rw [Contract.wp_bind]
    apply wp_sure (sure_of_quiet rfl)
    · intro choice _
      exact kept.saveMessage saves
    intro choice stored reliedStored keptStored
    simp only [World.effect, World.effectDelivery]
    have saved : Saved calls message caller stored := by
      refine Saved.stable reliedStored ⟨?_, idle.2, saves, only⟩
      exact Finset.mem_insert_self ..
    have published : ∀ choice, Allows calls caller stored
        (.delivery (.notify (.received message.event.base.eventId
          message.retryCount))) choice → choice.outcome = .succeeds :=
      fun _ allowed => allowed.2
    rw [Contract.wp_bind]
    apply wp_value keptStored published fun _ => rfl
    intro _ notified reliedNotified keptNotified
    have savedNotified := saved.stable reliedNotified
    simp only [World.effect, World.effectDelivery]
    split
    · exact wp_discardMessage keptNotified savedNotified
    · rw [Contract.wp_bind]
      apply wp_value keptNotified (sure_of_quiet rfl) fun _ => rfl
      intro choice drawn reliedDrawn keptDrawn
      have savedDrawn := savedNotified.stable reliedDrawn
      simp only [World.effect]
      rw [Contract.wp_bind]
      apply wp_value keptDrawn (sure_of_quiet rfl) fun _ => rfl
      intro _ planned reliedPlanned keptPlanned
      have savedPlanned := savedDrawn.stable reliedPlanned
      simp only [World.effect]
      apply wp_settle keptPlanned (.inl rfl) savedPlanned.own
      · intro _ row _ _
        exact .inl (.inl ⟨rfl, rfl⟩)
      · intro settled idleSettled _
        exact idleSettled
  · exact idle

/-- The call has nothing to save, and at most this retry to publish. -/
structure Retries (message : DLQMessageDocument) (caller : Caller)
    (world : World) : Prop where
  owing : caller ∉ world.owing
  marks : ∀ row, Marks caller world row →
    row.isFor message.event.base.eventId message.consumerGroup = true ∧
      row.retryCount = message.retryCount + 1

theorem Retries.stable {before after : World} (relied : Own caller before after)
    (retries : Retries message caller before) :
    Retries message caller after where
  owing := relied.owing.not.mpr retries.owing
  marks row marks := retries.marks row
    ⟨relied.retrying.mp marks.1, relied.marking.symm.trans marks.2⟩

/-- Marking a row as retried. -/
theorem wp_markRetried {changes : DLQMessageChanges}
    {post : Except PyException Unit → World → Prop}
    (kept : Kept calls world) (idle : Idle caller world)
    (retried : changes.status = .retried)
    (counts : changes.retryCount = some (message.retryCount + 1))
    (marked : ∀ later, Retries message caller later → Kept calls later →
      post (.ok ()) later) :
    (contract calls).wp backend caller
      (DLQManager.updateStatus message changes) post world := by
  have effect : ∀ choice, (world.effect caller choice (.delivery
      (.updateStatus message.event.base.eventId message.consumerGroup
        changes))).2 =
      (world.changeRow message.event.base.eventId message.consumerGroup
        changes).noteMark caller ⟨message.event.base.eventId,
          message.consumerGroup, changes.retryCount⟩ := by
    intro choice
    simp only [World.effect, World.effectDelivery, World.updateStatus, retried]
  apply wp_sure (sure_of_quiet rfl)
  · intro choice _
    rw [effect choice]
    exact kept.noteMark idle retried counts
  · intro choice later relied keptLater
    rw [effect choice] at relied
    refine marked later (Retries.stable relied ⟨idle.1, ?_⟩) keptLater
    intro row marks
    have same := marks.2
    simp only [World.noteMark, Function.update_self, counts, Option.some.injEq,
      RetryMark.mk.injEq] at same
    obtain ⟨sameEvent, sameGroup, sameCount⟩ := same
    exact ⟨DLQMessageDocument.isFor_iff.mpr ⟨sameEvent.symm, sameGroup.symm⟩,
      sameCount.symm⟩

/-- Publishing a retry, or failing to. -/
theorem wp_republish {retry : Message}
    {post : Except PyException Unit → World → Prop}
    (kept : Kept calls world) (retries : Retries message caller world)
    (its : retry.event = message.event)
    (addressed : retry.targetGroup = some message.consumerGroup)
    (counts : retry.retryCount = message.retryCount + 1)
    (publishes : ∀ later, Idle caller later → Kept calls later →
      post (.ok ()) later)
    (loses : ∀ error later, Idle caller later → Kept calls later →
      post (.error error) later)
    (fails : ∀ error later, error.isProduceError = true →
      Retries message caller later → Kept calls later →
        post (.error error) later) :
    (contract calls).wp backend caller
      (request (.delivery (.republish retry))) post world := by
  have sent : Kept calls (world.republish caller retry) := by
    apply kept.republish
    intro row marks
    obtain ⟨same, count⟩ := retries.marks row marks
    obtain ⟨sameEvent, sameGroup⟩ := DLQMessageDocument.isFor_iff.mp same
    exact ⟨(congrArg (·.base.eventId) its).trans sameEvent.symm,
      addressed.trans (congrArg some sameGroup.symm), counts.trans count.symm⟩
  have idle : Idle caller (world.republish caller retry) := by
    simp [Idle, World.republish, retries.owing]
  apply wp_request trivial
  · intro choice _ _
    apply leads_effect sent
    intro later relied keptLater
    exact publishes later (idle.stable relied) keptLater
  · intro choice error outcome allowed _
    refine ⟨kept, ⟨fun other _ => Own.refl other world, RowsLast.refl world⟩,
      fun later reached => ?_⟩
    exact fails error later (allowed.2 error outcome)
      (retries.stable reached.1) reached.2
  · intro choice error _ _ _ _
    apply leads_effect sent
    intro later relied keptLater
    exact loses error later (idle.stable relied) keptLater

/-- A retry that was not published puts its row back. -/
theorem wp_revert {changes : DLQMessageChanges}
    {post : Except PyException Unit → World → Prop}
    (kept : Kept calls world) (retries : Retries message caller world)
    (scheduled : changes.status = .scheduled)
    (timeless : changes.nextRetryAt = none)
    (reverted : ∀ later, Idle caller later → Kept calls later →
      post (.ok ()) later) :
    (contract calls).wp backend caller
      (DLQManager.updateStatus message changes) post world := by
  apply wp_settle kept (.inl scheduled)
  · intro row charged
    rcases charged with owes | marks
    · exact absurd owes.1 retries.owing
    · exact (retries.marks row marks).1
  · intro reschedules row present its
    rcases reschedules scheduled timeless row present its with
      timed | ⟨saver, owes, saves⟩
    · refine .inl (.inl ⟨scheduled, ?_⟩)
      simpa [DLQMessageDocument.change, timeless] using timed
    · obtain ⟨sameEvent, sameGroup⟩ := DLQMessageDocument.isFor_iff.mp its
      refine .inr ⟨saver, ?_, owes, sameEvent ▸ sameGroup ▸ saves⟩
      rintro rfl
      exact retries.owing owes
  · exact reverted

/-- What follows a publish that raised: the row goes back if the manager
expects the error. -/
theorem wp_notPublished {error : PyException} {changes : DLQMessageChanges}
    {post : Except PyException Unit → World → Prop}
    (kept : Kept calls world) (retries : Retries message caller world)
    (ends : Idle caller world ∨ error.isProduceError = true)
    (scheduled : changes.status = .scheduled)
    (timeless : changes.nextRetryAt = none)
    (raises : ∀ error later, Idle caller later → post (.error error) later) :
    (contract calls).wp backend caller
      (if error.isProduceError then do
          DLQManager.updateStatus message changes
          Coroutine.raise error
        else Coroutine.raise error) post world := by
  split
  · rw [Contract.wp_bind]
    apply wp_revert kept retries scheduled timeless
    intro later idleLater _
    exact raises error later idleLater
  · next other => exact raises error world (ends.resolve_right other)

/-- Retrying a row leaves nothing to its call. -/
theorem wp_retryMessage (message : DLQMessageDocument)
    (kept : Kept calls world) (idle : Idle caller world) :
    (contract calls).wp backend caller (DLQManager.retryMessage message)
      (fun _ => Idle caller) world := by
  rw [DLQManager.retryMessage, Contract.wp_bind]
  apply wp_value kept (sure_of_quiet rfl) fun _ => rfl
  intro _ stamped relied keptStamped
  simp only [World.effect]
  rw [Contract.wp_bind]
  apply wp_markRetried keptStamped (idle.stable relied) rfl rfl
  intro marked retries keptMarked
  dsimp only
  rw [Contract.wp_bind, Contract.wp_attempt]
  refine wp_republish keptMarked retries rfl rfl rfl ?_ ?_ ?_
  · intro published idlePublished keptPublished
    exact wp_notify keptPublished idlePublished
  · intro error failed idleFailed keptFailed
    -- An answer that is lost reverts a row that was published all the same.
    have nothing : Retries message caller failed :=
      ⟨idleFailed.1, fun row marks => absurd marks.1 idleFailed.2⟩
    exact wp_notPublished keptFailed nothing (.inl idleFailed) rfl rfl
      fun _ _ idleLater => idleLater
  · intro error failed produce retriesFailed keptFailed
    exact wp_notPublished keptFailed retriesFailed (.inr produce) rfl rfl
      fun _ _ idleLater => idleLater

theorem wp_retryAll (messages : List DLQMessageDocument)
    (kept : Kept calls world) (idle : Idle caller world) :
    (contract calls).wp backend caller (DLQManager.retryAll messages)
      (fun _ => Idle caller) world := by
  induction messages generalizing world with
  | nil => exact idle
  | cons message messages inductionHypothesis =>
      rw [DLQManager.retryAll, Contract.wp_bind]
      apply Contract.wp_mono _ kept (wp_retryMessage message kept idle)
      intro reply later keptLater idleLater
      cases reply with
      | ok _ => exact inductionHypothesis keptLater idleLater
      | error error => exact idleLater

/-- A cycle of the retry loop leaves nothing to its call. -/
theorem wp_processDueRetries (kept : Kept calls world)
    (idle : Idle caller world) :
    (contract calls).wp backend caller DLQManager.processDueRetries
      (fun _ => Idle caller) world := by
  rw [DLQManager.processDueRetries, Contract.wp_bind]
  apply wp_value kept (sure_of_quiet rfl) fun _ => rfl
  intro _ found relied keptFound
  exact wp_retryAll _ keptFound (idle.stable relied)

/-- Every operation of the queue leaves nothing to its call. -/
theorem wp_run (kept : Kept calls world) (idle : Idle caller world) :
    (contract calls).wp backend caller (calls caller).run
      (fun _ => Idle caller) world := by
  cases is : calls caller with
  | handleMessage testEnvironment message =>
      rw [DLQCall.run, Contract.wp_bind]
      apply wp_value kept (sure_of_quiet rfl) fun _ => rfl
      intro _ stamped relied keptStamped
      exact wp_handleMessage is keptStamped (idle.stable relied)
  | processDueRetries => exact wp_processDueRetries kept idle

end Coroutines

theorem sound : (contract calls).Sound backend := by
  constructor
  · exact Own.refl
  · intro caller first second third
    exact Own.trans
  · exact RowsLast.refl
  · intro caller other before after different _ _ promised
    exact promised.1 other different
  · intro caller before after _ promised
    exact promised.2
  · intro atWork world event next kept _ happened
    have same : SameLetters world next := by
      rcases World.happen_cases happened with
        ⟨duration, -, rfl⟩ | ⟨executions, rfl⟩ <;>
      exact ⟨rfl, rfl, rfl, rfl, rfl, rfl, rfl⟩
    exact ⟨kept.same same, same.rows, fun caller _ => same.own caller,
      fun caller idle => idle.stable (same.own caller)⟩
  · intro world caller next _ may
    cases may
  · intro caller before after relied idle
    exact idle.stable relied

theorem stable_idle : (contract calls).Stable backend
    (fun caller (_ : Except PyException Unit) => Idle caller) :=
  BackendContract.stable (fun _ _ _ relied idle => idle.stable relied)
    (fun _ _ _ idle => idle) (fun _ _ _ idle => idle)

end Law

/-! ### The law over runs -/

section Runs

variable {calls : Caller → DLQCall} {clock : Nat} {messages : List Message}
  {moves : List (Move Caller Choice WorldEvent)} {final : Backend}

theorem start_safe (calls : Caller → DLQCall) (clock : Nat)
    (messages : List Message) :
    (contract calls).Safe backend (fun caller _ => Idle caller)
      (start clock messages calls) := by
  apply Contract.Safe.start (sound calls)
  · intro row member
    cases member
  · intro caller dead
    cases dead
  · intro caller coroutine runs later reached
    cases runs
    apply wp_run reached.2
    apply Idle.stable reached.1
    simp [Idle, start]

theorem guard_of_careful (state : Backend)
    (move : Move Caller Choice WorldEvent)
    (meets : OnlyPublishesFail state move ∧ Careful calls state move) :
    (contract calls).guard state move := by
  cases move with
  | caller caller choice =>
      intro command awaits
      exact ⟨meets.1 command awaits, meets.2 command awaits⟩
  | environment event => trivial
  | kill caller => exact meets.1

/-- What nobody has begun is in charge of nothing. -/
theorem idle_of_untouched
    (reached : backend.machine.run (start clock messages calls) moves =
      some final) {caller : Caller}
    (untouched : ∀ move ∈ moves, System.Move.about? move ≠ some caller) :
    Idle caller final.shared := by
  have same := backend.run_view
    (fun world : World => (caller ∈ world.owing, caller ∈ world.retrying))
    reached untouched (fun other world command choice reply next different
        performed => by
      have own := World.perform_own (Ne.symm different) performed
      exact Prod.ext (propext own.owing) (propext own.retrying))
    (fun world event next happened => by
      rcases World.happen_cases happened with
        ⟨duration, -, rfl⟩ | ⟨executions, rfl⟩ <;> rfl)
    (fun world other next different killed => by
      cases killed
      have another := Ne.symm different
      exact Prod.ext (propext (by simp [World.depart, World.dropSighting,
        another])) (propext (by simp [World.depart, World.dropSighting,
          another])))
  simp only [Prod.mk.injEq] at same
  constructor
  · rw [same.1]
    simp [start]
  · rw [same.2]
    simp [start]

/-- In every careful run in which only publishes fail, a row that was saved is
settled whenever no operation of the queue is in progress.  Until then the
operation that saved or marked the row is in charge of it. -/
theorem settled_when_careful {first second : List (Move Caller Choice WorldEvent)}
    {middle : Backend}
    (saved : backend.machine.run (start clock messages calls) first =
      some middle)
    (reached : backend.machine.run middle second = some final)
    (publishes : backend.machine.Along OnlyPublishesFail
      (start clock messages calls) (first ++ second))
    (careful : backend.machine.Along (Careful calls)
      (start clock messages calls) (first ++ second))
    (finished : Finished (first ++ second) final) :
    ∀ row ∈ middle.shared.deadLetters,
      (∃ kept ∈ final.shared.deadLetters, kept.key = row.key) ∧
        ∀ kept ∈ final.shared.deadLetters, kept.key = row.key →
          Settled final.shared kept := by
  have whole : backend.machine.run (start clock messages calls)
      (first ++ second) = some final := by
    rw [Machine.run_append, saved]
    exact reached
  have guarded : backend.machine.Along (contract calls).guard
      (start clock messages calls) (first ++ second) :=
    (publishes.and careful).mono guard_of_careful
  have begins := start_safe calls clock messages
  have safe := (sound calls).run (stable_idle calls) begins guarded whole
  have parts := backend.machine.along_append saved guarded
  have safeMiddle := (sound calls).run (stable_idle calls) begins parts.1 saved
  have lasts := (sound calls).run_progress (stable_idle calls)
    (fun _ _ _ => RowsLast.trans) safeMiddle parts.2 reached
  have idle : ∀ caller, Idle caller final.shared := by
    intro caller
    by_cases untouched : ∀ move ∈ first ++ second,
        System.Move.about? move ≠ some caller
    · exact idle_of_untouched whole untouched
    · push Not at untouched
      obtain ⟨move, member, touches⟩ := untouched
      have rests := finished move member caller touches
      cases runs : final.running caller with
      | none => exact safe.gone caller runs
      | some coroutine =>
          cases ended : coroutine.result? with
          | none => exact absurd ⟨coroutine, runs, ended⟩ rests
          | some result =>
              rw [Coroutine.result_eq_some ended] at runs
              exact safe.ended caller result runs
  intro row member
  refine ⟨lasts row member, fun kept present _ => ?_⟩
  rcases safe.invariant kept present with
    settled | ⟨owner, owes⟩ | ⟨-, marker, marks⟩
  · exact settled
  · exact absurd owes.1 (idle owner).1
  · exact absurd marks.1 (idle marker).2

end Runs

section Examples

/-- A cancellation that the scheduler's handler failed on. -/
def failedCancellation : DLQMessageDocument where
  event := .executionCancelled
    { eventId := "v1"
      metadata :=
        { serviceName := "execution-service"
          serviceVersion := "2.0.0"
          userId := "u1" }
      executionId := "e1"
      cancelledBy := "u1" }
  originalTopic := .executionCancelled
  consumerGroup := "saga-orchestrator"
  error := .redisError
  retryCount := 0
  failedAt := 0
  producerId := "execution-service"

/-- One event failed, and the retry loop runs. -/
def oneFailure : Caller → DLQCall
  | 0 => .handleMessage false failedCancellation
  | _ => .processDueRetries

/-- The row is saved. -/
def savesRow : List (Move Caller Choice WorldEvent) :=
  [.caller 0 {}, .caller 0 {}]

/-- Its notification is published, and its retry is scheduled. -/
def schedulesRow : List (Move Caller Choice WorldEvent) :=
  List.replicate 4 (.caller 0 {})

/-- A check by evaluation that only publishes fail. -/
def publishesCheck (state : Backend) : Move Caller Choice WorldEvent → Bool
  | .caller caller choice =>
      (state.awaited caller).all publishes || choice.outcome == .succeeds
  | .environment _ => true
  | .kill _ => false

private theorem onlyPublishesFail_of_check (state : Backend)
    (move : Move Caller Choice WorldEvent)
    (checked : publishesCheck state move = true) :
    OnlyPublishesFail state move := by
  cases move with
  | environment event => trivial
  | kill caller => cases checked
  | caller caller choice =>
      intro command awaits
      simpa [publishesCheck, awaits] using checked

/-- A check by evaluation that a step is careful: the command goes through, and
no row goes back to `SCHEDULED`. -/
def carefulCheck (state : Backend) : Move Caller Choice WorldEvent → Bool
  | .caller caller choice =>
      choice.outcome == .succeeds &&
        match state.awaited caller with
        | some (.delivery (.updateStatus _ _ changes)) =>
            changes.nextRetryAt.isSome
        | _ => true
  | .environment _ => true
  | .kill _ => false

theorem careful_of_check {calls : Caller → DLQCall} (state : Backend)
    (move : Move Caller Choice WorldEvent)
    (checked : carefulCheck state move = true) :
    Careful calls state move := by
  cases move with
  | environment event => trivial
  | kill caller => cases checked
  | caller caller choice =>
      simp only [carefulCheck, Bool.and_eq_true, beq_iff_eq] at checked
      intro command awaits
      have timed := checked.2
      simp only [awaits] at timed
      unfold MayGo
      split
      · exact checked.1
      · intro error fails
        rw [checked.1] at fails
        cases fails
      · intro _ timeless
        simp [timeless] at timed
      · trivial

theorem finished_of_hasEnded {moves : List (Move Caller Choice WorldEvent)}
    {final : Backend}
    (alone : ∀ move ∈ moves, System.Move.about? move = some 0)
    (ended : final.hasEnded 0 = true) : Finished moves final := by
  intro move member caller touches
  cases (alone move member).symm.trans touches
  exact Callers.not_atWork_of_hasEnded ended

theorem settled_when_careful_scheduled :
    ∃ middle final row,
      backend.machine.run (start 0 [] oneFailure) savesRow = some middle ∧
      backend.machine.run middle schedulesRow = some final ∧
      row ∈ middle.shared.deadLetters ∧ row.status = .pending ∧
      ∃ kept ∈ final.shared.deadLetters, kept.key = row.key ∧
        Settled final.shared kept := by
  have begins : (backend.machine.run (start 0 [] oneFailure) savesRow).map
      (fun middle => middle.shared.deadLetters) =
      some [{ failedCancellation with lastUpdated := some 0 }] := by
    decide +kernel
  obtain ⟨middle, saved, row⟩ := Option.map_eq_some_iff.mp begins
  have ends : (backend.machine.run (start 0 [] oneFailure)
      (savesRow ++ schedulesRow)).map (fun final => final.hasEnded 0) =
      some true := by decide +kernel
  obtain ⟨final, whole, ended⟩ := Option.map_eq_some_iff.mp ends
  have reached : backend.machine.run middle schedulesRow = some final := by
    rw [Machine.run_append, saved] at whole
    exact whole
  have publishes := backend.machine.along_of_check onlyPublishesFail_of_check
    (show backend.machine.checkAlong publishesCheck (start 0 [] oneFailure)
      (savesRow ++ schedulesRow) = true by decide +kernel)
  have careful : backend.machine.Along (Careful oneFailure)
      (start 0 [] oneFailure) (savesRow ++ schedulesRow) :=
    backend.machine.along_of_check careful_of_check (by decide +kernel)
  have present : { failedCancellation with lastUpdated := some 0 } ∈
      middle.shared.deadLetters := by
    rw [row]
    exact List.mem_singleton_self _
  have law := settled_when_careful saved reached publishes careful
    (finished_of_hasEnded (by decide) ended) _ present
  obtain ⟨⟨kept, lasts, same⟩, settled⟩ := law
  exact ⟨middle, final, _, saved, reached, present, rfl, kept, lasts, same,
    settled kept lasts same⟩

/-- The row is saved, and its notification is not published. -/
def losesNotification : List (Move Caller Choice WorldEvent) :=
  savesRow ++ [.caller 0 { outcome := .fails .kafkaError }]

/-- A row whose notification was not published stays `PENDING` without a retry
time, and no cycle of the retry loop ever finds it due. -/
theorem notification_strands :
    ∃ final, backend.machine.run (start 0 [] oneFailure) losesNotification =
        some final ∧
      backend.machine.Along OnlyPublishesFail (start 0 [] oneFailure)
        losesNotification ∧
      Finished losesNotification final ∧
      ∃ row ∈ final.shared.deadLetters, row.status = .pending ∧
        ¬ Settled final.shared row ∧ ∀ now, row.isDue now = false := by
  have ends : (backend.machine.run (start 0 [] oneFailure)
      losesNotification).map (fun final =>
        (final.hasEnded 0, final.shared.deadLetters)) =
      some (true, [{ failedCancellation with lastUpdated := some 0 }]) := by
    decide +kernel
  obtain ⟨final, reached, shown⟩ := Option.map_eq_some_iff.mp ends
  simp only [Prod.mk.injEq] at shown
  have publishes := backend.machine.along_of_check onlyPublishesFail_of_check
    (show backend.machine.checkAlong publishesCheck (start 0 [] oneFailure)
      losesNotification = true by decide +kernel)
  refine ⟨final, reached, publishes, finished_of_hasEnded (by decide) shown.1,
    { failedCancellation with lastUpdated := some 0 }, ?_, rfl, ?_,
    fun now => rfl⟩
  · rw [shown.2]
    exact List.mem_singleton_self _
  · rintro (⟨scheduled, -⟩ | discarded | ⟨retried, -⟩)
    · cases scheduled
    · cases discarded
    · cases retried

end Examples

end StrandedLetters

end Integr8s
