/-
Module: Integr8s.Proofs.FailedSubmissions
Purpose: What a submission that raises leaves behind: for every way in which
  its commands may go wrong, exactly when its user's slot is free again and no
  record of it is left active.
Trusted boundary: none
Main exports: FailedSubmissions.submitting, FailedSubmissions.NothingLeft,
  FailedSubmissions.CleansUp, FailedSubmissions.nothing_left_iff,
  FailedSubmissions.record_left_active
-/
import Integr8s.Proofs.LoneCalls

namespace Integr8s

namespace FailedSubmissions

open Setting

/-- Around a submission time passes.  Its commands may go wrong in any way, but
a reservation that fails took no slot, and the releases of slots work. -/
def submitting : Setting World Command Choice WorldEvent where
  event _ event := ∃ duration, event = .tick duration
  choice _ command choice :=
    match command with
    | .queue (.reserveUserSlot ..) =>
        ∀ error, choice.outcome ≠ .unacknowledged error
    | .queue _ => choice.outcome = .succeeds
    | _ => True

private theorem onlyTime_submitting : OnlyTime submitting :=
  fun _ _ tick => tick

/-- The condition on a command: a new record is not stored without an answer,
and the write of the error takes effect. -/
def CleansUp (world : World) (command : Command) (choice : Choice) : Prop :=
  match command with
  | .createExecution doc =>
      (∃ error, choice.outcome = .unacknowledged error) →
        world.executions doc.executionId ≠ none
  | .writeTerminalResult _ => ∀ error, choice.outcome ≠ .fails error
  | _ => True

/-- Nobody counts against a limit who did not before. -/
def NoSlot (before after : World) : Prop :=
  ∀ userId executionId,
    executionId ∈ after.queue.counted after.clock userId →
      executionId ∈ before.queue.counted before.clock userId

/-- No new record is active. -/
def NoRecord (before after : World) : Prop :=
  ∀ executionId doc, before.executions executionId = none →
    after.executions executionId = some doc → doc.status.isTerminal = true

/-- What a submission took is given back. -/
structure NothingLeft (before after : World) : Prop where
  slots : NoSlot before after
  records : NoRecord before after

/-- Nobody counts who did not before but the execution that reserved a slot,
and the key that names its owner lives as long as the slot. -/
structure Holding (executionId : ExecutionId) (before now : World) : Prop
    where
  counts : ∀ userId other, other ∈ now.queue.counted now.clock userId →
    other ∈ before.queue.counted before.clock userId ∨
      other = executionId ∧
        ∃ entry, now.queue.owners executionId = some entry ∧
          entry.value = userId ∧
          ∀ score, (now.queue.userSet now.clock userId).score executionId =
            some score → score ≤ entry.expiresAt

/-- What a reservation comes to. -/
def Reserved (executionId : ExecutionId) (before : World)
    (result : Except PyException Bool) (after : World) : Prop :=
  match result with
  | .ok true => Holding executionId before after
  | .ok false => NoSlot before after
  | .error _ => NoSlot before after

/-! ### What is left after each stage -/

section Stages

variable {executionId : ExecutionId} {before now later : World}

theorem NoSlot.of_passes (passed : before.Passes later) :
    NoSlot before later := by
  intro userId other counts
  rw [passed.queue] at counts
  exact QueueStore.counted_earlier passed.clock counts

theorem Holding.passes (holding : Holding executionId before now)
    (ordered : now.clock ≤ later.clock) (same : later.queue = now.queue) :
    Holding executionId before later := by
  refine ⟨fun userId other counts => ?_⟩
  rw [same] at counts
  rcases holding.counts userId other
      (QueueStore.counted_earlier ordered counts) with
    old | ⟨rfl, entry, owned, its, lasts⟩
  · exact .inl old
  · refine .inr ⟨rfl, entry, by rw [same, owned], its, ?_⟩
    intro score scored
    rw [same] at scored
    exact lasts score (QueueStore.score_userSet_earlier ordered scored)

theorem NoSlot.since (passed : before.Passes now) (freed : NoSlot now later) :
    NoSlot before later :=
  fun userId other counts =>
    NoSlot.of_passes passed userId other (freed userId other counts)

theorem Holding.since (passed : before.Passes now)
    (holding : Holding executionId now later) :
    Holding executionId before later :=
  ⟨fun userId other counts => (holding.counts userId other counts).imp_left
    (NoSlot.of_passes passed userId other)⟩

/-- A release takes back what the reservation took. -/
theorem Holding.released (holding : Holding executionId before now)
    (releases : now.Releases executionId later) : NoSlot before later := by
  intro userId other counts
  obtain ⟨score, scored⟩ := SortedSet.mem_iff_score.mp counts
  obtain ⟨stored, lasts⟩ := QueueStore.score_counted.mp scored
  have counted : other ∈ now.queue.counted now.clock userId :=
    SortedSet.mem_iff_score.mpr ⟨score, QueueStore.score_counted.mpr
      ⟨releases.scores userId other score stored,
        Nat.lt_of_le_of_lt releases.clock lasts⟩⟩
  rcases holding.counts userId other counted with
    old | ⟨rfl, entry, owned, rfl, covered⟩
  · exact old
  · have expired := releases.freed entry owned
      (SortedSet.mem_of_mem_prune counts)
    have covers := covered score (releases.scores _ _ _ stored)
    omega

/-- A reservation that finds no room drops only slots that ran out. -/
theorem noSlot_refused (now : Nat) (userId : UserId) (world : World) :
    NoSlot world { world with
      queue := world.queue.changeUserSet world.clock userId fun set =>
        set.prune now } := by
  intro user other counts
  obtain ⟨score, scored⟩ := SortedSet.mem_iff_score.mp counts
  obtain ⟨stored, lasts⟩ := QueueStore.score_counted.mp scored
  rw [QueueStore.userSet_changeUserSet rfl] at stored
  refine SortedSet.mem_iff_score.mpr
    ⟨score, QueueStore.score_counted.mpr ⟨?_, lasts⟩⟩
  split at stored
  · next same =>
      subst same
      rw [SortedSet.score_prune, Option.filter_eq_some_iff] at stored
      exact stored.1
  · exact stored

/-- A reservation counts its execution, for as long as its owner is known. -/
theorem holding_admitted {now : Nat} {world : World} (userId : UserId)
    (ordered : now ≤ world.clock) :
    Holding executionId world { world with
      queue := world.queue.admitUser world.clock userId executionId now } := by
  refine ⟨fun user other counts => ?_⟩
  obtain ⟨score, scored⟩ := SortedSet.mem_iff_score.mp counts
  obtain ⟨stored, lasts⟩ := QueueStore.score_counted.mp scored
  rw [QueueStore.userSet_admitUser] at stored
  have old : (world.queue.userSet world.clock user).score other =
      some score → other ∈ world.queue.counted world.clock user :=
    fun found => SortedSet.mem_iff_score.mpr
      ⟨score, QueueStore.score_counted.mpr ⟨found, lasts⟩⟩
  split at stored
  · next same =>
      subst same
      by_cases own : other = executionId
      · subst own
        refine .inr ⟨rfl, _, Function.update_self .., rfl, ?_⟩
        intro latest held
        simp only [QueueStore.userSet_admitUser, if_pos,
          SortedSet.score_add_self, Option.some.injEq] at held
        show latest ≤ world.clock + seconds eventTtl
        omega
      · rw [SortedSet.score_add_other own, SortedSet.score_prune,
          Option.filter_eq_some_iff] at stored
        exact .inl (old stored.1)
  · exact .inl (old stored)

end Stages

/-! ### The parts of a submission -/

section Parts

variable {caller : Caller} {executionId : ExecutionId} {before world : World}

/-- The commands whose way does not matter. -/
def Unwatched (command : Command) : Prop :=
  ∀ world choice, CleansUp world command choice

private theorem unwatched_of_passive {command : Command}
    (passive : command.isPassive = true) : Unwatched command := by
  intro world choice
  cases command <;> trivial

private theorem ends_reserveUserSlot (userId : UserId) (limit : Nat) :
    submitting.Ends backend caller
      (ExecutionQueueService.reserveUserSlot userId executionId limit)
      (fun result after => after.executions = world.executions ∧
        Reserved executionId world result after) world := by
  unfold ExecutionQueueService.reserveUserSlot
  rw [ends_bind]
  apply ends_quiet onlyTime_submitting rfl
  intro between choice reply next passed _ performed _
  rcases World.perform_cases performed with ⟨-, went⟩ | ⟨error, -, may, -⟩
  · cases went
    apply ends_call
    intro last later choice reply after may performed
    have passedOn := onlyTime_submitting.passes later
    have whole := passed.trans passedOn
    rcases World.perform_cases performed with
      ⟨-, went⟩ | ⟨error, rfl, -, ⟨-, rfl⟩ | ⟨outcome, -, -⟩⟩
    · rcases last.queue.reserveUserSlot_cases last.clock userId executionId
          between.clock limit with ⟨full, -⟩ | ⟨room, -⟩
      · simp only [World.effect, QueueStore.perform, full,
          Prod.mk.injEq] at went
        obtain ⟨rfl, rfl⟩ := went
        exact ⟨whole.executions, (noSlot_refused _ userId last).since whole⟩
      · simp only [World.effect, QueueStore.perform, room,
          Prod.mk.injEq] at went
        obtain ⟨rfl, rfl⟩ := went
        exact ⟨whole.executions,
          (holding_admitted userId passedOn.clock).since whole⟩
    · exact ⟨whole.executions, NoSlot.of_passes whole⟩
    · exact absurd outcome (may error)
  · cases may

private theorem noRecord_of_same {after : World}
    (same : after.executions = before.executions) : NoRecord before after := by
  intro executionId doc missing stored
  rw [same, missing] at stored
  cases stored

private theorem record_of_insert {after : World} {doc : ExecutionDocument}
    (missing : before.executions doc.executionId = none)
    (stored : after.executions = before.executions.insert doc.executionId doc)
    (active : doc.status.isTerminal = false) : ¬ NoRecord before after := by
  intro nothing
  have terminal := nothing doc.executionId doc missing (by simp [stored])
  simp [active] at terminal

/-- After the release of the slot only a record can be left. -/
theorem ends_released {kept : Prop}
    (holding : Holding executionId before world) :
    submitting.watching.Ends (backend.watched CleansUp) caller
      (ExecutionQueueService.releaseUserSlot executionId)
      (fun result after => result = .ok () ∧
        after.1.executions = world.executions ∧
        (∀ later, after.1.clock ≤ later.clock →
          later.queue = after.1.queue →
            (NothingLeft before later ↔ NoRecord before later)) ∧
        (after.2 ↔ kept))
      (world, kept) := by
  have releases := @ends_releaseUserSlot submitting caller world
    onlyTime_submitting executionId
    ⟨fun _ _ works => .inl works, fun _ _ _ works => .inl works⟩
  apply ends_mono _ (ends_watching (fun _ unwatched => unwatched)
    (asks_releaseUserSlot fun command _ => ?_) releases)
  · rintro result after ⟨⟨rfl, released⟩, still⟩
    refine ⟨rfl, released.executions, fun later ordered same =>
      ⟨NothingLeft.records, fun records => ⟨fun userId other counts => ?_,
        records⟩⟩, still⟩
    rw [same] at counts
    exact holding.released released userId other
      (QueueStore.counted_earlier ordered counts)
  · exact fun _ _ => trivial

/-- What the creation of a record comes to: the record is stored and its slot
held, or it raises, and something is left exactly when it is remembered. -/
def Created (before : World) (doc : ExecutionDocument)
    (result : Except PyException Unit) (after : World × Prop) : Prop :=
  match result with
  | .ok _ =>
      before.executions doc.executionId = none ∧
      after.1.executions = before.executions.insert doc.executionId doc ∧
      Holding doc.executionId before after.1 ∧ after.2
  | .error _ => NothingLeft before after.1 ↔ after.2

/-- The record of a new execution is stored, or the slot is released. -/
theorem ends_createExecution {kept : Prop} (holds : kept)
    {doc : ExecutionDocument} (active : doc.status.isTerminal = false)
    (same : world.executions = before.executions)
    (holding : Holding doc.executionId before world) :
    submitting.watching.Ends (backend.watched CleansUp) caller
      (ExecutionService.createExecution doc) (Created before doc)
      (world, kept) := by
  unfold ExecutionService.createExecution
  rw [ends_attempt]
  apply ends_watched_call
  intro between later choice reply next _ performed
  have passed := onlyTime_submitting.passes later
  have unchanged := passed.executions.trans same
  -- When the insert raises, the slot is released and the error goes on
  have handled : ∀ error, (Holding doc.executionId before next) →
      (NoRecord before next ↔ CleansUp between (.createExecution doc) choice) →
        submitting.watching.Ends (backend.watched CleansUp) caller
          (do
            ExecutionQueueService.releaseUserSlot doc.executionId
            Coroutine.raise error : Program Unit)
          (Created before doc)
          (next, kept ∧ CleansUp between (.createExecution doc) choice) := by
    intro error held records
    rw [ends_bind]
    apply ends_mono _ (ends_released held)
    rintro result after ⟨rfl, executions, nothing, still⟩
    refine (nothing after.1 (Nat.le_refl _) rfl).trans ?_
    rw [still, ← records]
    simp only [NoRecord, executions]
    exact (and_iff_right holds).symm
  rcases World.perform_cases performed with
    ⟨outcome, went⟩ | ⟨error, rfl, -, ⟨outcome, rfl⟩ | ⟨outcome, -, went⟩⟩
  · have cleansUp : CleansUp between (.createExecution doc) choice := by
      rintro ⟨error, lost⟩
      cases outcome.symm.trans lost
    cases taken : before.executions doc.executionId with
    | none =>
        simp only [World.effect, Executions.createExecution, unchanged, taken,
          Prod.mk.injEq] at went
        obtain ⟨rfl, rfl⟩ := went
        exact ⟨taken, rfl, holding.passes passed.clock passed.queue, holds,
          cleansUp⟩
    | some other =>
        simp only [World.effect, Executions.createExecution, unchanged, taken,
          Prod.mk.injEq] at went
        obtain ⟨rfl, rfl⟩ := went
        apply handled
        · exact holding.passes passed.clock passed.queue
        · exact iff_of_true (noRecord_of_same rfl) cleansUp
  · apply handled _ (holding.passes passed.clock passed.queue)
    refine iff_of_true (noRecord_of_same unchanged) ?_
    rintro ⟨_, lost⟩
    cases outcome.symm.trans lost
  · cases taken : before.executions doc.executionId with
    | none =>
        simp only [World.effect, Executions.createExecution, unchanged, taken]
          at went
        subst went
        apply handled
        · exact holding.passes passed.clock passed.queue
        · refine iff_of_false (record_of_insert taken rfl active) ?_
          intro cleansUp
          exact cleansUp ⟨error, outcome⟩ (by rw [unchanged, taken])
    | some other =>
        simp only [World.effect, Executions.createExecution, unchanged, taken]
          at went
        subst went
        apply handled
        · exact holding.passes passed.clock passed.queue
        · refine iff_of_true (noRecord_of_same rfl) fun _ => ?_
          rw [unchanged, taken]
          exact Option.some_ne_none other

/-- After the write of the error only a record can be left, and one is left
exactly when the write took no effect. -/
theorem ends_updateExecutionError {kept : Prop} (holds : kept)
    {doc : ExecutionDocument} (errorMessage : String)
    (active : doc.status.isTerminal = false)
    (missing : before.executions doc.executionId = none)
    (stored : world.executions =
      before.executions.insert doc.executionId doc) :
    submitting.watching.Ends (backend.watched CleansUp) caller
      (ExecutionService.updateExecutionError doc.executionId errorMessage)
      (fun _ after => world.clock ≤ after.1.clock ∧
        after.1.queue = world.queue ∧
        (NoRecord before after.1 ↔ after.2))
      (world, kept) := by
  unfold ExecutionService.updateExecutionError
  rw [ends_bind]
  apply ends_watched_call
  intro between later choice reply next _ performed
  have passed := onlyTime_submitting.passes later
  have unchanged := passed.executions.trans stored
  let result := executionErrorResult doc.executionId errorMessage
  -- A write that takes effect ends the new record
  have written : NoRecord before
      (between.effect caller choice (.writeTerminalResult result)).2 := by
    intro other found absent now
    rw [World.effect_writeTerminalResult] at now
    simp only [World.writeTerminalResult] at now
    by_cases own : other = doc.executionId
    · subst own
      have inserted : between.executions result.executionId = some doc := by
        simp [result, executionErrorResult, unchanged]
      have after := Executions.writeTerminalResult_self inserted between.clock
      simp only [active] at after
      cases after.symm.trans now
      rfl
    · rw [Executions.writeTerminalResult_other own, unchanged,
        Collection.insert_other _ own, absent] at now
      cases now
  rcases World.perform_cases performed with
    ⟨outcome, went⟩ | ⟨error, rfl, -, ⟨outcome, rfl⟩ | ⟨outcome, -, rfl⟩⟩
  · rw [went] at written
    have cleansUp : CleansUp between (.writeTerminalResult result) choice := by
      intro error failed
      cases outcome.symm.trans failed
    cases went
    exact ⟨passed.clock, passed.queue,
      iff_of_true written ⟨holds, cleansUp⟩⟩
  · refine ⟨passed.clock, passed.queue, iff_of_false ?_ ?_⟩
    · exact record_of_insert missing unchanged active
    · exact fun cleansUp => cleansUp.2 error outcome
  · refine ⟨passed.clock, passed.queue, iff_of_true written ⟨holds, ?_⟩⟩
    intro _ failed
    cases outcome.symm.trans failed

/-- A request that could not be published ends its execution with an error. -/
theorem ends_submit {kept : Prop} (holds : kept) {doc : ExecutionDocument}
    (deployment : Deployment) {event : ExecutionRequestedEvent}
    (its : event.executionId = doc.executionId)
    (active : doc.status.isTerminal = false)
    (missing : before.executions doc.executionId = none)
    (stored : world.executions = before.executions.insert doc.executionId doc)
    (holding : Holding doc.executionId before world) :
    submitting.watching.Ends (backend.watched CleansUp) caller
      (ExecutionService.submit deployment event)
      (fun result after => ∀ error, result = .error error →
        (NothingLeft before after.1 ↔ after.2)) (world, kept) := by
  unfold ExecutionService.submit
  rw [ends_attempt]
  have produces := @ends_produce submitting caller world onlyTime_submitting
    (.executionRequested event)
  have asks : (produce (.executionRequested event)).Asks Unwatched := by
    apply Coroutine.Asks.bind (asks_request fun _ _ => trivial)
    intro _
    apply Coroutine.Asks.bind (asks_request fun _ _ => trivial)
    intro _
    trivial
  apply ends_mono _ (ends_watching (fun _ unwatched => unwatched) asks
    produces)
  rintro (error | _) ⟨next, now⟩ ⟨⟨passed, -⟩, same⟩
  · simp only [its, ends_bind]
    apply ends_mono _ (ends_released (holding.passes passed.clock passed.queue))
    rintro result ⟨freed, still⟩ ⟨rfl, executions, nothing, same'⟩
    have kept := same'.mpr (same.mpr holds)
    apply ends_mono _ (ends_updateExecutionError kept _ active missing
      (executions.trans (passed.executions.trans stored)))
    rintro (raised | _) last ⟨ordered, queue, records⟩
    · rintro _ ⟨⟩
      exact (nothing last.1 ordered queue).trans records
    · rintro _ ⟨⟩
      exact (nothing last.1 ordered queue).trans records
  · rintro _ ⟨⟩

end Parts

/-! ### Whole submissions -/

section Submissions

variable {caller : Caller} {world : World}

/-- A quiet command of a submission that is not watched. -/
theorem ends_unwatched {command : Command} {kept : Prop}
    (passive : command.isPassive = true) (quiet : World.isQuiet command = true)
    {post : Except PyException (Reply command) → World × Prop → Prop}
    (leads : ∀ reply after, world.Passes after.1 → (after.2 ↔ kept) →
      (∀ error, reply = .error error → command.mayRaise error = true) →
        post reply after) :
    submitting.watching.Ends (backend.watched CleansUp) caller
      (request command) post (world, kept) := by
  have passing := @ends_passing submitting caller world onlyTime_submitting
    command quiet
  apply ends_mono _ (ends_watching (fun _ unwatched => unwatched)
    (asks_request (unwatched_of_passive passive)) passing)
  rintro reply after ⟨⟨passed, raises⟩, same⟩
  exact leads reply after passed same fun error raised =>
    (raises error raised).1

/-- Nothing is left before a slot is reserved. -/
theorem nothingLeft_of_passes {before after : World}
    (passed : before.Passes after) : NothingLeft before after :=
  ⟨.of_passes passed, noRecord_of_same passed.executions⟩

private theorem ends_executeScript (deployment : Deployment)
    (submission : Submission) :
    submitting.watching.Ends (backend.watched CleansUp) caller
      (ExecutionService.executeScript deployment submission)
      (fun result after => ∀ error, result = .error error →
        (NothingLeft world after.1 ↔ after.2)) (world, True) := by
  unfold ExecutionService.executeScript
  split
  · rintro _ ⟨⟩
    exact iff_of_true (nothingLeft_of_passes (.refl world)) trivial
  next runtimeCfg _ =>
  rw [ends_bind]
  apply ends_unwatched rfl rfl
  rintro (error | effective) ⟨first, now⟩ passed same -
  · rintro _ ⟨⟩
    exact iff_of_true (nothingLeft_of_passes passed) (same.mpr trivial)
  simp only
  split
  · rintro _ ⟨⟩
    exact iff_of_true (nothingLeft_of_passes passed) (same.mpr trivial)
  rw [ends_bind]
  apply ends_unwatched rfl rfl
  rintro (error | executionId) ⟨second, now⟩ passed' same' raises
  · cases raises error rfl
  simp only [ends_bind]
  apply ends_unwatched rfl rfl
  rintro (error | clock) ⟨third, now⟩ passed'' same'' raises
  · cases raises error rfl
  have before := (passed.trans passed').trans passed''
  have holds := same''.mpr (same'.mpr (same.mpr trivial))
  have asks : (ExecutionQueueService.reserveUserSlot submission.userId
      executionId effective.maxExecutionsPerUser).Asks Unwatched := by
    apply Coroutine.Asks.bind (asks_request fun _ _ => trivial)
    intro _
    exact asks_request fun _ _ => trivial
  apply ends_mono _ (ends_watching (fun _ unwatched => unwatched) asks
    (ends_reserveUserSlot submission.userId _))
  rintro (error | reserved) ⟨fourth, now⟩ ⟨⟨executions, slot⟩, still⟩
  · rintro _ ⟨⟩
    exact iff_of_true ⟨slot.since before, noRecord_of_same
      (executions.trans before.executions)⟩ (still.mpr holds)
  cases reserved with
  | false =>
      rintro _ ⟨⟩
      exact iff_of_true ⟨slot.since before, noRecord_of_same
        (executions.trans before.executions)⟩ (still.mpr holds)
  | true =>
      simp only [Bool.not_true, Bool.false_eq_true, if_false, ends_bind]
      have held : Holding executionId world fourth := Holding.since before slot
      let doc := ExecutionService.newExecution submission executionId clock
      apply ends_mono _ (@ends_createExecution caller world fourth now
        (still.mpr holds) doc rfl (executions.trans before.executions) held)
      rintro (error | _) ⟨fifth, now⟩ created
      · rintro _ ⟨⟩
        exact created
      obtain ⟨missing, stored, held, kept⟩ := created
      apply ends_unwatched rfl rfl
      rintro (error | eventId) ⟨sixth, now⟩ passed same raises
      · cases raises error rfl
      · apply ends_mono _ (@ends_submit caller world sixth now
          (same.mpr kept) doc deployment _ rfl rfl missing
          (passed.executions.trans stored)
          (held.passes passed.clock passed.queue))
        rintro (error | _) last nothing
        · rintro _ ⟨⟩
          exact nothing _ rfl
        · rintro _ ⟨⟩

/-- A submission that raises leaves nothing behind exactly when its record was
not stored without an answer and the write of its error, if it came to it, took
effect. -/
theorem nothing_left_iff {deployment : Deployment} {submission : Submission}
    {final : World} {error : PyException}
    {labels : List (Option WorldEvent × Choice)}
    (along : (backend.solo caller).Along (submitting.allows backend)
      (world, ExecutionService.executeScript deployment submission) labels)
    (reached : (backend.solo caller).run
      (world, ExecutionService.executeScript deployment submission) labels =
        some (final, .done (.error error))) :
    NothingLeft world final ↔
      (backend.solo caller).Along (backend.Meets CleansUp)
        (world, ExecutionService.executeScript deployment submission)
        labels := by
  obtain ⟨kept, nothing, counts⟩ :=
    (ends_executeScript deployment submission).run_watched along reached
  exact (nothing error rfl).trans (counts.trans (and_iff_right trivial))

end Submissions

/-! ### Two submissions that raise -/

section Concrete

/-- What a user submits. -/
def printOne : Submission where
  script := "print(1)"
  userId := "u"

/-- A submission up to the publication of its request, which fails; its slot is
released, and then the write of its error goes this way. -/
def unpublished (write : Outcome) : List (Option WorldEvent × Choice) :=
  [(none, {}), (none, { fresh := "x" }), (none, {}), (none, {}), (none, {}),
    (none, {}), (none, { fresh := "request" }), (none, {}),
    (none, { outcome := .fails .kafkaError }), (none, {}), (none, {}),
    (none, { outcome := write })]

/-- Whether a step is one of a submission without the passing of time whose
commands of the queue go through. -/
def isAllowed {α : Type} (state : World × Program α)
    (label : Option WorldEvent × Choice) : Bool :=
  label.1.isNone && match state.2 with
    | .await (.queue _) _ => label.2.outcome == .succeeds
    | _ => true

theorem allows_of_check {α : Type} (state : World × Program α)
    (label : Option WorldEvent × Choice)
    (checked : isAllowed state label = true) :
    submitting.allows backend state label := by
  intro command resume awaits
  obtain ⟨world, coroutine⟩ := state
  obtain ⟨event, choice⟩ := label
  cases awaits
  simp only [isAllowed, Bool.and_eq_true, Option.isNone_iff_eq_none]
    at checked
  obtain ⟨rfl, goes⟩ := checked
  refine ⟨fun event never => ?_, fun between _ => ?_⟩
  · cases never
  · cases command with
    | queue command =>
        have works : choice.outcome = .succeeds := by simpa using goes
        cases command with
        | reserveUserSlot userId executionId now limit =>
            intro error lost
            cases works.symm.trans lost
        | _ => exact works
    | _ => trivial

/-- Whether a step stores its record, or the error of it. -/
def isStored {α : Type} (state : World × Program α)
    (label : Option WorldEvent × Choice) : Bool :=
  match state.2, label.2.outcome with
  | .await (.createExecution _) _, .unacknowledged _ => false
  | .await (.writeTerminalResult _) _, .fails _ => false
  | _, _ => true

private theorem meets_of_check {α : Type} (state : World × Program α)
    (label : Option WorldEvent × Choice)
    (checked : isStored state label = true) :
    backend.Meets CleansUp state label := by
  intro command resume between awaits _
  obtain ⟨world, coroutine⟩ := state
  cases awaits
  cases command with
  | createExecution doc =>
      rintro ⟨error, lost⟩
      simp [isStored, lost] at checked
  | writeTerminalResult result =>
      intro error failed
      simp [isStored, failed] at checked
  | _ => trivial

/-- What a lone call raised. -/
def raised? {α : Type} (state : World × Program α) : Option PyException :=
  match state.2 with
  | .done (.error error) => some error
  | _ => none

theorem eq_of_raised {α : Type} {state : World × Program α}
    {error : PyException} (raised : raised? state = some error) :
    state = (state.1, .done (.error error)) := by
  obtain ⟨world, coroutine⟩ := state
  unfold raised? at raised
  split at raised
  · next same =>
      cases raised
      cases same
      rfl
  · cases raised

theorem nothing_left_iff_unpublished : ∃ final,
    (backend.solo 0).run
      (({} : World), ExecutionService.executeScript {} printOne)
      (unpublished (.unacknowledged .pyMongoError)) =
        some (final, .done (.error .pyMongoError)) ∧
    NothingLeft {} final := by
  have ends : ((backend.solo 0).run
      (({} : World), ExecutionService.executeScript {} printOne)
      (unpublished (.unacknowledged .pyMongoError))).map raised? =
        some (some .pyMongoError) := by
    decide +kernel
  obtain ⟨⟨final, coroutine⟩, reached, raised⟩ :=
    Option.map_eq_some_iff.mp ends
  rw [eq_of_raised raised] at reached
  refine ⟨final, reached, (nothing_left_iff ?_ reached).mpr ?_⟩
  · exact (backend.solo 0).along_of_check allows_of_check (by decide +kernel)
  · exact (backend.solo 0).along_of_check meets_of_check (by decide +kernel)

/-- A request that is not published, and whose error then is not written:
every command but these two goes through. -/
theorem record_left_active : ∃ final,
    (backend.solo 0).run
      (({} : World), ExecutionService.executeScript {} printOne)
      (unpublished (.fails .pyMongoError)) =
        some (final, .done (.error .pyMongoError)) ∧
    (backend.solo 0).Along (submitting.allows backend)
      (({} : World), ExecutionService.executeScript {} printOne)
      (unpublished (.fails .pyMongoError)) ∧
    (final.executions "x").map ExecutionDocument.status = some .queued ∧
    ¬ NothingLeft {} final := by
  have ends : ((backend.solo 0).run
      (({} : World), ExecutionService.executeScript {} printOne)
      (unpublished (.fails .pyMongoError))).map (fun final =>
        (raised? final,
          (final.1.executions "x").map ExecutionDocument.status)) =
      some (some .pyMongoError, some .queued) := by
    decide +kernel
  obtain ⟨⟨final, coroutine⟩, reached, same⟩ :=
    Option.map_eq_some_iff.mp ends
  simp only [Prod.mk.injEq] at same
  obtain ⟨raised, status⟩ := same
  rw [eq_of_raised raised] at reached
  refine ⟨final, reached, ?_, status, fun nothing => ?_⟩
  · exact (backend.solo 0).along_of_check allows_of_check (by decide +kernel)
  · obtain ⟨doc, stored, active⟩ := Option.map_eq_some_iff.mp status
    have terminal := nothing.records "x" doc rfl stored
    simp [active, ExecutionStatus.isTerminal] at terminal

end Concrete

end FailedSubmissions

end Integr8s
