/-
Module: Integr8s.Proofs.AnnouncedEnd
Purpose: However many calls report an end of the same execution, in whatever
  order and with whatever failures, its end is announced once, by the call
  whose conditional write won, and as the stored status says.
Trusted boundary: none
Main exports: Announced.Settled, Announced.contract, Announced.sound,
  Announced.one_announced_end
-/
import Integr8s.Proofs.ExecutionLifecycle
import Integr8s.Services.ResultProcessor
import Mathlib.Data.List.Nodup

namespace Integr8s

/-- The messages that tell the world about an end: the terminal event and
`result_stored`. -/
def EventType.isAnnouncement (eventType : EventType) : Bool :=
  eventType.isExecutionTerminal || eventType == .resultStored

namespace Announced

open ExecutionLifecycle

/-- The published messages that announce an execution's end. -/
def announcements (world : World) (executionId : ExecutionId) :
    List Publication :=
  world.published.filter fun publication =>
    publication.event.executionId == executionId &&
      publication.event.eventType.isAnnouncement

/-- The terminal writes that ended an execution. -/
def wins (world : World) (executionId : ExecutionId) : List TerminalWrite :=
  world.terminalWrites.filter fun write =>
    write.result.executionId == executionId

/-- Whether a message is the terminal event; the other announcement is
`result_stored`. -/
def isTerminalEvent (publication : Publication) : Bool :=
  publication.event.eventType.isExecutionTerminal

/-- The kind of a terminal event agrees with the status of a result. -/
def Agrees (event : DomainEvent) (result : ExecutionResultDomain) : Prop :=
  ∀ status, event.eventType.announcedStatus = some status →
    status = result.status

/-- What every step of every call keeps. -/
structure Settled (world : World) : Prop where
  terminal : ∀ write ∈ world.terminalWrites,
    write.result.status.isTerminal = true
  stored : ∀ write ∈ world.terminalWrites, ∀ doc,
    world.executions write.result.executionId = some doc →
      doc.status = write.result.status
  single : ∀ executionId, (wins world executionId).length ≤ 1
  owned : ∀ executionId, ∀ publication ∈ announcements world executionId,
    ∃ write ∈ wins world executionId, write.caller = publication.caller ∧
      Agrees publication.event write.result
  once : ∀ executionId,
    ((announcements world executionId).map isTerminalEvent).Nodup

/-- The call's write won the execution. -/
def WonBy (caller : Caller) (world : World) (executionId : ExecutionId) :
    Prop :=
  ∃ write ∈ wins world executionId, write.caller = caller

/-- When a list's values under a Boolean test are distinct, at most one
element has any given one. -/
private theorem filter_length_of_nodup {publications : List Publication}
    (nodup : (publications.map isTerminalEvent).Nodup) (value : Bool) :
    (publications.filter fun publication =>
      isTerminalEvent publication == value).length ≤ 1 := by
  rw [← List.countP_eq_length_filter, ← Function.comp_def (· == value),
    ← List.countP_map]
  exact List.nodup_iff_count_le_one.mp nodup value

/-- Nothing about the end of an execution changed. -/
def SameEnd (before after : World) (executionId : ExecutionId) : Prop :=
  wins after executionId = wins before executionId ∧
    announcements after executionId = announcements before executionId

/-- A call changes what is known of an end only while nobody has won it or
when it has won it itself; it relies on the others leaving alone what it has
won. -/
def contract : Contract Caller World Command Choice WorldEvent where
  invariant := Settled
  guarantee caller before after := ∀ executionId,
    SameEnd before after executionId ∨ wins before executionId = [] ∨
      WonBy caller before executionId
  rely caller before after := ∀ executionId,
    WonBy caller before executionId → SameEnd before after executionId

/-! ### Who won, and what was announced -/

section Worlds

variable {world before after later : World} {caller : Caller}
  {executionId : ExecutionId}

theorem SameEnd.refl (world : World) (executionId : ExecutionId) :
    SameEnd world world executionId :=
  ⟨rfl, rfl⟩

theorem WonBy.of_same (won : WonBy caller before executionId)
    (same : SameEnd before after executionId) :
    WonBy caller after executionId := by
  unfold WonBy
  rw [same.1]
  exact won

/-- Two calls do not both win an execution. -/
theorem Settled.winner_unique (settled : Settled world)
    {first second : TerminalWrite} (firstWon : first ∈ wins world executionId)
    (secondWon : second ∈ wins world executionId) : first = second := by
  have single := settled.single executionId
  cases listed : wins world executionId with
  | nil => simp [listed] at firstWon
  | cons head tail =>
      have empty : tail = [] := by
        simpa [listed] using single
      simp only [listed, empty, List.mem_singleton] at firstWon secondWon
      rw [firstWon, secondWon]

/-- A step that leaves the writes and the announcements alone and only
advances the stored documents keeps the invariant. -/
theorem Settled.quiet (settled : Settled before)
    (writes : after.terminalWrites = before.terminalWrites)
    (published : ∀ executionId,
      announcements after executionId = announcements before executionId)
    (documents : ∀ executionId next,
      after.executions executionId = some next →
        ∃ doc, before.executions executionId = some doc ∧
          Advances doc next) : Settled after := by
  have sameWins : ∀ executionId,
      wins after executionId = wins before executionId := by
    intro executionId
    simp only [wins, writes]
  constructor
  · intro write member
    exact settled.terminal write (writes ▸ member)
  · intro write member next storedAfter
    rw [writes] at member
    obtain ⟨doc, stored, advances⟩ := documents _ next storedAfter
    have status := settled.stored write member doc stored
    have ended : doc.status.isTerminal = true := by
      rw [status]
      exact settled.terminal write member
    exact (advances.final ended).1.trans status
  · intro executionId
    rw [sameWins]
    exact settled.single executionId
  · intro executionId publication member
    rw [published] at member
    rw [sameWins]
    exact settled.owned executionId publication member
  · intro executionId
    rw [published]
    exact settled.once executionId

theorem documents_unchanged (same : after.executions = before.executions) :
    ∀ executionId next, after.executions executionId = some next →
      ∃ doc, before.executions executionId = some doc ∧
        Advances doc next := by
  intro executionId next stored
  exact ⟨next, same ▸ stored, Advances.refl next⟩

private theorem documents_applyCall {call : RepositoryCall}
    (promised : WritesTerminal call) :
    ∀ executionId next,
      (world.applyCall call).executions executionId = some next →
        ∃ doc, world.executions executionId = some doc ∧
          Advances doc next := by
  intro executionId next stored
  exact call_advances promised stored

end Worlds

/-- What the environment does keeps the invariant and touches no end. -/
theorem environment_quiet {world next : World} {event : WorldEvent}
    (settled : Settled world) (happened : world.happen event = some next) :
    Settled next ∧ ∀ executionId, SameEnd world next executionId := by
  cases event with
  | tick duration =>
      cases happened
      exact ⟨settled.quiet rfl (fun _ => rfl) (documents_unchanged rfl),
        SameEnd.refl world⟩
  | updateExecutionError executionId errorMessage =>
      cases happened
      exact ⟨settled.quiet rfl (fun _ => rfl)
        (documents_applyCall (by simp [WritesTerminal, executionErrorResult,
          ExecutionStatus.isTerminal])), fun _ => ⟨rfl, rfl⟩⟩
  | advanceStatus executionId status =>
      cases happened
      exact ⟨settled.quiet rfl (fun _ => rfl)
        (documents_applyCall trivial), fun _ => ⟨rfl, rfl⟩⟩
  | updatePriority executionId priority =>
      cases happened
      exact ⟨settled.quiet rfl (fun _ => rfl)
        (documents_applyCall trivial), fun _ => ⟨rfl, rfl⟩⟩
  | deleteExecution executionId =>
      cases happened
      refine ⟨settled.quiet rfl (fun _ => rfl) ?_, fun _ => ⟨rfl, rfl⟩⟩
      intro other next stored
      refine ⟨next, ?_, Advances.refl next⟩
      exact Executions.deleteExecution_stored stored

theorem sound : contract.Sound backend := by
  constructor
  · intro caller world executionId _
    exact SameEnd.refl world executionId
  · intro caller first second third earlier later executionId won
    have same := earlier executionId won
    have sameLater := later executionId (won.of_same same)
    exact ⟨sameLater.1.trans same.1, sameLater.2.trans same.2⟩
  · intro world
    trivial
  · intro caller other before after different settled _ promised executionId
      won
    rcases promised executionId with same | none | own
    · exact same
    · obtain ⟨write, member, -⟩ := won
      simp [none] at member
    · obtain ⟨write, member, byOther⟩ := won
      obtain ⟨ownWrite, ownMember, byCaller⟩ := own
      cases settled.winner_unique member ownMember
      exact absurd (byOther.symm.trans byCaller) different
  · intros
    trivial
  · intro atWork world event next settled _ happened
    obtain ⟨kept, same⟩ := environment_quiet settled happened
    exact ⟨kept, trivial, fun _ _ executionId _ => same executionId,
      fun _ _ => trivial⟩
  · intro world caller next settled _ killed
    cases killed
    exact ⟨settled.quiet rfl (fun _ => rfl) (documents_unchanged rfl),
      trivial, trivial, fun _ _ executionId _ => SameEnd.refl world executionId⟩
  · intros
    trivial

/-! ### Announcing -/

section Commands

variable {world later : World} {caller : Caller}

/-- A command that touches no end: what follows runs from any state that the
caller may rely on. -/
theorem wp_quiet {command : Command}
    {post : Except PyException (Reply command) → World → Prop}
    (settled : Settled world)
    (quiet : ∀ choice, Settled (world.effect caller choice command).2 ∧
      ∀ executionId, SameEnd world (world.effect caller choice command).2
        executionId)
    (continues : ∀ reply later, contract.Later caller world later →
      post reply later) :
    contract.wp backend caller (request command) post world := by
  apply Contract.wp_call trivial
  intro choice reply next _ performed
  have failed : Settled (world.failure caller command) ∧
      ∀ executionId,
        SameEnd world (world.failure caller command) executionId := by
    obtain ⟨holding, owing, attempts, sightings, same⟩ :=
      World.failure_eq caller world command
    rw [same]
    exact ⟨settled.quiet rfl (fun _ => rfl) (documents_unchanged rfl),
      fun _ => ⟨rfl, rfl⟩⟩
  have kept : Settled next ∧
      ∀ executionId, SameEnd world next executionId := by
    apply World.perform_world performed
    · exact quiet choice
    · exact failed
  refine ⟨kept.1, fun executionId => .inl (kept.2 executionId), ?_⟩
  intro later reached
  apply continues reply later
  refine ⟨fun executionId won => ?_, reached.2⟩
  have sameLater := reached.1 executionId (won.of_same (kept.2 executionId))
  exact ⟨sameLater.1.trans (kept.2 executionId).1,
    sameLater.2.trans (kept.2 executionId).2⟩

/-- Reading and making up values changes nothing. -/
theorem wp_read {command : Command}
    {post : Except PyException (Reply command) → World → Prop}
    (settled : Settled world)
    (reads : ∀ choice, (world.effect caller choice command).2 = world)
    (continues : ∀ reply later, contract.Later caller world later →
      post reply later) :
    contract.wp backend caller (request command) post world := by
  apply wp_quiet settled _ continues
  intro choice
  rw [reads choice]
  exact ⟨settled, SameEnd.refl world⟩

/-- Storing an event announces nothing. -/
theorem wp_storeEvent {event : DomainEvent}
    {post : Except PyException (Reply (.storeEvent event)) → World → Prop}
    (settled : Settled world)
    (continues : ∀ reply later, contract.Later caller world later →
      post reply later) :
    contract.wp backend caller (request (.storeEvent event)) post world := by
  apply wp_quiet settled _ continues
  intro choice
  exact ⟨settled.quiet rfl (fun _ => rfl) (documents_unchanged rfl),
    fun _ => ⟨rfl, rfl⟩⟩

/-- The call has won the execution of a result, and has published these of
its announcements. -/
structure Won (caller : Caller) (result : ExecutionResultDomain)
    (published : List Publication) (world : World) : Prop where
  won : ⟨caller, result⟩ ∈ wins world result.executionId
  announced : announcements world result.executionId = published

theorem Won.stable {result : ExecutionResultDomain}
    {published : List Publication}
    (holds : Won caller result published world)
    (relied : contract.rely caller world later) :
    Won caller result published later := by
  have same := relied result.executionId ⟨_, holds.won, rfl⟩
  constructor
  · rw [same.1]
    exact holds.won
  · rw [same.2]
    exact holds.announced

private theorem publish_announcements (event : DomainEvent)
    (executionId : ExecutionId) :
    announcements
        { world with published := ⟨caller, event⟩ :: world.published }
        executionId =
      if event.executionId = executionId ∧
          event.eventType.isAnnouncement = true then
        ⟨caller, event⟩ :: announcements world executionId
      else announcements world executionId := by
  simp only [announcements, List.filter_cons, Bool.and_eq_true, beq_iff_eq]

/-- Publishing anything but an announcement touches no end. -/
theorem wp_publish_other {event : DomainEvent}
    {post : Except PyException (Reply (.publish event)) → World → Prop}
    (settled : Settled world)
    (other : event.eventType.isAnnouncement = false)
    (continues : ∀ reply later, contract.Later caller world later →
      post reply later) :
    contract.wp backend caller (request (.publish event)) post world := by
  apply wp_quiet settled _ continues
  intro choice
  have same : ∀ executionId, announcements
      { world with published := ⟨caller, event⟩ :: world.published }
      executionId = announcements world executionId := by
    intro executionId
    rw [publish_announcements]
    simp [other]
  exact ⟨settled.quiet rfl same (documents_unchanged rfl),
    fun executionId => ⟨rfl, same executionId⟩⟩

/-- The winner may publish an announcement of a kind it hasn't published. -/
theorem Settled.publish {result : ExecutionResultDomain}
    {published : List Publication} {event : DomainEvent}
    (settled : Settled world) (holds : Won caller result published world)
    (own : event.executionId = result.executionId)
    (agrees : Agrees event result)
    (unused : event.eventType.isExecutionTerminal ∉
      published.map isTerminalEvent) :
    Settled { world with
      published := ⟨caller, event⟩ :: world.published } := by
  refine ⟨settled.terminal, settled.stored, settled.single, ?_, ?_⟩
  · intro executionId publication member
    rw [publish_announcements] at member
    split at member
    · next here =>
        rcases List.mem_cons.mp member with rfl | earlier
        · have sameExecution := own.symm.trans here.1
          exact ⟨⟨caller, result⟩, sameExecution ▸ holds.won, rfl, agrees⟩
        · exact settled.owned executionId publication earlier
    · exact settled.owned executionId publication member
  · intro executionId
    rw [publish_announcements]
    split
    · next here =>
        have sameExecution := own.symm.trans here.1
        have announced := sameExecution ▸ holds.announced
        rw [List.map_cons, List.nodup_cons]
        refine ⟨?_, settled.once executionId⟩
        rw [announced]
        exact unused
    · exact settled.once executionId

/-- Publishing an announcement of the winner: it is out, or it failed. -/
theorem wp_publish_won {result : ExecutionResultDomain}
    {published : List Publication} {event : DomainEvent}
    {post : Except PyException (Reply (.publish event)) → World → Prop}
    (settled : Settled world) (holds : Won caller result published world)
    (own : event.executionId = result.executionId)
    (announces : event.eventType.isAnnouncement = true)
    (agrees : Agrees event result)
    (unused : event.eventType.isExecutionTerminal ∉
      published.map isTerminalEvent)
    (continues : ∀ reply later, Settled later →
      Won caller result published later ∨
        Won caller result (⟨caller, event⟩ :: published) later →
      post reply later) :
    contract.wp backend caller (request (.publish event)) post world := by
  have after : Settled { world with
      published := ⟨caller, event⟩ :: world.published } :=
    settled.publish holds own agrees unused
  have won : Won caller result (⟨caller, event⟩ :: published)
      { world with published := ⟨caller, event⟩ :: world.published } := by
    refine ⟨holds.won, ?_⟩
    rw [publish_announcements, if_pos ⟨own, announces⟩, holds.announced]
  have promised : contract.guarantee caller world
      { world with published := ⟨caller, event⟩ :: world.published } := by
    intro executionId
    by_cases same : event.executionId = executionId
    · right
      right
      have sameExecution := own.symm.trans same
      exact ⟨_, sameExecution ▸ holds.won, rfl⟩
    · left
      refine ⟨rfl, ?_⟩
      rw [publish_announcements, if_neg fun here => same here.1]
  apply Contract.wp_call trivial
  intro choice reply next _ performed
  rcases World.perform_cases performed with
    ⟨-, went⟩ | ⟨error, -, -, ⟨-, rfl⟩ | ⟨-, -, rfl⟩⟩
  · cases went
    exact ⟨after, promised, fun later reached =>
      continues _ later reached.2 (.inr (won.stable reached.1))⟩
  · exact ⟨settled, fun executionId => .inl (SameEnd.refl _ executionId),
      fun later reached =>
        continues _ later reached.2 (.inl (holds.stable reached.1))⟩
  · exact ⟨after, promised, fun later reached =>
      continues _ later reached.2 (.inr (won.stable reached.1))⟩

/-- Storing and publishing an announcement of the winner, where a failed
publish is only logged. -/
theorem wp_produceOrLog_won {result : ExecutionResultDomain}
    {published : List Publication} {event : DomainEvent}
    {post : Except PyException Unit → World → Prop}
    (settled : Settled world) (holds : Won caller result published world)
    (own : event.executionId = result.executionId)
    (announces : event.eventType.isAnnouncement = true)
    (agrees : Agrees event result)
    (unused : event.eventType.isExecutionTerminal ∉
      published.map isTerminalEvent)
    (returns : ∀ later, Settled later →
      Won caller result published later ∨
        Won caller result (⟨caller, event⟩ :: published) later →
      post (.ok ()) later)
    (raises : ∀ error later, Settled later → post (.error error) later) :
    contract.wp backend caller (produceOrLog event) post world := by
  rw [produceOrLog, Contract.wp_attempt, produce, Contract.wp_bind]
  apply wp_storeEvent settled
  intro stored afterStore reachedStore
  cases stored with
  | error error =>
      dsimp only
      split
      · exact returns afterStore reachedStore.2
          (.inl (holds.stable reachedStore.1))
      · exact raises error afterStore reachedStore.2
  | ok _ =>
      dsimp only
      rw [Contract.wp_bind]
      apply wp_publish_won reachedStore.2 (holds.stable reachedStore.1) own
        announces agrees unused
      intro sent later settledLater wonLater
      cases sent with
      | ok _ => exact returns later settledLater wonLater
      | error error =>
          dsimp only
          split
          · exact returns later settledLater wonLater
          · exact raises error later settledLater

end Commands

/-! ### The terminal write

The conditional update is the only command that can make a call the winner, and
it does so for one call only: whoever comes later finds the record ended. -/

section Writing

variable {world : World} {caller : Caller} {result : ExecutionResultDomain}

/-- A write that loses only sends the command. -/
theorem writeTerminalResult_lost
    (lost : (world.writeTerminalResult caller result).1 = false) :
    (world.writeTerminalResult caller result).2 =
      world.applyCall (.writeTerminalResult result world.clock) := by
  simp only [World.writeTerminalResult] at lost ⊢
  simp only [lost]
  rfl

/-- A write that wins is recorded. -/
theorem writeTerminalResult_won
    (won : (world.writeTerminalResult caller result).1 = true) :
    (world.writeTerminalResult caller result).2 =
      { world.applyCall (.writeTerminalResult result world.clock) with
        terminalWrites := ⟨caller, result⟩ :: world.terminalWrites } := by
  simp only [World.writeTerminalResult] at won ⊢
  simp only [won]
  rfl

/-- A write wins only an execution that nobody has won yet. -/
theorem Settled.unwon (settled : Settled world)
    (terminal : result.status.isTerminal = true)
    (won : (world.writeTerminalResult caller result).1 = true) :
    wins world result.executionId = [] := by
  obtain ⟨doc, stored, active⟩ :=
    (Executions.writeTerminalResult_won terminal).mp won
  apply List.eq_nil_iff_forall_not_mem.mpr
  intro write member
  obtain ⟨recorded, sameExecution⟩ := List.mem_filter.mp member
  have same : write.result.executionId = result.executionId := by
    simpa using sameExecution
  have status := settled.stored write recorded doc (same ▸ stored)
  rw [status, settled.terminal write recorded] at active
  cases active

/-- What a winning write leaves: its result is stored, and nothing is
announced yet. -/
theorem Settled.win (settled : Settled world)
    (terminal : result.status.isTerminal = true)
    (won : (world.writeTerminalResult caller result).1 = true) :
    Settled (world.writeTerminalResult caller result).2 ∧
      Won caller result [] (world.writeTerminalResult caller result).2 ∧
      contract.guarantee caller world
        (world.writeTerminalResult caller result).2 := by
  have unwon := settled.unwon terminal won
  have unannounced : announcements world result.executionId = [] := by
    apply List.eq_nil_iff_forall_not_mem.mpr
    intro publication member
    obtain ⟨write, winner, -⟩ := settled.owned _ publication member
    simp [unwon] at winner
  rw [writeTerminalResult_won won]
  generalize written : ({ world.applyCall (.writeTerminalResult result
      world.clock) with terminalWrites := ⟨caller, result⟩ ::
        world.terminalWrites } : World) = next
  have sameAnnouncements : ∀ executionId,
      announcements next executionId = announcements world executionId := by
    intro executionId
    subst written
    rfl
  have winsNext : ∀ executionId, wins next executionId =
      if executionId = result.executionId then [⟨caller, result⟩]
      else wins world executionId := by
    intro executionId
    subst written
    by_cases own : executionId = result.executionId
    · rw [if_pos own, ← unwon, own]
      simp [wins]
    · simp [wins, own, Ne.symm own]
  have documents : ∀ executionId doc, next.executions executionId = some doc →
      ∃ previous, world.executions executionId = some previous ∧
        Advances previous doc := by
    subst written
    exact documents_applyCall
      (show WritesTerminal (.writeTerminalResult result world.clock) from
        terminal)
  have storedNow : ∀ doc, next.executions result.executionId = some doc →
      doc.status = result.status := by
    obtain ⟨doc, stored, active⟩ :=
      (Executions.writeTerminalResult_won terminal).mp won
    intro after storedAfter
    subst written
    have self := Executions.writeTerminalResult_self stored world.clock
    simp only [active] at self
    cases self.symm.trans storedAfter
    rfl
  refine ⟨?_, ⟨?_, ?_⟩, ?_⟩
  · constructor
    · intro write member
      subst written
      rcases List.mem_cons.mp member with rfl | earlier
      · exact terminal
      · exact settled.terminal write earlier
    · intro write member doc storedAfter
      subst written
      rcases List.mem_cons.mp member with rfl | earlier
      · exact storedNow doc storedAfter
      · obtain ⟨previous, stored, advances⟩ := documents _ doc storedAfter
        have status := settled.stored write earlier previous stored
        have ended : previous.status.isTerminal = true := by
          rw [status]
          exact settled.terminal write earlier
        exact (advances.final ended).1.trans status
    · intro executionId
      rw [winsNext]
      split
      · simp
      · exact settled.single executionId
    · intro executionId publication member
      rw [sameAnnouncements] at member
      obtain ⟨write, winner, owns⟩ := settled.owned _ publication member
      refine ⟨write, ?_, owns⟩
      rw [winsNext]
      split
      · next own => simp [own, unwon] at winner
      · exact winner
    · intro executionId
      rw [sameAnnouncements]
      exact settled.once executionId
  · rw [winsNext]
    simp
  · rw [sameAnnouncements]
    exact unannounced
  · intro executionId
    by_cases own : executionId = result.executionId
    · exact .inr (.inl (own ▸ unwon))
    · refine .inl ⟨?_, sameAnnouncements executionId⟩
      rw [winsNext, if_neg own]

/-- The conditional write: it wins an execution nobody had won, or it finds
the execution ended, or it raises, with or without having won. -/
theorem wp_writeTerminalResult
    {post : Except PyException (Reply (.writeTerminalResult result)) →
      World → Prop}
    (settled : Settled world) (terminal : result.status.isTerminal = true)
    (wins : ∀ later, Settled later → Won caller result [] later →
      post (.ok true) later)
    (loses : ∀ later, Settled later → post (.ok false) later)
    (raises : ∀ error later, Settled later → post (.error error) later) :
    contract.wp backend caller (request (.writeTerminalResult result)) post
      world := by
  apply Contract.wp_call trivial
  intro choice reply next _ performed
  have lostQuiet (lost : (world.writeTerminalResult caller result).1 =
      false) : Settled (world.writeTerminalResult caller result).2 ∧
        contract.guarantee caller world
          (world.writeTerminalResult caller result).2 := by
    rw [writeTerminalResult_lost lost]
    exact ⟨settled.quiet rfl (fun _ => rfl) (documents_applyCall terminal),
      fun _ => .inl ⟨rfl, rfl⟩⟩
  rcases World.perform_cases performed with
    ⟨-, went⟩ | ⟨error, rfl, -, ⟨-, rfl⟩ | ⟨-, -, rfl⟩⟩
  · rw [World.effect_writeTerminalResult, Prod.mk.injEq] at went
    obtain ⟨rfl, rfl⟩ := went
    cases won : (world.writeTerminalResult caller result).1 with
    | true =>
        obtain ⟨kept, mine, promised⟩ := settled.win terminal won
        refine ⟨kept, promised, fun later reached => ?_⟩
        exact wins later reached.2 (mine.stable reached.1)
    | false =>
        obtain ⟨kept, promised⟩ := lostQuiet won
        exact ⟨kept, promised, fun later reached => loses later reached.2⟩
  · exact ⟨settled, fun executionId => .inl (SameEnd.refl _ executionId),
      fun later reached => raises error later reached.2⟩
  · cases won : (world.writeTerminalResult caller result).1 with
    | true =>
        obtain ⟨kept, -, promised⟩ := settled.win terminal won
        exact ⟨kept, promised, fun later reached =>
          raises error later reached.2⟩
    | false =>
        obtain ⟨kept, promised⟩ := lostQuiet won
        exact ⟨kept, promised, fun later reached =>
          raises error later reached.2⟩

end Writing

/-! ### The five handlers -/

section Handlers

variable {world : World} {caller : Caller}

/-- What a result may announce: at most its own terminal event. -/
def Announceable (result : ExecutionResultDomain)
    (announce : List DomainEvent) : Prop :=
  announce = [] ∨ ∃ event, announce = [event] ∧
    event.eventType.isExecutionTerminal = true ∧
    event.executionId = result.executionId ∧ Agrees event result

/-- The winner publishes what it may announce, and then no second terminal
event follows. -/
theorem wp_announceAll {result : ExecutionResultDomain}
    {announce : List DomainEvent}
    {post : Except PyException Unit → World → Prop}
    (settled : Settled world) (holds : Won caller result [] world)
    (announceable : Announceable result announce)
    (returns : ∀ published later, Settled later →
      Won caller result published later →
      false ∉ published.map isTerminalEvent → post (.ok ()) later)
    (raises : ∀ error later, Settled later → post (.error error) later) :
    contract.wp backend caller (ResultProcessor.announceAll announce) post
      world := by
  rcases announceable with rfl | ⟨event, rfl, terminal, own, agrees⟩
  · exact returns [] world settled holds (by simp)
  · rw [ResultProcessor.announceAll, Contract.wp_bind]
    apply wp_produceOrLog_won settled holds own _ agrees (by simp)
    · intro later settledLater wonLater
      rcases wonLater with won | won
      · exact returns [] later settledLater won (by simp)
      · exact returns [⟨caller, event⟩] later settledLater won
          (by simp [isTerminalEvent, terminal])
    · exact raises
    · simp [EventType.isAnnouncement, terminal]

/-- The winner publishes `result_stored`. -/
theorem wp_publishResultStored {result : ExecutionResultDomain}
    {published : List Publication} {sizeBytes : Nat} {userId : UserId}
    {aggregateId : Option String}
    (settled : Settled world) (holds : Won caller result published world)
    (unused : false ∉ published.map isTerminalEvent) :
    contract.wp backend caller
      (ResultProcessor.publishResultStored result.executionId sizeBytes userId
        aggregateId) (fun _ _ => True) world := by
  rw [ResultProcessor.publishResultStored, Contract.wp_bind]
  apply wp_read settled (fun _ => rfl)
  intro eventId later reached
  cases eventId with
  | error error => trivial
  | ok eventId =>
      apply wp_produceOrLog_won reached.2 (holds.stable reached.1) rfl rfl
      · intro status announced
        cases announced
      · exact unused
      · intros
        trivial
      · intros
        trivial

/-- A failure to store is only reported. -/
theorem wp_publishResultFailed {executionId : ExecutionId} {userId : UserId}
    {aggregateId : Option String}
    {post : Except PyException Unit → World → Prop}
    (settled : Settled world)
    (continues : ∀ reply later, Settled later → post reply later) :
    contract.wp backend caller
      (ResultProcessor.publishResultFailed executionId userId aggregateId)
      post world := by
  rw [ResultProcessor.publishResultFailed, Contract.wp_bind]
  apply wp_read settled (fun _ => rfl)
  intro eventId later reached
  cases eventId with
  | error error => exact continues _ later reached.2
  | ok eventId =>
      dsimp only
      rw [produce, Contract.wp_bind]
      apply wp_storeEvent reached.2
      intro stored afterStore reachedStore
      cases stored with
      | error error => exact continues _ afterStore reachedStore.2
      | ok _ =>
          dsimp only
          rw [Contract.wp_bind]
          apply wp_publish_other reachedStore.2 rfl
          intro sent final reachedFinal
          cases sent with
          | error error => exact continues _ final reachedFinal.2
          | ok _ => exact continues _ final reachedFinal.2

/-- Storing a result and announcing it keeps the contract. -/
theorem wp_store {result : ExecutionResultDomain} {metadata : EventMetadata}
    {aggregateId : Option String} {announce : List DomainEvent}
    (settled : Settled world) (terminal : result.status.isTerminal = true)
    (announceable : Announceable result announce) :
    contract.wp backend caller
      (ResultProcessor.store result metadata aggregateId announce)
      (fun _ _ => True) world := by
  rw [ResultProcessor.store, Contract.wp_bind, Contract.wp_attempt,
    Contract.wp_bind]
  apply wp_writeTerminalResult settled terminal
  · intro won settledWon mine
    dsimp only [Contract.wp_pure]
    rw [Contract.wp_bind]
    apply wp_announceAll settledWon mine announceable
    · intro published later settledLater wonLater unused
      exact wp_publishResultStored settledLater wonLater unused
    · intros
      trivial
  · intro later settledLater
    trivial
  · intro error later settledLater
    dsimp only
    split
    · rw [Contract.wp_bind]
      apply wp_publishResultFailed settledLater
      intro reply final settledFinal
      cases reply <;> trivial
    · trivial

/-- A handler that finds its execution stores what it was told. -/
theorem wp_withExecution {executionId : ExecutionId}
    {handle : ExecutionDocument → Program Unit} (settled : Settled world)
    (stores : ∀ doc later, Settled later →
      contract.wp backend caller (handle doc) (fun _ _ => True) later) :
    contract.wp backend caller
      (ResultProcessor.withExecution executionId handle)
      (fun _ _ => True) world := by
  rw [ResultProcessor.withExecution, Contract.wp_bind]
  apply wp_read settled (fun _ => rfl)
  intro found later reached
  match found with
  | .error error => trivial
  | .ok none => trivial
  | .ok (some doc) => exact stores doc later reached.2

private theorem wp_handleExecutionFailed (event : ExecutionFailedEvent)
    (settled : Settled world) :
    contract.wp backend caller (ResultProcessor.handleExecutionFailed event)
      (fun _ _ => True) world := by
  apply wp_withExecution settled
  intro doc later settledLater
  apply wp_store settledLater rfl
  exact .inr ⟨_, rfl, rfl, rfl, fun status announced => by
    cases announced; rfl⟩

/-- Every call that ends an execution keeps the contract. -/
theorem wp_ending (ending : Ending) (settled : Settled world) :
    contract.wp backend caller ending.handle (fun _ _ => True) world := by
  cases ending with
  | completed event =>
      apply wp_withExecution settled
      intro doc later settledLater
      rw [Contract.wp_bind]
      apply wp_read settledLater (fun _ => rfl)
      intro limits final reached
      cases limits with
      | error error => trivial
      | ok _ =>
          apply wp_store reached.2 rfl
          exact .inr ⟨_, rfl, rfl, rfl, fun status announced => by
            cases announced; rfl⟩
  | failed event => exact wp_handleExecutionFailed event settled
  | timeout event =>
      apply wp_withExecution settled
      intro doc later settledLater
      apply wp_store settledLater rfl
      exact .inr ⟨_, rfl, rfl, rfl, fun status announced => by
        cases announced; rfl⟩
  | cancelled event =>
      apply wp_withExecution settled
      intro doc later settledLater
      apply wp_store settledLater rfl
      exact .inl rfl
  | lostRequest executionId =>
      apply wp_withExecution settled
      intro doc later settledLater
      rw [Contract.wp_bind]
      apply wp_read settledLater (fun _ => rfl)
      intro eventId final reached
      cases eventId with
      | error error => trivial
      | ok eventId => exact wp_handleExecutionFailed _ reached.2

end Handlers

/-! ### The law over runs -/

/-- A run starts with any documents and with nothing announced; every call
reports some end. -/
def start (executions : Executions) (clock : Nat)
    (endings : Caller → Ending) : Backend where
  shared := { executions := executions, clock := clock }
  running caller := some (endings caller).handle

theorem start_safe (executions : Executions) (clock : Nat)
    (endings : Caller → Ending) :
    contract.Safe backend (fun _ _ _ => True)
      (start executions clock endings) := by
  apply Contract.Safe.start sound
  · constructor <;> simp [start, wins, announcements]
  · intro caller dead
    cases dead
  · intro caller coroutine runs later reached
    cases runs
    exact wp_ending (endings caller) reached.2

/-- Over any run of calls that end executions, whatever fails and whatever
other writers do meanwhile, each execution has at most one published terminal
event and at most one published `result_stored`; both come from the one call
whose conditional write won, and the terminal event's kind is the status that
this write stored and that the record still shows. -/
theorem one_announced_end {executions : Executions} {clock : Nat}
    {endings : Caller → Ending}
    {moves : List (Move Caller Choice WorldEvent)} {final : Backend}
    (reached : backend.machine.run (start executions clock endings) moves =
      some final) (executionId : ExecutionId) :
    ((announcements final.shared executionId).filter isTerminalEvent).length
        ≤ 1 ∧
    ((announcements final.shared executionId).filter
        fun publication => !isTerminalEvent publication).length ≤ 1 ∧
    ∀ publication ∈ announcements final.shared executionId,
      ∃ write, wins final.shared executionId = [write] ∧
        write.caller = publication.caller ∧
        ∀ status, publication.event.eventType.announcedStatus =
            some status →
          write.result.status = status ∧
            ∀ doc, final.shared.executions executionId = some doc →
              doc.status = status := by
  have safe := sound.run Contract.stable_true
    (start_safe executions clock endings)
    (backend.machine.along_of_forall (by
      intro state move
      cases move with
      | caller caller choice => exact fun _ _ => trivial
      | environment event => trivial
      | kill caller => trivial) _ _) reached
  have settled := safe.invariant
  have nodup := settled.once executionId
  refine ⟨?_, ?_, ?_⟩
  · simpa using filter_length_of_nodup nodup true
  · simpa using filter_length_of_nodup nodup false
  · intro publication member
    obtain ⟨write, winner, byCaller, agrees⟩ :=
      settled.owned executionId publication member
    have single : wins final.shared executionId = [write] := by
      have bound := settled.single executionId
      cases listed : wins final.shared executionId with
      | nil => simp [listed] at winner
      | cons head tail =>
          have empty : tail = [] := by simpa [listed] using bound
          simp_all
    refine ⟨write, single, byCaller, fun status announced => ?_⟩
    have status_eq := agrees status announced
    obtain ⟨recorded, sameExecution⟩ := List.mem_filter.mp winner
    have same : write.result.executionId = executionId := by
      simpa using sameExecution
    refine ⟨status_eq.symm, fun doc stored => ?_⟩
    rw [status_eq]
    exact settled.stored write recorded doc (same ▸ stored)

/-- The pod of an execution fails while its owner cancels it. -/
def failureAndCancel : Caller → Ending
  | 0 => .failed
      { eventId := "f1"
        executionId := "e1"
        errorType := .scriptError
        metadata :=
          { serviceName := "pod-monitor"
            serviceVersion := "1.0.0"
            userId := "u1" } }
  | _ => .cancelled
      { eventId := "c1"
        executionId := "e1"
        cancelledBy := "u1"
        metadata :=
          { serviceName := "execution-service"
            serviceVersion := "2.0.0"
            userId := "u1" } }

/-- Both calls find the execution active; the failure writes first. -/
def failureFirst : List (Move Caller Choice WorldEvent) :=
  [.caller 0 {}, .caller 1 {}, .caller 0 {}, .caller 1 {}, .caller 0 {},
    .caller 0 {}, .caller 0 { fresh := "r1" }, .caller 0 {}, .caller 0 {}]

theorem one_announced_end_failure_first :
    ∃ final, backend.machine.run
        (start (Collection.insert (fun _ => none) "e1" queuedExecution) 0
          failureAndCancel) failureFirst = some final ∧
      final.shared.published.map (fun sent => sent.event.eventType) =
        [.resultStored, .executionFailed] ∧
      ((announcements final.shared "e1").filter isTerminalEvent).length
        ≤ 1 := by
  have published : (backend.machine.run
      (start (Collection.insert (fun _ => none) "e1" queuedExecution) 0
        failureAndCancel) failureFirst).map
        (fun final => final.shared.published.map
          fun sent => sent.event.eventType) =
      some [.resultStored, .executionFailed] := by decide
  obtain ⟨final, reached, sent⟩ := Option.map_eq_some_iff.mp published
  exact ⟨final, reached, sent, (one_announced_end reached "e1").1⟩

end Announced

end Integr8s
