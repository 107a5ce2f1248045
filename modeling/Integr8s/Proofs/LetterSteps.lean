/-
Module: Integr8s.Proofs.LetterSteps
Purpose: What any command of the backend does to the dead letters, to the log
  of the topic they go back to, and to what a call is in charge of.
Trusted boundary: none
Main exports: World.log, SameLetters, World.perform_quiet, Own,
  World.perform_own, RowsLast, World.effect_log,
  World.perform_log
-/
import Integr8s.Infrastructure.World

namespace Integr8s

/-- A message as it was published. -/
def Message.sent (message : Message) : Message :=
  { message with acknowledged := false }

/-- The messages of the topic as they were published. -/
def World.log (world : World) : List Message :=
  world.messages.map Message.sent

/-- What the unique index of the rows is over. -/
@[ext] structure LetterKey where
  eventId : EventId
  consumerGroup : String
deriving DecidableEq, Repr

/-- The key of a row. -/
def DLQMessageDocument.key (doc : DLQMessageDocument) : LetterKey :=
  ⟨doc.event.base.eventId, doc.consumerGroup⟩

theorem DLQMessageDocument.isFor_key {doc : DLQMessageDocument}
    {key : LetterKey} :
    doc.isFor key.eventId key.consumerGroup = true ↔ doc.key = key := by
  rw [isFor_iff]
  cases key
  simp [DLQMessageDocument.key]

/-! ### What a step leaves of the letters -/

/-- Everything about the dead letters is the same in both worlds. -/
structure SameLetters (before after : World) : Prop where
  log : after.log = before.log
  deadLetters : after.deadLetters = before.deadLetters
  owing : after.owing = before.owing
  retrying : after.retrying = before.retrying
  marking : after.marking = before.marking
  saves : after.saves = before.saves
  attempts : after.attempts = before.attempts

/-- What a call is in charge of and what it did are its own. -/
structure Own (caller : Caller) (before after : World) : Prop where
  owing : caller ∈ after.owing ↔ caller ∈ before.owing
  retrying : caller ∈ after.retrying ↔ caller ∈ before.retrying
  marking : after.marking caller = before.marking caller
  saves : ∀ message, ⟨caller, message⟩ ∈ after.saves ↔
    ⟨caller, message⟩ ∈ before.saves
  attempts : caller ∈ after.attempts ↔ caller ∈ before.attempts

/-- No row is ever deleted. -/
def RowsLast (before after : World) : Prop :=
  ∀ row ∈ before.deadLetters, ∃ kept ∈ after.deadLetters, kept.key = row.key

theorem Own.refl (caller : Caller) (world : World) : Own caller world world :=
  ⟨Iff.rfl, Iff.rfl, rfl, fun _ => Iff.rfl, Iff.rfl⟩

theorem Own.trans {caller : Caller} {first second third : World}
    (earlier : Own caller first second) (later : Own caller second third) :
    Own caller first third where
  owing := later.owing.trans earlier.owing
  retrying := later.retrying.trans earlier.retrying
  marking := later.marking.trans earlier.marking
  saves message := (later.saves message).trans (earlier.saves message)
  attempts := later.attempts.trans earlier.attempts

theorem RowsLast.refl (world : World) : RowsLast world world :=
  fun row member => ⟨row, member, rfl⟩

theorem RowsLast.trans {first second third : World}
    (earlier : RowsLast first second) (later : RowsLast second third) :
    RowsLast first third := by
  intro row member
  obtain ⟨kept, present, same⟩ := earlier row member
  obtain ⟨last, presentLast, sameLast⟩ := later kept present
  exact ⟨last, presentLast, sameLast.trans same⟩

namespace SameLetters

variable {before after : World}

theorem refl (world : World) : SameLetters world world :=
  ⟨rfl, rfl, rfl, rfl, rfl, rfl, rfl⟩

theorem own (same : SameLetters before after) (caller : Caller) :
    Own caller before after where
  owing := by rw [same.owing]
  retrying := by rw [same.retrying]
  marking := by rw [same.marking]
  saves _ := by rw [same.saves]
  attempts := by rw [same.attempts]

theorem rows (same : SameLetters before after) : RowsLast before after := by
  intro row member
  exact ⟨row, same.deadLetters ▸ member, rfl⟩

end SameLetters

/-! ### What a command does to them -/

/-- The commands that leave the dead letters and what is known of them as they
are. -/
def Command.isQuiet : Command → Bool
  | .work | .delivery (.saveMessage _) | .delivery (.updateStatus ..)
  | .delivery (.republish _) => false
  | _ => true

theorem Command.quiet_cases (command : Command) :
    command.isQuiet = true ∨ command = .work ∨
      (∃ message, command = .delivery (.saveMessage message)) ∨
      (∃ eventId consumerGroup changes, command =
        .delivery (.updateStatus eventId consumerGroup changes)) ∨
      ∃ message, command = .delivery (.republish message) := by
  cases command with
  | work => exact .inr (.inl rfl)
  | delivery command =>
      cases command with
      | saveMessage message => exact .inr (.inr (.inl ⟨message, rfl⟩))
      | updateStatus eventId consumerGroup changes =>
          exact .inr (.inr (.inr (.inl ⟨eventId, consumerGroup, changes, rfl⟩)))
      | republish message => exact .inr (.inr (.inr (.inr ⟨message, rfl⟩)))
      | _ => exact .inl rfl
  | _ => exact .inl rfl

namespace World

variable {caller other : Caller} {choice : Choice} {world next : World}

/-- An acknowledgement says nothing about what was published. -/
@[simp] theorem log_acknowledge (offset : Nat) :
    (world.acknowledge caller offset).log = world.log := by
  apply List.ext_getElem?
  intro index
  simp only [log, acknowledge, dropSighting, List.getElem?_map,
    List.getElem?_modify]
  cases world.messages[index]? with
  | none => rfl
  | some message =>
      simp only [Option.map_eq_map, Option.map_some]
      split <;> rfl

@[simp] theorem log_republish (message : Message) :
    (world.republish caller message).log = world.log ++ [message.sent] := by
  simp [log, republish]

/-- A quiet command leaves the dead letters alone. -/
theorem effect_quiet {command : Command} (quiet : command.isQuiet = true) :
    SameLetters world (world.effect caller choice command).2 := by
  cases command with
  | work => cases quiet
  | delivery command =>
      cases command with
      | saveMessage message => cases quiet
      | updateStatus eventId consumerGroup changes => cases quiet
      | republish message => cases quiet
      | acknowledge offset duplicate =>
          exact ⟨log_acknowledge offset, rfl, rfl, rfl, rfl, rfl, rfl⟩
      | _ => exact ⟨rfl, rfl, rfl, rfl, rfl, rfl, rfl⟩
  | advanceStatus executionId status =>
      simp only [effect]
      split <;> exact ⟨rfl, rfl, rfl, rfl, rfl, rfl, rfl⟩
  | insertProcessing record =>
      cases found : world.keys.live world.clock record.key with
      | none =>
          rw [effect_insertProcessing_free found]
          exact ⟨rfl, rfl, rfl, rfl, rfl, rfl, rfl⟩
      | some entry =>
          rw [effect_insertProcessing_taken found]
          exact ⟨rfl, rfl, rfl, rfl, rfl, rfl, rfl⟩
  | updateRecord loaded record =>
      cases found : world.keys.live world.clock record.key with
      | none =>
          rw [effect_updateRecord_missing found]
          exact ⟨rfl, rfl, rfl, rfl, rfl, rfl, rfl⟩
      | some entry =>
          rw [effect_updateRecord_found found]
          exact ⟨rfl, rfl, rfl, rfl, rfl, rfl, rfl⟩
  | _ => exact ⟨rfl, rfl, rfl, rfl, rfl, rfl, rfl⟩

/-- A command other than a handler that fails leaves the dead letters alone. -/
theorem failure_same {command : Command} (other : command ≠ .work) :
    SameLetters world (world.failure caller command) := by
  cases command with
  | work => exact absurd rfl other
  | delivery command => cases command <;> exact ⟨rfl, rfl, rfl, rfl, rfl, rfl, rfl⟩
  | _ => exact ⟨rfl, rfl, rfl, rfl, rfl, rfl, rfl⟩

theorem perform_quiet {command : Command} (quiet : command.isQuiet = true)
    {reply : Except PyException (Reply command)}
    (performed : world.perform caller command choice = some (reply, next)) :
    SameLetters world next := by
  apply perform_world performed (effect_quiet quiet)
  apply failure_same
  rintro rfl
  cases quiet

/-- A command changes only what its own caller is in charge of. -/
theorem effect_own (different : other ≠ caller) (command : Command) :
    Own other world (world.effect caller choice command).2 := by
  rcases command.quiet_cases with quiet | rfl | ⟨message, rfl⟩ |
    ⟨eventId, consumerGroup, changes, rfl⟩ | ⟨message, rfl⟩
  · exact (effect_quiet quiet).own other
  · constructor <;> simp [effect, noteReturn, different]
  · constructor <;> simp [effect, effectDelivery, saveMessage, different]
  · simp only [effect, effectDelivery, updateStatus]
    split <;> constructor <;>
      simp [changeRow, noteMark, noteSettled, different]
  · constructor <;> simp [effect, effectDelivery, republish, different]

private theorem failure_own (different : other ≠ caller) (command : Command) :
    Own other world (world.failure caller command) := by
  by_cases same : command = .work
  · subst same
    constructor <;> simp [failure, noteRaise, different]
  · exact (failure_same same).own other

theorem perform_own (different : other ≠ caller) {command : Command}
    {reply : Except PyException (Reply command)}
    (performed : world.perform caller command choice = some (reply, next)) :
    Own other world next :=
  perform_world performed (effect_own different command)
    (failure_own different command)

theorem saveMessage_cases {message row : DLQMessageDocument}
    (member : row ∈ (world.saveMessage caller message).deadLetters) :
    row = message ∨ row ∈ world.deadLetters ∧ row.key ≠ message.key := by
  rcases mem_saveMessage member with is | ⟨present, other⟩
  · exact .inl is
  · refine .inr ⟨present, fun same => ?_⟩
    have its := DLQMessageDocument.isFor_key.mpr same
    exact Bool.false_ne_true (other.symm.trans its)

theorem changeRow_cases {key : LetterKey} {changes : DLQMessageChanges}
    {row : DLQMessageDocument}
    (member : row ∈ (world.changeRow key.eventId key.consumerGroup
      changes).deadLetters) :
    (∃ old ∈ world.deadLetters, old.key = key ∧
      row = old.change changes world.clock) ∨
    row ∈ world.deadLetters ∧ row.key ≠ key := by
  rcases mem_changeRow member with ⟨old, present, its, is⟩ | ⟨present, other⟩
  · exact .inl ⟨old, present, DLQMessageDocument.isFor_key.mp its, is⟩
  · refine .inr ⟨present, fun same => ?_⟩
    have its := DLQMessageDocument.isFor_key.mpr same
    exact Bool.false_ne_true (other.symm.trans its)

theorem saveMessage_self (message : DLQMessageDocument) :
    message ∈ (world.saveMessage caller message).deadLetters := by
  simp only [saveMessage]
  split
  · next some =>
      obtain ⟨old, member, same⟩ := List.any_eq_true.mp some
      exact List.mem_map.mpr ⟨old, member, if_pos same⟩
  · exact List.mem_cons_self

/-- Saving a row keeps the keys unique. -/
theorem unique_saveMessage {message : DLQMessageDocument}
    (unique : world.deadLetters.Pairwise fun first second =>
      first.key ≠ second.key) :
    (world.saveMessage caller message).deadLetters.Pairwise
      fun first second => first.key ≠ second.key := by
  simp only [saveMessage]
  split
  · rw [List.pairwise_map]
    apply unique.imp
    intro first second different
    split
    · next isFirst =>
        have keyFirst : first.key = message.key :=
          DLQMessageDocument.isFor_key.mp isFirst
        split
        · next isSecond =>
            have keySecond : second.key = message.key :=
              DLQMessageDocument.isFor_key.mp isSecond
            exact absurd (keyFirst.trans keySecond.symm) different
        · exact fun same => different (keyFirst.trans same)
    · split
      · next isSecond =>
          have keySecond : second.key = message.key :=
            DLQMessageDocument.isFor_key.mp isSecond
          exact fun same => different (same.trans keySecond.symm)
      · exact different
  · next none =>
      refine List.pairwise_cons.mpr ⟨fun row member same => ?_, unique⟩
      apply none
      exact List.any_eq_true.mpr
        ⟨row, member, DLQMessageDocument.isFor_key.mpr same.symm⟩

/-- Changing rows keeps the keys unique. -/
theorem unique_changeRow {eventId : EventId} {consumerGroup : String}
    {changes : DLQMessageChanges}
    (unique : world.deadLetters.Pairwise fun first second =>
      first.key ≠ second.key) :
    (world.changeRow eventId consumerGroup changes).deadLetters.Pairwise
      fun first second => first.key ≠ second.key := by
  rw [changeRow, List.pairwise_map]
  apply unique.imp
  intro first second different
  split <;> split <;> exact different

theorem rows_saveMessage (message : DLQMessageDocument) :
    RowsLast world (world.saveMessage caller message) := by
  intro row member
  simp only [saveMessage]
  split
  · by_cases same :
      row.isFor message.event.base.eventId message.consumerGroup = true
    · refine ⟨message, List.mem_map.mpr ⟨row, member, by simp [same]⟩, ?_⟩
      exact (DLQMessageDocument.isFor_key.mp same).symm
    · exact ⟨row, List.mem_map.mpr ⟨row, member, by simp [same]⟩, rfl⟩
  · exact ⟨row, List.mem_cons_of_mem _ member, rfl⟩

theorem rows_changeRow (eventId : EventId) (consumerGroup : String)
    (changes : DLQMessageChanges) :
    RowsLast world (world.changeRow eventId consumerGroup changes) := by
  intro row member
  refine ⟨_, List.mem_map_of_mem member, ?_⟩
  split <;> rfl

theorem effect_rows (command : Command) :
    RowsLast world (world.effect caller choice command).2 := by
  rcases command.quiet_cases with quiet | rfl | ⟨message, rfl⟩ |
    ⟨eventId, consumerGroup, changes, rfl⟩ | ⟨message, rfl⟩
  · exact (effect_quiet quiet).rows
  · exact RowsLast.refl world
  · exact rows_saveMessage message
  · simp only [effect, effectDelivery, updateStatus]
    split <;> exact rows_changeRow eventId consumerGroup changes
  · exact RowsLast.refl world

/-- Only a retry goes into the log. -/
theorem effect_log (command : Command) :
    (world.effect caller choice command).2.log = world.log ∨
      ∃ message, command = .delivery (.republish message) ∧
        (world.effect caller choice command).2.log =
          world.log ++ [message.sent] := by
  rcases command.quiet_cases with quiet | rfl | ⟨message, rfl⟩ |
    ⟨eventId, consumerGroup, changes, rfl⟩ | ⟨message, rfl⟩
  · exact .inl (effect_quiet quiet).log
  · exact .inl rfl
  · exact .inl rfl
  · simp only [effect, effectDelivery, updateStatus]
    split <;> exact .inl rfl
  · exact .inr ⟨message, rfl, log_republish message⟩

/-- The log only grows. -/
theorem perform_log {command : Command}
    {reply : Except PyException (Reply command)}
    (performed : world.perform caller command choice = some (reply, next)) :
    world.log <+: next.log := by
  apply perform_world performed
  · rcases effect_log command with same | ⟨message, -, grown⟩
    · rw [same]
    · rw [grown]
      exact List.prefix_append _ _
  · obtain ⟨holding, owing, attempts, sightings, same⟩ :=
      failure_eq caller world command
    rw [same]
    exact List.prefix_rfl

end World

end Integr8s
