/-
Module: Integr8s.Proofs.ReadNotifications
Purpose: When a notification that was read stays read: a delivery writes its
  status without looking at the stored one, so it stays read when nobody marks
  it between the claim of a delivery and the delivery's last write.
Trusted boundary: none
Main exports: ReadNotifications.read_stays_read,
  ReadNotifications.read_overwritten
-/
import Integr8s.Lib.Typestate
import Integr8s.Services.Notifications

namespace Integr8s

namespace ReadNotifications

open NotificationCall (start)

/-- A write of a delivery: it sets the status to something else than read. -/
def DeliveryWrite (notificationId : NotificationId) :
    NotificationCommand → Prop
  | .update other changes => other = notificationId ∧ changes.status ≠ .read
  | _ => False

/-- A command that is no write of any delivery. -/
def NoDeliveryWrite (command : NotificationCommand) : Prop :=
  ∀ notificationId, ¬ DeliveryWrite notificationId command

/-- A caller that writes the status of a delivery only after it claimed the
notification. -/
def unclaimed (notificationId : NotificationId) :
    Typestate Unit NotificationCommand NotificationReply PyException where
  awaits _ command := ¬ DeliveryWrite notificationId command
  answers _
    | .claimPending other _, reply => other = notificationId → reply ≠ .ok true
    | _, _ => True
  after _ _ _ := ()

/-- A coroutine that does not come to a delivery's write of a notification any
more, unless it claims it first. -/
def Settled {α : Type} (notificationId : NotificationId)
    (coroutine : NotificationProgram α) : Prop :=
  (unclaimed notificationId).Follows coroutine (fun _ _ => True) ()

/-- A step by which a stored notification becomes read. -/
def Marks (state : Notifications)
    (move : Move Caller NotificationChoice NotificationEvent)
    (notificationId : NotificationId) : Prop :=
  ∃ caller choice doc, move = .caller caller choice ∧
    (∀ error, choice.outcome ≠ .fails error) ∧
    state.shared.notifications notificationId = some doc ∧
    match state.awaited caller with
    | some (.update other changes) =>
        other = notificationId ∧ changes.status = .read
    | some (.updateUnread userId _) =>
        NotificationStore.unreadOf userId doc = true
    | _ => False

/-- A notification is marked as read only while no delivery of it is between
its claim and its last write. -/
def MarksSettled (state : Notifications)
    (move : Move Caller NotificationChoice NotificationEvent) : Prop :=
  ∀ notificationId, Marks state move notificationId →
    ∀ caller coroutine, state.running caller = some coroutine →
      Settled notificationId coroutine

/-! ### Which calls write a status -/

section Calls

variable {notificationId : NotificationId}

/-- A coroutine that awaits no write of a delivery is settled. -/
theorem settled_of_asks {α : Type} {coroutine : NotificationProgram α}
    {allowed : NotificationCommand → Prop} (asks : coroutine.Asks allowed)
    (apart : ∀ command, allowed command →
      ¬ DeliveryWrite notificationId command) :
    Settled notificationId coroutine :=
  Typestate.follows_asks
    (fun command _ may _ => ⟨apart command may, fun _ _ => trivial⟩)
    (fun _ _ => trivial) asks trivial

/-- Writes to another notification are nothing to this one. -/
theorem asks_updateNotification {other : NotificationId}
    (different : other ≠ notificationId) (userId : UserId)
    (changes : NotificationChanges) :
    (NotificationRepository.updateNotification other userId changes).Asks
      fun command => ¬ DeliveryWrite notificationId command := by
  apply Coroutine.Asks.bind
  · exact Coroutine.Asks.call id
  intro found
  cases found with
  | none => trivial
  | some doc =>
      apply Coroutine.Asks.bind
      · exact Coroutine.Asks.call fun write => different write.1
      intro _
      trivial

private theorem asks_retrying {attempt : NotificationProgram Unit}
    (asks : attempt.Asks fun command => ¬ DeliveryWrite notificationId command)
    (attempts : Nat) :
    (NotificationService.retrying attempt attempts).Asks
      fun command => ¬ DeliveryWrite notificationId command := by
  induction attempts with
  | zero => exact asks
  | succ attempts inductionHypothesis =>
      cases attempts with
      | zero => exact asks
      | succ attempts =>
          apply Coroutine.Asks.attempt asks
          intro _
          apply Coroutine.Asks.bind
          · exact Coroutine.Asks.call id
          intro _
          exact inductionHypothesis

/-- What follows the claim of a delivery of another notification. -/
theorem asks_deliver {notification : NotificationDocument}
    (different : notification.notificationId ≠ notificationId)
    (text : PyException → String) :
    ((NotificationService.deliverClaimed notification).attempt
        (NotificationService.failDelivery text notification)).Asks
      fun command => ¬ DeliveryWrite notificationId command := by
  apply Coroutine.Asks.attempt
  · apply Coroutine.Asks.bind
    · exact asks_retrying (Coroutine.Asks.call id) _
    intro _
    apply Coroutine.Asks.bind
    · exact Coroutine.Asks.call id
    intro now
    apply Coroutine.Asks.bind (asks_updateNotification different _ _)
    intro _
    trivial
  · intro error
    apply Coroutine.Asks.bind
    · exact Coroutine.Asks.call id
    intro now
    apply Coroutine.Asks.bind (asks_updateNotification different _ _)
    intro _
    trivial

/-- A delivery is settled before its claim. -/
theorem settled_deliverNotification (text : PyException → String)
    (notification : NotificationDocument) :
    Settled notificationId
      (NotificationService.deliverNotification text notification) := by
  unfold Settled NotificationService.deliverNotification
    NotificationRepository.tryClaimPending
  rw [Typestate.follows_bind, Typestate.follows_bind]
  refine ⟨id, fun now _ => ?_⟩
  cases now with
  | error error => trivial
  | ok now =>
      refine ⟨id, fun claimed answered => ?_⟩
      match claimed with
      | .error error => trivial
      | .ok false => trivial
      | .ok true =>
          have different : notification.notificationId ≠ notificationId :=
            fun same => answered same rfl
          exact settled_of_asks (asks_deliver different text) fun _ => id

/-- A user's mark is no write of a delivery. -/
theorem asks_markAsRead (userId : UserId) (other : NotificationId) :
    (NotificationService.markAsRead userId other).Asks NoDeliveryWrite := by
  apply Coroutine.Asks.bind
  · apply Coroutine.Asks.bind
    · exact Coroutine.Asks.call fun _ => id
    intro found
    cases found with
    | none => trivial
    | some doc =>
        apply Coroutine.Asks.bind
        · exact Coroutine.Asks.call fun _ => id
        intro now
        apply Coroutine.Asks.bind
        · exact Coroutine.Asks.call fun _ write => write.2 rfl
        intro _
        trivial
  intro success
  cases success <;> trivial

/-- Every call is settled at first. -/
theorem settled_run (text : PyException → String) (call : NotificationCall) :
    Settled notificationId (call.run text) := by
  cases call with
  | markAsRead userId other =>
      exact settled_of_asks (asks_markAsRead userId other)
        fun _ apart => apart notificationId
  | markAllAsRead userId =>
      apply @settled_of_asks _ _ _ NoDeliveryWrite _
        fun _ apart => apart notificationId
      apply Coroutine.Asks.bind
      · apply Coroutine.Asks.bind
        · exact Coroutine.Asks.call fun _ => id
        intro now
        exact Coroutine.Asks.call fun _ => id
      intro _
      trivial
  | deleteNotification userId other =>
      apply @settled_of_asks _ _ _ NoDeliveryWrite _
        fun _ apart => apart notificationId
      apply Coroutine.Asks.bind
      · apply Coroutine.Asks.bind
        · exact Coroutine.Asks.call fun _ => id
        intro found
        cases found with
        | none => trivial
        | some doc =>
            apply Coroutine.Asks.bind
            · exact Coroutine.Asks.call fun _ => id
            intro _
            trivial
      intro deleted
      cases deleted <;> trivial
  | deliverNotification notification =>
      unfold Settled NotificationCall.run
      rw [Typestate.follows_bind]
      apply Typestate.follows_mono _
        (settled_deliverNotification text notification)
      intro result there _
      cases result <;> trivial

end Calls

/-! ### What a command does to a status -/

section Store

variable {store : NotificationStore} {notificationId : NotificationId}
  {modified : Nat} {command : NotificationCommand}

/-- What a command does to the status of a notification that was read. -/
theorem effect_read (read : store.status notificationId = some .read)
    (noWrite : ¬ DeliveryWrite notificationId command) :
    (store.effect modified command).2.status notificationId = some .read ∨
      (store.effect modified command).2.status notificationId = none := by
  obtain ⟨doc, stored, isRead⟩ := Option.map_eq_some_iff.mp read
  cases command with
  | claimPending other sentAt =>
      left
      simp only [NotificationStore.effect, NotificationStore.status,
        Collection.updateOne_get]
      split
      · next same => simp [← same, stored, isRead]
      · exact read
  | update other changes =>
      left
      simp only [NotificationStore.effect, NotificationStore.status,
        Collection.updateOne_get]
      split
      · next same =>
          have marks : changes.status = .read := by
            by_contra writes
            exact noWrite ⟨same.symm, writes⟩
          simp [← same, stored, NotificationDocument.change, marks]
      · exact read
  | updateUnread userId readAt =>
      left
      simp only [NotificationStore.effect, NotificationStore.status,
        NotificationStore.updateMany, stored, Option.map_some]
      split
      · rfl
      · exact congrArg some isRead
  | delete other =>
      by_cases same : notificationId = other
      · right
        simp [NotificationStore.effect, NotificationStore.status, same]
      · left
        simpa [NotificationStore.effect, NotificationStore.status, same]
          using ⟨doc, stored, isRead⟩
  | _ => exact .inl read

/-- No command stores a new notification. -/
theorem effect_none (gone : store.status notificationId = none) :
    (store.effect modified command).2.status notificationId = none := by
  have missing := Option.map_eq_none_iff.mp gone
  cases command with
  | claimPending other sentAt | update other changes =>
      simp only [NotificationStore.effect, NotificationStore.status,
        Collection.updateOne_get]
      split
      · next same => simp [← same, missing]
      · exact gone
  | updateUnread userId readAt =>
      simp [NotificationStore.effect, NotificationStore.status,
        NotificationStore.updateMany, missing]
  | delete other =>
      by_cases same : notificationId = other
      · simp [NotificationStore.effect, NotificationStore.status, same]
      · simpa [NotificationStore.effect, NotificationStore.status, same]
          using missing
  | _ => exact gone

/-- A read notification cannot be claimed. -/
theorem effect_claim {sentAt : Nat}
    (read : store.status notificationId = some .read) :
    (store.effect modified (.claimPending notificationId sentAt)).1 =
      false := by
  obtain ⟨doc, stored, isRead⟩ := Option.map_eq_some_iff.mp read
  simp [NotificationStore.effect, Collection.updateOne, Collection.findOne,
    stored, isRead, Option.filter]

/-- A notification becomes read only by a mark. -/
theorem effect_unread (unread : store.status notificationId ≠ some .read)
    (becomes :
      (store.effect modified command).2.status notificationId = some .read) :
    ∃ doc, store.notifications notificationId = some doc ∧
      match command with
      | .update other changes =>
          other = notificationId ∧ changes.status = .read
      | .updateUnread userId _ =>
          NotificationStore.unreadOf userId doc = true
      | _ => False := by
  obtain ⟨after, changed, isRead⟩ := Option.map_eq_some_iff.mp becomes
  have wasUnread : ∀ doc, store.notifications notificationId = some doc →
      doc.status ≠ .read := fun doc stored isRead =>
    unread (by simp [NotificationStore.status, stored, isRead])
  cases command with
  | claimPending other sentAt =>
      simp only [NotificationStore.effect, Collection.updateOne_get] at changed
      split at changed
      · next same =>
          obtain ⟨doc, stored, rfl⟩ := Option.map_eq_some_iff.mp changed
          split at isRead
          · cases isRead
          · exact absurd isRead (wasUnread doc (same ▸ stored))
      · exact absurd isRead (wasUnread after changed)
  | update other changes =>
      simp only [NotificationStore.effect, Collection.updateOne_get] at changed
      split at changed
      · next same =>
          obtain ⟨doc, stored, rfl⟩ := Option.map_eq_some_iff.mp changed
          exact ⟨doc, same ▸ stored, same.symm, isRead⟩
      · exact absurd isRead (wasUnread after changed)
  | updateUnread userId readAt =>
      obtain ⟨doc, stored, rfl⟩ := Option.map_eq_some_iff.mp changed
      split at isRead
      · next its => exact ⟨doc, stored, its⟩
      · exact absurd isRead (wasUnread doc stored)
  | delete other =>
      by_cases same : notificationId = other
      · simp [NotificationStore.effect, same] at changed
      · simp only [NotificationStore.effect,
          Collection.delete_other _ same] at changed
        exact absurd isRead (wasUnread after changed)
  | _ => exact absurd isRead (wasUnread after changed)

end Store

/-! ### The law over runs -/

section Runs

variable {state next final : Notifications}
  {move : Move Caller NotificationChoice NotificationEvent}

/-- Nobody is about to write the status of a notification that was read. -/
def Quiet (state : Notifications) : Prop :=
  ∀ notificationId, state.shared.status notificationId = some .read →
    ∀ caller coroutine, state.running caller = some coroutine →
      Settled notificationId coroutine

theorem quiet_start (text : PyException → String) (store : NotificationStore)
    (calls : Caller → NotificationCall) : Quiet (start text store calls) := by
  intro notificationId _ caller coroutine runs
  cases runs
  exact settled_run text (calls caller)

/-- The outcome of a command, with its answer and the notifications after
it. -/
theorem perform_cases {caller : Caller} {store after : NotificationStore}
    {command : NotificationCommand} {choice : NotificationChoice}
    {reply : Except PyException (NotificationReply command)}
    (performed : notificationBackend.perform caller store command choice =
      some (reply, after)) :
    (after = store ∧ ∃ error, reply = .error error) ∨
    ((∀ error, choice.outcome ≠ .fails error) ∧
      after = (store.effect choice.modified command).2 ∧
      ∀ answer, reply = .ok answer →
        answer = (store.effect choice.modified command).1) := by
  rcases Outcome.perform_cases performed with
    ⟨went, same⟩ | ⟨error, rfl, -, ⟨-, same⟩ | ⟨lost, same⟩⟩
  · cases same
    right
    refine ⟨by simp [went], rfl, ?_⟩
    rintro answer same
    cases same
    rfl
  · exact .inl ⟨same, error, rfl⟩
  · right
    refine ⟨by simp [lost], same, ?_⟩
    rintro answer impossible
    cases impossible

/-- No claim goes through that leaves its notification read. -/
theorem answers_read {caller : Caller} {store after : NotificationStore}
    {notificationId : NotificationId} {command : NotificationCommand}
    {choice : NotificationChoice}
    {reply : Except PyException (NotificationReply command)}
    (performed : notificationBackend.perform caller store command choice =
      some (reply, after))
    (read : after.status notificationId = some .read) :
    (unclaimed notificationId).answers () command reply := by
  cases command with
  | claimPending other sentAt =>
      rintro rfl rfl
      rcases perform_cases performed with
        ⟨-, error, impossible⟩ | ⟨-, rfl, answered⟩
      · cases impossible
      by_cases was : store.status other = some .read
      · cases (answered true rfl).trans (effect_claim was)
      · obtain ⟨doc, -, impossible⟩ := effect_unread was read
        exact impossible
  | _ => trivial

/-- A notification is read or removed. -/
def ReadOrGone (notificationId : NotificationId) (store : NotificationStore) :
    Prop :=
  store.status notificationId = some .read ∨
    store.status notificationId = none

/-- A step keeps what was read as it is, or removes it, and leaves nobody
about to write it. -/
theorem Quiet.step (quiet : Quiet state) (settled : MarksSettled state move)
    (stepped : notificationBackend.machine.step state move = some next) :
    Quiet next ∧ ∀ notificationId,
      ReadOrGone notificationId state.shared →
        ReadOrGone notificationId next.shared := by
  cases move with
  | environment event =>
      obtain ⟨shared, happened, rfl⟩ := Option.map_eq_some_iff.mp stepped
      cases event with
      | tick duration =>
          cases happened
          exact ⟨quiet, fun _ holds => holds⟩
      | expire expired =>
          cases happened
          constructor
          · intro notificationId read
            by_cases same : notificationId = expired
            · simp [NotificationStore.status, same] at read
            · apply quiet notificationId
              simpa [NotificationStore.status, same] using read
          · intro notificationId holds
            by_cases same : notificationId = expired
            · right
              simp [NotificationStore.status, same]
            · simpa [ReadOrGone, NotificationStore.status, same] using holds
  | kill killed =>
      obtain ⟨coroutine, -, moved⟩ := Option.bind_eq_some_iff.mp stepped
      obtain ⟨shared, happened, rfl⟩ := Option.map_eq_some_iff.mp moved
      cases happened
      refine ⟨fun notificationId read caller coroutine runs => ?_,
        fun _ holds => holds⟩
      by_cases same : caller = killed
      · subst same
        simp at runs
      · simp only [Function.update_of_ne same] at runs
        exact quiet notificationId read caller coroutine runs
  | caller mover choice =>
      obtain ⟨coroutine, runs, moved⟩ := Option.bind_eq_some_iff.mp stepped
      obtain ⟨⟨shared, rest⟩, advanced, rfl⟩ :=
        Option.map_eq_some_iff.mp moved
      cases coroutine with
      | done result => cases advanced
      | loop body resume =>
          cases advanced
          refine ⟨fun notificationId read caller coroutine now => ?_,
            fun _ holds => holds⟩
          by_cases same : caller = mover
          · subst same
            cases (Function.update_self ..).symm.trans now
            exact Typestate.follows_unroll
              (quiet notificationId read caller _ runs)
          · simp only [Function.update_of_ne same] at now
            exact quiet notificationId read caller coroutine now
      | await command resume =>
          obtain ⟨⟨reply, after⟩, performed, same⟩ :=
            Option.map_eq_some_iff.mp advanced
          cases same
          have awaits : state.awaited mover = some command := by
            simp [Callers.awaited, runs]
          have ways := perform_cases performed
          -- Whoever is settled before the step is so after it.
          have before : ∀ notificationId,
              after.status notificationId = some .read →
                ∀ caller coroutine, state.running caller = some coroutine →
                  Settled notificationId coroutine := by
            intro notificationId read
            by_cases was : state.shared.status notificationId = some .read
            · exact quiet notificationId was
            rcases ways with ⟨same, -⟩ | ⟨effective, same, -⟩
            · exact absurd (same ▸ read) was
            · rw [same] at read
              obtain ⟨doc, stored, marks⟩ := effect_unread was read
              apply settled notificationId
              refine ⟨mover, choice, doc, rfl, effective, stored, ?_⟩
              rw [awaits]
              cases command <;> exact marks
          constructor
          · intro notificationId read caller coroutine now
            by_cases same : caller = mover
            · subst same
              cases (Function.update_self ..).symm.trans now
              have follows := before notificationId read caller _ runs
              exact follows.2 reply (answers_read performed read)
            · simp only [Function.update_of_ne same] at now
              exact before notificationId read caller coroutine now
          · intro notificationId holds
            rcases ways with ⟨same, -⟩ | ⟨-, same, -⟩
            · exact same ▸ holds
            · rw [show after = _ from same]
              rcases holds with read | gone
              · exact effect_read read
                  (quiet notificationId read mover _ runs).1
              · exact .inr (effect_none gone)

/-- Once its stored status is read, a notification is read ever after, until
it is removed, in every run in which it is marked as read only while no
delivery of it is between its claim and its last write. -/
theorem read_stays_read {text : PyException → String}
    {store : NotificationStore} {calls : Caller → NotificationCall}
    {first second : List (Move Caller NotificationChoice NotificationEvent)}
    (settled : notificationBackend.machine.Along MarksSettled
      (start text store calls) (first ++ second))
    (reached : notificationBackend.machine.run (start text store calls)
      first = some state)
    (goesOn : notificationBackend.machine.run state second = some final)
    {notificationId : NotificationId}
    (read : state.shared.status notificationId = some .read) :
    final.shared.status notificationId = some .read ∨
      final.shared.status notificationId = none := by
  obtain ⟨early, late⟩ :=
    notificationBackend.machine.along_append reached settled
  have quiet : Quiet state :=
    notificationBackend.machine.run_invariant MarksSettled Quiet
      (fun _ _ _ quiet settled stepped => (quiet.step settled stepped).1)
      (quiet_start text store calls) early reached
  have kept := notificationBackend.machine.run_invariant MarksSettled
    (fun current => Quiet current ∧ ReadOrGone notificationId current.shared)
    (fun before move after holds settled stepped =>
      have ⟨quietAfter, keeps⟩ := holds.1.step settled stepped
      ⟨quietAfter, keeps notificationId holds.2⟩)
    ⟨quiet, .inl read⟩ late goesOn
  exact kept.2

/-! ### A delivery and a reader -/

/-- A pending notification of a user. -/
def pendingNotification : NotificationDocument where
  notificationId := "n"
  userId := "u"
  subject := "Execution Completed"
  body := "Your execution completed successfully."

def onePending : NotificationStore where
  notifications notificationId :=
    if notificationId = "n" then some pendingNotification else none

/-- No exception says anything. -/
def noText : PyException → String := fun _ => ""

/-- One call delivers the notification, the others mark it as read. -/
def deliverAndRead : Caller → NotificationCall
  | 0 => .deliverNotification pendingNotification
  | _ => .markAsRead "u" "n"

/-- One reader after another. -/
def reads (caller : Caller) :
    List (Move Caller NotificationChoice NotificationEvent) :=
  [.caller caller {}, .caller caller {}, .caller caller {}]

/-- A reader finds the notification while its delivery publishes it, and marks
it when the delivery is through. -/
def readOnceDelivered : List (Move Caller NotificationChoice
    NotificationEvent) :=
  [.caller 0 {}, .caller 0 {}, .caller 1 {}, .caller 0 {}, .caller 0 {},
    .caller 0 {}, .caller 0 {}, .caller 1 {}, .caller 1 {}]

/-- Whether a command marks nothing as read. -/
def marksNothing : Option NotificationCommand → Bool
  | some (.update _ changes) => changes.status != .read
  | some (.updateUnread ..) => false
  | _ => true

/-- Whether the delivery is through. -/
def delivered (state : Notifications) : Bool :=
  match state.running 0 with
  | some (.done _) => true
  | _ => false

/-- Whether a step marks nothing as read, or the delivery is through. -/
def waits (state : Notifications) :
    Move Caller NotificationChoice NotificationEvent → Bool
  | .caller caller _ => marksNothing (state.awaited caller) || delivered state
  | _ => true

/-- Only the delivery writes what a delivery does. -/
def AsksToRead (caller : Caller) (command : NotificationCommand) : Prop :=
  caller ≠ 0 → NoDeliveryWrite command

private theorem marksSettled_of_waits
    {move : Move Caller NotificationChoice NotificationEvent}
    (asks : System.Asking AsksToRead state)
    (waited : waits state move = true) : MarksSettled state move := by
  rintro notificationId ⟨mover, choice, doc, rfl, -, -, marks⟩ caller coroutine
    runs
  have through : delivered state = true := by
    cases awaited : state.awaited mover with
    | none => simp [awaited] at marks
    | some command => cases command <;> simp_all [waits, marksNothing]
  by_cases other : caller = 0
  · subst other
    unfold delivered at through
    rw [runs] at through
    cases coroutine with
    | done result => trivial
    | await command resume => cases through
    | loop body resume => cases through
  · exact settled_of_asks (asks caller coroutine runs)
      fun _ apart => apart other notificationId

theorem read_stays_read_once_delivered :
    ∃ state final,
      notificationBackend.machine.run (start noText onePending deliverAndRead)
        readOnceDelivered = some state ∧
      notificationBackend.machine.run state (reads 2) = some final ∧
      (final.shared.status "n" = some .read ∨
        final.shared.status "n" = none) := by
  have statuses :
      (notificationBackend.machine.run (start noText onePending deliverAndRead)
          readOnceDelivered).bind
        (fun state => (notificationBackend.machine.run state (reads 2)).map
          fun _ => state.shared.status "n") = some (some .read) := by
    decide +kernel
  obtain ⟨state, reached, rest⟩ := Option.bind_eq_some_iff.mp statuses
  obtain ⟨final, goesOn, read⟩ := Option.map_eq_some_iff.mp rest
  have asks : System.Asking AsksToRead
      (start noText onePending deliverAndRead) := by
    intro caller coroutine runs
    cases runs
    cases caller with
    | zero => exact Coroutine.asks_of_forall (fun _ apart => absurd rfl apart) _
    | succ caller => exact (asks_markAsRead "u" "n").mono fun _ apart _ => apart
  have waited : notificationBackend.machine.checkAlong waits
      (start noText onePending deliverAndRead)
      (readOnceDelivered ++ reads 2) = true := by
    decide +kernel
  have settled : notificationBackend.machine.Along MarksSettled
      (start noText onePending deliverAndRead)
      (readOnceDelivered ++ reads 2) :=
    ((notificationBackend.along_asking (fun _ _ asks => asks) asks _).and
      (notificationBackend.machine.along_of_check (fun _ _ => id)
        waited)).mono fun _ _ both => marksSettled_of_waits both.1 both.2
  exact ⟨state, final, reached, goesOn,
    read_stays_read settled reached goesOn read⟩

/-- The delivery claims and publishes; the user reads what was pushed. -/
def readWhilePublished : List (Move Caller NotificationChoice
    NotificationEvent) :=
  [.caller 0 {}, .caller 0 {}, .caller 0 {}] ++ reads 1

/-- The user's mark takes effect between the claim and the last write of the
delivery, and the notification is unread again. -/
theorem read_overwritten :
    ∃ state final,
      notificationBackend.machine.run (start noText onePending deliverAndRead)
        readWhilePublished = some state ∧
      notificationBackend.machine.run state (reads 0) = some final ∧
      state.shared.status "n" = some .read ∧
      final.shared.status "n" = some .delivered := by
  have statuses :
      (notificationBackend.machine.run
          (start noText onePending deliverAndRead) readWhilePublished).bind
        (fun state => (notificationBackend.machine.run state (reads 0)).map
          fun final => (state.shared.status "n", final.shared.status "n")) =
        some (some .read, some .delivered) := by decide +kernel
  obtain ⟨state, reached, rest⟩ := Option.bind_eq_some_iff.mp statuses
  obtain ⟨final, goesOn, same⟩ := Option.map_eq_some_iff.mp rest
  obtain ⟨read, delivered⟩ := Prod.mk.inj same
  exact ⟨state, final, reached, goesOn, read, delivered⟩

end Runs

end ReadNotifications

end Integr8s
