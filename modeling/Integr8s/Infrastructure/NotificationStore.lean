/-
Module: Integr8s.Infrastructure.NotificationStore
Purpose: The stored notifications, the commands that the notification service
  awaits, and how a command may go.
Trusted boundary: human-reviewed spec
Main exports: NotificationStore, NotificationCommand,
  NotificationStore.effect, notificationBackend, NotificationProgram
-/
import Integr8s.Domain.Notifications
import Integr8s.Infrastructure.Outcomes
import Integr8s.Lib.Collection

namespace Integr8s

/-- The notifications in the database.  The clock counts microseconds. -/
structure NotificationStore where
  clock : Nat := 0
  notifications : Collection NotificationId NotificationDocument :=
    fun _ => none

/-- What the notification service awaits. -/
inductive NotificationCommand where
  | now
  | claimPending (notificationId : NotificationId) (sentAt : Nat)
  | publish (userId : UserId) (payload : DomainNotificationSSEPayload)
  | sleep
  | findOne (notificationId : NotificationId) (userId : UserId)
  | update (notificationId : NotificationId) (changes : NotificationChanges)
  | updateUnread (userId : UserId) (readAt : Nat)
  | delete (notificationId : NotificationId)

abbrev NotificationReply : NotificationCommand → Type
  | .now => Nat
  | .claimPending .. => Bool
  | .publish .. => Unit
  | .sleep => Unit
  | .findOne .. => Option NotificationDocument
  | .update .. => Unit
  | .updateUnread .. => Nat
  | .delete _ => Unit

/-- Whether a command that goes wrong may raise this: the clock and a sleep
do not fail. -/
def NotificationCommand.mayRaise : NotificationCommand → PyException → Bool
  | .now, _ | .sleep, _ => false
  | _, _ => true

namespace NotificationStore

/-- The stored status of a notification. -/
def status (store : NotificationStore) (notificationId : NotificationId) :
    Option NotificationStatus :=
  (store.notifications notificationId).map NotificationDocument.status

/-- Change the notifications that pass a filter. -/
def updateMany (store : NotificationStore)
    (filter : NotificationDocument → Bool)
    (change : NotificationDocument → NotificationDocument) :
    NotificationStore :=
  { store with
    notifications := fun notificationId =>
      (store.notifications notificationId).map fun doc =>
        if filter doc then change doc else doc }

/-- A notification of this user that is neither read nor clicked. -/
def unreadOf (userId : UserId) (doc : NotificationDocument) : Bool :=
  doc.userId == userId && doc.status != .read && doc.status != .clicked

/-- A command that goes through.  How many notifications `update_many` says it
modified is up to the environment: no caller reads it. -/
def effect (store : NotificationStore) (modified : Nat) :
    (command : NotificationCommand) →
      NotificationReply command × NotificationStore
  | .now => (store.clock, store)
  | .claimPending notificationId sentAt =>
      let (count, notifications) := store.notifications.updateOne
        notificationId (fun doc => doc.status == .pending)
        fun doc => { doc with status := .sending, sentAt := some sentAt }
      (decide (0 < count), { store with notifications := notifications })
  | .publish .. => ((), store)
  | .sleep => ((), store)
  | .findOne notificationId userId =>
      (store.notifications.findOne notificationId
        fun doc => doc.userId == userId, store)
  | .update notificationId changes =>
      ((), { store with
        notifications := (store.notifications.updateOne notificationId
          (fun _ => true) fun doc => doc.change changes).2 })
  | .updateUnread userId readAt =>
      (modified, store.updateMany (unreadOf userId) fun doc =>
        { doc with status := .read, readAt := some readAt })
  | .delete notificationId =>
      ((), { store with
        notifications := store.notifications.delete notificationId })

end NotificationStore

/-- What the environment decides when a command runs. -/
structure NotificationChoice where
  outcome : Outcome := .succeeds
  modified : Nat := 0

/-- Time passes, or a notification is removed when its time in the database
is over. -/
inductive NotificationEvent where
  | tick (duration : Nat)
  | expire (notificationId : NotificationId)

/-- The calls of the notification service over one store.  A killed call
leaves the store as it is. -/
def notificationBackend : System Caller NotificationStore NotificationCommand
    NotificationReply PyException NotificationChoice NotificationEvent where
  perform _ store command choice :=
    let (answer, next) := store.effect choice.modified command
    choice.outcome.perform command.mayRaise store (.ok answer, next)
  environment
    | store, .tick duration =>
        some { store with clock := store.clock + duration }
    | store, .expire notificationId =>
        some { store with
          notifications := store.notifications.delete notificationId }
  kill store _ := some store

/-- A coroutine of the notification service. -/
abbrev NotificationProgram (α : Type) : Type 1 :=
  Coroutine NotificationCommand NotificationReply PyException α

/-- Await a command of the notification service. -/
abbrev notify (command : NotificationCommand) :
    NotificationProgram (NotificationReply command) :=
  Coroutine.call command

/-- The state of a run: the store and the calls that still live. -/
abbrev Notifications := Callers Caller NotificationStore NotificationCommand
  NotificationReply PyException Unit

end Integr8s
