/-
Module: Integr8s.Services.Notifications
Purpose: The notification service: deliver a notification to the user's
  streams, mark notifications as read, and delete one.
Trusted boundary: human-reviewed spec
Main exports: NotificationService.deliverNotification,
  NotificationService.markAsRead, NotificationService.markAllAsRead,
  NotificationService.deleteNotification, NotificationCall
-/
import Integr8s.Infrastructure.NotificationStore

namespace Integr8s

namespace NotificationRepository

def updateNotification (notificationId : NotificationId) (userId : UserId)
    (changes : NotificationChanges) : NotificationProgram Bool := do
  match ← notify (.findOne notificationId userId) with
  | none => pure false
  | some _ => do
      notify (.update notificationId changes)
      pure true

def markAsRead (notificationId : NotificationId) (userId : UserId) :
    NotificationProgram Bool := do
  match ← notify (.findOne notificationId userId) with
  | none => pure false
  | some _ => do
      let now ← notify .now
      notify (.update notificationId
        { status := .read, readAt := some now })
      pure true

def markAllAsRead (userId : UserId) : NotificationProgram Nat := do
  let now ← notify .now
  notify (.updateUnread userId now)

def deleteNotification (notificationId : NotificationId) (userId : UserId) :
    NotificationProgram Bool := do
  match ← notify (.findOne notificationId userId) with
  | none => pure false
  | some _ => do
      notify (.delete notificationId)
      pure true

def tryClaimPending (notificationId : NotificationId) :
    NotificationProgram Bool := do
  let now ← notify .now
  notify (.claimPending notificationId now)

end NotificationRepository

namespace NotificationService

open NotificationRepository

/-- Publish an in-app notification for realtime delivery. -/
def publishNotificationSse (notification : NotificationDocument) :
    NotificationProgram Unit :=
  notify (.publish notification.userId
    { notificationId := notification.notificationId
      severity := notification.severity
      status := notification.status
      tags := notification.tags
      subject := notification.subject
      body := notification.body
      actionUrl := notification.actionUrl
      createdAt := notification.createdAt })

/-- `AsyncRetrying` that stops after a number of attempts and raises the last
error. -/
def retrying (attempt : NotificationProgram Unit) :
    Nat → NotificationProgram Unit
  | 0 | 1 => attempt
  | attempts + 2 => attempt.attempt fun _ => do
      notify .sleep
      retrying attempt (attempts + 1)

/-- Publish a claimed notification and store that it is delivered. -/
def deliverClaimed (notification : NotificationDocument) :
    NotificationProgram Bool := do
  retrying (publishNotificationSse notification) notification.maxRetries
  let now ← notify .now
  let _ ← updateNotification notification.notificationId notification.userId
    { status := .delivered, deliveredAt := some now }
  pure true

/-- Store that a delivery failed. -/
def failDelivery (text : PyException → String)
    (notification : NotificationDocument) (lastError : PyException) :
    NotificationProgram Bool := do
  let now ← notify .now
  let _ ← updateNotification notification.notificationId notification.userId
    { status := .failed
      failedAt := some now
      errorMessage := some ("Delivery failed: " ++ text lastError)
      retryCount := some notification.maxRetries }
  pure false

/-- Push the notification to the user's open notification streams, retrying a
failed publish.  `text` is what an exception says of itself. -/
def deliverNotification (text : PyException → String)
    (notification : NotificationDocument) : NotificationProgram Bool := do
  let claimed ← tryClaimPending notification.notificationId
  if !claimed then pure false
  else
    (deliverClaimed notification).attempt (failDelivery text notification)

def markAsRead (userId : UserId) (notificationId : NotificationId) :
    NotificationProgram Unit := do
  let success ← NotificationRepository.markAsRead notificationId userId
  if !success then
    Coroutine.raise (.notificationNotFoundError notificationId)
  else pure ()

def markAllAsRead (userId : UserId) : NotificationProgram Nat :=
  NotificationRepository.markAllAsRead userId

def deleteNotification (userId : UserId) (notificationId : NotificationId) :
    NotificationProgram Unit := do
  let deleted ← NotificationRepository.deleteNotification notificationId userId
  if !deleted then
    Coroutine.raise (.notificationNotFoundError notificationId)
  else pure ()

end NotificationService

/-- One call of the notification service. -/
inductive NotificationCall where
  | deliverNotification (notification : NotificationDocument)
  | markAsRead (userId : UserId) (notificationId : NotificationId)
  | markAllAsRead (userId : UserId)
  | deleteNotification (userId : UserId) (notificationId : NotificationId)

/-- Run a call for its effect. -/
def NotificationCall.run (text : PyException → String) :
    NotificationCall → NotificationProgram Unit
  | deliverNotification notification => do
      let _ ← NotificationService.deliverNotification text notification
      pure ()
  | markAsRead userId notificationId =>
      NotificationService.markAsRead userId notificationId
  | markAllAsRead userId => do
      let _ ← NotificationService.markAllAsRead userId
      pure ()
  | deleteNotification userId notificationId =>
      NotificationService.deleteNotification userId notificationId

/-- Any number of calls over a store. -/
def NotificationCall.start (text : PyException → String)
    (store : NotificationStore) (calls : Caller → NotificationCall) :
    Notifications where
  shared := store
  running caller := some ((calls caller).run text)

end Integr8s
