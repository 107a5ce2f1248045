/-
Module: Integr8s.Domain.Notifications
Purpose: In-app notifications, what a delivery step sets on one, and the
  payload that is pushed to the user.
Trusted boundary: human-reviewed spec
Main exports: NotificationStatus, NotificationDocument, NotificationChanges,
  NotificationDocument.change, DomainNotificationSSEPayload
-/
import Integr8s.Domain.Execution

namespace Integr8s

abbrev NotificationId := String

/-- Notification severity levels. -/
inductive NotificationSeverity where
  | low
  | medium
  | high
  | urgent
deriving DecidableEq, Repr

/-- Notification delivery status. -/
inductive NotificationStatus where
  | pending
  | queued
  | sending
  | delivered
  | failed
  | read
  | clicked
deriving DecidableEq, Repr

/-- An in-app notification: stored, then pushed to the user's open
notification streams. -/
structure NotificationDocument where
  notificationId : NotificationId
  userId : UserId
  severity : NotificationSeverity := .medium
  status : NotificationStatus := .pending
  subject : String
  body : String
  actionUrl : String := ""
  tags : List String := []
  createdAt : Nat := 0
  sentAt : Option Nat := none
  deliveredAt : Option Nat := none
  readAt : Option Nat := none
  failedAt : Option Nat := none
  retryCount : Nat := 0
  maxRetries : Nat := 3
  errorMessage : Option String := none
deriving DecidableEq, Repr

/-- Fields a step sets on a notification; a missing one keeps the stored
value. -/
structure NotificationChanges where
  status : NotificationStatus
  deliveredAt : Option Nat := none
  readAt : Option Nat := none
  failedAt : Option Nat := none
  retryCount : Option Nat := none
  errorMessage : Option String := none
deriving DecidableEq, Repr

/-- The notification after a step. -/
def NotificationDocument.change (doc : NotificationDocument)
    (changes : NotificationChanges) : NotificationDocument :=
  { doc with
    status := changes.status
    deliveredAt := changes.deliveredAt <|> doc.deliveredAt
    readAt := changes.readAt <|> doc.readAt
    failedAt := changes.failedAt <|> doc.failedAt
    retryCount := changes.retryCount.getD doc.retryCount
    errorMessage := changes.errorMessage <|> doc.errorMessage }

/-- The notification payload for the user's streams. -/
structure DomainNotificationSSEPayload where
  notificationId : NotificationId
  status : NotificationStatus
  subject : String
  body : String
  actionUrl : String
  createdAt : Nat
  severity : NotificationSeverity
  tags : List String := []
  readAt : Option Nat := none
deriving DecidableEq, Repr

end Integr8s
