/-
Module: Integr8s.Domain.DeadLetters
Purpose: Messages in a topic, the dead letter queue's rows and when a row is
  retried.
Trusted boundary: human-reviewed spec
Main exports: Message, DLQMessageStatus, DLQMessageDocument,
  DLQMessageChanges, RetryPolicy, DLQMessageDocument.isDue
-/
import Integr8s.Domain.Events
import Integr8s.Domain.Exceptions
import Mathlib.Algebra.Order.Ring.Nat

namespace Integr8s

/-- A message in a topic.  A retry names the one consumer group it is for and
counts the retries before it. -/
structure Message where
  event : DomainEvent
  targetGroup : Option String := none
  retryCount : Nat := 0
  acknowledged : Bool := false
deriving DecidableEq, Repr

/-- Status of a message in the dead letter queue. -/
inductive DLQMessageStatus where
  | pending
  | scheduled
  | retried
  | discarded
deriving DecidableEq, Repr

structure DLQMessageDocument where
  event : DomainEvent
  originalTopic : EventType
  consumerGroup : String
  error : PyException
  retryCount : Nat
  failedAt : Nat
  status : DLQMessageStatus := .pending
  producerId : String
  lastUpdated : Option Nat := none
  nextRetryAt : Option Nat := none
  retriedAt : Option Nat := none
  discardedAt : Option Nat := none
  discardReason : Option String := none
deriving DecidableEq, Repr

/-- Fields a status change sets on a row; a missing one keeps the stored
value. -/
structure DLQMessageChanges where
  status : DLQMessageStatus
  nextRetryAt : Option Nat := none
  retriedAt : Option Nat := none
  discardedAt : Option Nat := none
  retryCount : Option Nat := none
  discardReason : Option String := none
deriving DecidableEq, Repr

namespace DLQMessageDocument

/-- Whether this is the row of an event in a consumer group. -/
def isFor (doc : DLQMessageDocument) (eventId : EventId)
    (consumerGroup : String) : Bool :=
  doc.event.base.eventId == eventId && doc.consumerGroup == consumerGroup

theorem isFor_iff {doc : DLQMessageDocument} {eventId : EventId}
    {consumerGroup : String} :
    doc.isFor eventId consumerGroup = true ↔
      doc.event.base.eventId = eventId ∧ doc.consumerGroup = consumerGroup := by
  simp [isFor]

/-- A scheduled row whose retry time has arrived. -/
def isDue (doc : DLQMessageDocument) (now : Nat) : Bool :=
  doc.status == .scheduled &&
    match doc.nextRetryAt with
    | some nextRetryAt => decide (nextRetryAt ≤ now)
    | none => false

/-- The row after a status change. -/
def change (doc : DLQMessageDocument) (changes : DLQMessageChanges)
    (now : Nat) : DLQMessageDocument :=
  { doc with
    status := changes.status
    nextRetryAt := changes.nextRetryAt <|> doc.nextRetryAt
    retriedAt := changes.retriedAt <|> doc.retriedAt
    discardedAt := changes.discardedAt <|> doc.discardedAt
    retryCount := changes.retryCount.getD doc.retryCount
    discardReason := changes.discardReason <|> doc.discardReason
    lastUpdated := some now }

section Changes

variable (doc : DLQMessageDocument) (changes : DLQMessageChanges) (now : Nat)

@[simp] theorem change_event : (doc.change changes now).event = doc.event :=
  rfl

@[simp] theorem change_consumerGroup :
    (doc.change changes now).consumerGroup = doc.consumerGroup :=
  rfl

@[simp] theorem change_status :
    (doc.change changes now).status = changes.status :=
  rfl

@[simp] theorem isFor_change (eventId : EventId) (consumerGroup : String) :
    (doc.change changes now).isFor eventId consumerGroup =
      doc.isFor eventId consumerGroup :=
  rfl

end Changes

end DLQMessageDocument

/-- When a failed event is retried: exponential backoff with jitter, up to
`maxRetries` attempts. -/
structure RetryPolicy where
  maxRetries : Nat := 5
  baseDelaySeconds : Nat := 30
  maxDelaySeconds : Nat := 300
  retryMultiplier : Nat := 2
  jitterDivisor : Nat := 10
deriving DecidableEq, Repr

/-- The time of the next attempt after some failed ones, moved by a tenth of
the delay at most. -/
def RetryPolicy.getNextRetryTime (policy : RetryPolicy)
    (retryCount now random : Nat) : Nat :=
  let delay := min
    (seconds policy.baseDelaySeconds * policy.retryMultiplier ^ retryCount)
    (seconds policy.maxDelaySeconds)
  let jitter := delay / policy.jitterDivisor
  now + (delay - jitter) + random % (2 * jitter + 1)

/-- The one policy of every row. -/
def retryPolicy : RetryPolicy := {}

/-- The lifecycle events that the queue publishes about its rows. -/
inductive DLQEvent where
  | received (eventId : EventId) (retryCount : Nat)
  | retried (eventId : EventId) (retryCount : Nat)
  | discarded (eventId : EventId) (reason : String) (retryCount : Nat)
deriving DecidableEq, Repr

end Integr8s
