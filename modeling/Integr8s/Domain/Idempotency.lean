/-
Module: Integr8s.Domain.Idempotency
Purpose: The record under an idempotency key, and what a check of the key
  tells its caller.
Trusted boundary: human-reviewed spec
Main exports: IdempotencyStatus, IdempotencyRecord, IdempotencyResult,
  IdempotencyConfig
-/
import Integr8s.Domain.Events

namespace Integr8s

inductive IdempotencyStatus where
  | processing
  | completed
  | failed
deriving DecidableEq, Repr

structure IdempotencyRecord where
  key : String
  status : IdempotencyStatus
  eventType : EventType
  eventId : EventId
  createdAt : Nat
  ttlSeconds : Nat
  completedAt : Option Nat := none
  processingDurationMs : Option Nat := none
  error : Option String := none
  resultJson : Option String := none
deriving DecidableEq, Repr

structure IdempotencyResult where
  isDuplicate : Bool
  status : IdempotencyStatus
  createdAt : Nat
  completedAt : Option Nat := none
  processingDurationMs : Option Nat := none
  error : Option String := none
  hasCachedResult : Bool := false
  key : String
deriving DecidableEq, Repr

structure IdempotencyConfig where
  keyPrefix : String := "idempotency"
  defaultTtlSeconds : Nat := 3600
  processingTimeoutSeconds : Nat := 300
  enableResultCaching : Bool := true
  maxResultSizeBytes : Nat := 1048576
deriving DecidableEq, Repr

end Integr8s
