/-
Module: Integr8s.Services.ThrottleCache
Purpose: The cache with which the notification service throttles what it sends
  to a user at a severity.
Trusted boundary: human-reviewed spec
Main exports: ThrottleCache, ThrottleCache.checkThrottle, ThrottleCall,
  ThrottleCache.answers
-/
import Integr8s.Domain.Notifications
import Mathlib.Logic.Function.Basic

namespace Integr8s

/-- The text of a severity. -/
def NotificationSeverity.value : NotificationSeverity → String
  | low => "low"
  | medium => "medium"
  | high => "high"
  | urgent => "urgent"

/-- A duration in hours, in microseconds. -/
def hours (n : ℤ) : ℤ := n * 3600000000

/-- When notifications were let through, under the key of a user and a
severity.  A key that the dict doesn't have has no entries. -/
structure ThrottleCache where
  entries : String → List ℤ := fun _ => []

namespace ThrottleCache

def key (userId : UserId) (severity : NotificationSeverity) : String :=
  userId ++ ":" ++ severity.value

/-- Check if a notification should be throttled; one that shouldn't is
entered. -/
def checkThrottle (cache : ThrottleCache) (userId : UserId)
    (severity : NotificationSeverity) (windowHours maxPerHour now : ℤ) :
    Bool × ThrottleCache :=
  let key := key userId severity
  let windowStart := now - hours windowHours
  let entries := (cache.entries key).filter fun ts => decide (windowStart < ts)
  if maxPerHour ≤ entries.length then
    (true, { entries := Function.update cache.entries key entries })
  else
    (false,
      { entries := Function.update cache.entries key (entries ++ [now]) })

end ThrottleCache

/-- A call of the check, at a time. -/
structure ThrottleCall where
  userId : UserId
  severity : NotificationSeverity
  now : ℤ
deriving DecidableEq, Repr

/-- Calls one after the other, each with its answer: whether it was
throttled. -/
def ThrottleCache.answers (windowHours maxPerHour : ℤ) :
    ThrottleCache → List ThrottleCall → List (ThrottleCall × Bool)
  | _, [] => []
  | cache, call :: calls =>
      let (throttled, cache) := cache.checkThrottle call.userId call.severity
        windowHours maxPerHour call.now
      (call, throttled) :: answers windowHours maxPerHour cache calls

end Integr8s
