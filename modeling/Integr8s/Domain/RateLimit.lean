/-
Module: Integr8s.Domain.RateLimit
Purpose: Rate limit rules, the per-user overrides that the admin API admits,
  the default configuration, and what a check or a usage report answers.
Trusted boundary: human-reviewed spec
Main exports: RateLimitRule, UserRateLimit, RateLimitConfig,
  RateLimitStatus, EndpointUsageStats, UserRateLimitSummary,
  RateLimitRule.Admitted, UserRateLimit.Admitted
-/
import Integr8s.Domain.Execution
import Integr8s.Lib.PythonNumber
import Mathlib.Data.List.AList

namespace Integr8s

inductive RateLimitAlgorithm where
  | slidingWindow
  | tokenBucket
  | fixedWindow
  | leakyBucket
deriving DecidableEq, Repr

structure RateLimitRule where
  endpointPattern : String
  requests : ℤ
  windowSeconds : ℤ
  burstMultiplier : PyNumber := .finite (3 / 2)
  algorithm : RateLimitAlgorithm := .slidingWindow
  priority : ℤ := 0
  enabled : Bool := true
deriving DecidableEq, Repr

/-- A user's override. -/
structure UserRateLimit where
  userId : UserId
  rules : List RateLimitRule := []
  globalMultiplier : PyNumber := .finite 1
  bypassRateLimit : Bool := false
deriving DecidableEq, Repr

structure RateLimitConfig where
  defaultRules : List RateLimitRule := []
  userOverrides : AList fun _ : UserId => UserRateLimit := ∅
  globalEnabled : Bool := true
deriving DecidableEq

/-- The answer of a check.  Times are seconds since the epoch. -/
structure RateLimitStatus where
  allowed : Bool
  limit : ℤ
  remaining : ℤ
  resetAt : ℚ
  retryAfter : ℤ := 0
  algorithm : RateLimitAlgorithm := .slidingWindow
deriving DecidableEq, Repr

/-- Usage statistics for a single endpoint. -/
structure EndpointUsageStats where
  algorithm : RateLimitAlgorithm
  remaining : ℤ
deriving DecidableEq, Repr

/-- What the admin API tells of a user's limits. -/
structure UserRateLimitSummary where
  userId : UserId
  hasCustomLimits : Bool
  bypassRateLimit : Bool
  globalMultiplier : PyNumber
  rulesCount : Nat
deriving DecidableEq, Repr

/-- The configuration that counts while none is stored. -/
def RateLimitConfig.getDefaultConfig : RateLimitConfig where
  defaultRules :=
    [{ endpointPattern := "^/api/v1/execute"
       requests := 10
       windowSeconds := 60
       priority := 10 },
     { endpointPattern := "^/api/v1/admin/.*"
       requests := 100
       windowSeconds := 60
       burstMultiplier := .finite 2
       priority := 5 },
     { endpointPattern := "^/api/v1/events/.*"
       requests := 5
       windowSeconds := 60
       burstMultiplier := .finite 1
       priority := 3 },
     { endpointPattern := "^/api/v1/ws"
       requests := 5
       windowSeconds := 60
       burstMultiplier := .finite 1
       priority := 3 },
     { endpointPattern := "^/api/v1/auth/.*"
       requests := 20
       windowSeconds := 60
       priority := 7 },
     { endpointPattern := "^/api/v1/.*"
       requests := 60
       windowSeconds := 60
       priority := 1 }]

/-! ### What the admin API admits -/

/-- The bounds of `RateLimitRuleRequest`. -/
structure RateLimitRule.Admitted (rule : RateLimitRule) : Prop where
  pattern : rule.endpointPattern ≠ ""
  requests : 1 ≤ rule.requests
  window : 1 ≤ rule.windowSeconds
  burst : rule.burstMultiplier.AtLeast 1

/-- The bounds of `RateLimitUpdateRequest`. -/
structure UserRateLimit.Admitted (limit : UserRateLimit) : Prop where
  multiplier : limit.globalMultiplier.Positive
  rules : ∀ rule ∈ limit.rules, rule.Admitted

instance (bound : ℚ) (number : PyNumber) :
    Decidable (number.AtLeast bound) :=
  match number with
  | .finite value => inferInstanceAs (Decidable (bound ≤ value))
  | .infinity => .isTrue trivial

instance (number : PyNumber) : Decidable number.Positive :=
  match number with
  | .finite value => inferInstanceAs (Decidable (0 < value))
  | .infinity => .isTrue trivial

instance (rule : RateLimitRule) : Decidable rule.Admitted :=
  decidable_of_iff (rule.endpointPattern ≠ "" ∧ 1 ≤ rule.requests ∧
      1 ≤ rule.windowSeconds ∧ rule.burstMultiplier.AtLeast 1)
    ⟨fun ⟨pattern, requests, window, burst⟩ =>
        ⟨pattern, requests, window, burst⟩,
      fun admitted => ⟨admitted.pattern, admitted.requests, admitted.window,
        admitted.burst⟩⟩

instance (limit : UserRateLimit) : Decidable limit.Admitted :=
  decidable_of_iff (limit.globalMultiplier.Positive ∧
      ∀ rule ∈ limit.rules, rule.Admitted)
    ⟨fun ⟨multiplier, rules⟩ => ⟨multiplier, rules⟩,
      fun admitted => ⟨admitted.multiplier, admitted.rules⟩⟩

/-- The default rules are within the bounds of the admin API. -/
theorem RateLimitConfig.defaultRules_admitted :
    ∀ rule ∈ RateLimitConfig.getDefaultConfig.defaultRules,
      rule.Admitted := by
  decide +kernel

/-- Whether an override is read back as it was stored.  JSON has no infinity:
an infinite float is stored as null, which no float validates. -/
def UserRateLimit.readsBack (limit : UserRateLimit) : Bool :=
  limit.globalMultiplier.isFinite &&
    limit.rules.all fun rule => rule.burstMultiplier.isFinite

def RateLimitConfig.readsBack (config : RateLimitConfig) : Bool :=
  (config.defaultRules.all fun rule => rule.burstMultiplier.isFinite) &&
    config.userOverrides.entries.all fun entry => entry.2.readsBack

end Integr8s
