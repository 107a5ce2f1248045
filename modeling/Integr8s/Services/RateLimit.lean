/-
Module: Integr8s.Services.RateLimit
Purpose: The rate limit service: the configuration it loads, the rule that
  applies to a request, the two algorithms, the check that lets requests
  through when the store fails, and the usage report.
Trusted boundary: human-reviewed spec
Main exports: RateLimitService.getConfig,
  RateLimitService.getOverrideSummaries, RateLimitService.firstMatching,
  RateLimitService.checkSlidingWindow, RateLimitService.checkTokenBucket,
  RateLimitService.applyRule, RateLimitService.checkRateLimit,
  RateLimitService.getUsageStats
-/
import Integr8s.Domain.Exceptions
import Integr8s.Infrastructure.RateLimitStore
import Mathlib.Data.List.Sort

namespace Integr8s

/-- What a call answers or raises, and the store after it. -/
abbrev Answered (α : Type) : Type := Except PyException α × RateLimitStore

namespace RateLimitService

/-- `ZeroDivisionError`. -/
def zeroDivisionError : PyException := .otherError "ZeroDivisionError"

/-- `re.PatternError`. -/
def patternError : PyException := .otherError "PatternError"

/-- The first second that a datetime is too small for: the year 10000. -/
def datetimeEnd : ℚ := 253402300800

/-- The first second of the year 1. -/
def datetimeStart : ℚ := -62135596800

/-- `int(number)` of a float. -/
def toInt : Rounded → Except PyException ℤ
  | .finite value => .ok (PyNumber.trunc value)
  | .above | .below => .error .overflowError

/-- `datetime.fromtimestamp`. -/
def fromTimestamp : Rounded → Except PyException ℚ
  | .finite timestamp =>
      if datetimeStart ≤ timestamp ∧ timestamp < datetimeEnd then
        .ok timestamp
      else .error .valueError
  | .above | .below => .error .overflowError

section Floats

variable (arithmetic : Arithmetic)

/-- `float(number)` of an int. -/
def toFloat (number : ℤ) : Except PyException ℚ :=
  match arithmetic.round number with
  | .finite value => .ok value
  | .above | .below => .error .overflowError

/-- The time some seconds from now, as a datetime. -/
def timeAfter (now : ℚ) (seconds : ℤ) : Except PyException ℚ := do
  let seconds ← toFloat arithmetic seconds
  fromTimestamp (arithmetic.round (now + seconds))

end Floats

/-- `int(number * factor)` of an int and a float. -/
def truncProduct (number : ℤ) : PyNumber → Except PyException ℤ
  | .finite factor => do
      let number ← toFloat .doubles number
      toInt (Arithmetic.doubles.round (number * factor))
  | .infinity =>
      if number = 0 then .error .valueError else .error .overflowError

/-- The status of a request that no rule limits. -/
def unlimited (store : RateLimitStore) : RateLimitStatus where
  allowed := true
  limit := 999999
  remaining := 999999
  resetAt := store.clock + 3600

/-! ### The configuration -/

section Keys

variable (keyPrefix : String)

/-- The key of a user's log of requests to an endpoint. -/
def windowKey (userId : UserId) (endpoint : String) : String :=
  keyPrefix ++ "sw:" ++ userId ++ ":" ++ endpoint

/-- The key of a user's bucket for an endpoint. -/
def bucketKey (userId : UserId) (endpoint : String) : String :=
  keyPrefix ++ "tb:" ++ userId ++ ":" ++ endpoint

end Keys

/-- Highest priority first; rules of one priority keep their order. -/
def sortRules (rules : List RateLimitRule) : List RateLimitRule :=
  rules.insertionSort fun first second => second.priority ≤ first.priority

/-- Sort the rules of a configuration. -/
def prepareConfig (config : RateLimitConfig) : RateLimitConfig :=
  { config with
    defaultRules := sortRules config.defaultRules
    userOverrides := AList.mk
      (config.userOverrides.entries.map fun entry =>
        ⟨entry.1, { entry.2 with rules := sortRules entry.2.rules }⟩)
      (by
        have keys : (config.userOverrides.entries.map fun entry =>
            (⟨entry.1, { entry.2 with rules := sortRules entry.2.rules }⟩ :
              Σ _ : UserId, UserRateLimit)).keys =
            config.userOverrides.entries.keys := by
          simp [List.keys]
        have nodup := config.userOverrides.nodupKeys
        rwa [List.NodupKeys, ← keys] at nodup) }

/-- The stored configuration with the stored overrides. -/
def getConfig (store : RateLimitStore) : Except PyException RateLimitConfig :=
  let config := store.config.getD .getDefaultConfig
  if config.readsBack &&
      store.userOverrides.entries.all fun entry => entry.2.readsBack then
    .ok (prepareConfig
      { config with
        userOverrides := store.userOverrides ∪ config.userOverrides })
  else .error .validationError

/-- The user's override, or the neutral defaults when there is none. -/
def userLimit (config : RateLimitConfig) (userId : UserId) : UserRateLimit :=
  (config.userOverrides.lookup userId).getD { userId := userId }

/-- What there is to tell of a user's limits. -/
def summary (config : RateLimitConfig) (userId : UserId) :
    UserRateLimitSummary :=
  let limit := userLimit config userId
  { userId := userId
    hasCustomLimits := limit.bypassRateLimit ||
      !limit.globalMultiplier.isClose 1 (1 / 10 ^ 9) (1 / 10 ^ 12) ||
      decide (0 < limit.rules.length)
    bypassRateLimit := limit.bypassRateLimit
    globalMultiplier := limit.globalMultiplier
    rulesCount := limit.rules.length }

/-- Summaries of the users with an override; every other user has the
defaults. -/
def getOverrideSummaries (store : RateLimitStore) :
    Except PyException (List UserRateLimitSummary) := do
  let config ← getConfig store
  pure (config.userOverrides.keys.map (summary config))

section Matching

-- Compile a pattern to what it matches at the start of a text, or `none`
-- where it is no pattern.
variable (re : String → Option (String → Bool))

/-- The first of some rules that is enabled and matches an endpoint.  A
pattern is compiled when the rule is reached. -/
def firstOf (endpoint : String) :
    List RateLimitRule → Except PyException (Option RateLimitRule)
  | [] => .ok none
  | rule :: rules =>
      if rule.enabled then
        match re rule.endpointPattern with
        | none => .error patternError
        | some isMatch =>
            if isMatch endpoint then .ok (some rule)
            else firstOf endpoint rules
      else firstOf endpoint rules

/-- The rule that applies: the user's own first, each list in priority
order. -/
def firstMatching (endpoint : String) (userConfig : UserRateLimit)
    (config : RateLimitConfig) : Except PyException (Option RateLimitRule) :=
  firstOf re endpoint (userConfig.rules ++ config.defaultRules)

end Matching

/-! ### The two algorithms -/

section Checks

variable (arithmetic : Arithmetic) (keyPrefix : String)

/-- How long until the oldest request of a log leaves the window. -/
def windowWait (log : RequestLog) (windowSeconds : ℤ) (window now : ℚ) :
    Except PyException ℤ :=
  match log.least? with
  | some oldest => do
      let left ← toInt ((arithmetic.round (oldest + window)).andThen
        fun leaves => arithmetic.round (leaves - now))
      pure (left + 1)
  | none => pure windowSeconds

/-- One entry for each request, scored by its time.  A rejected request stays
recorded. -/
def checkSlidingWindow (suffix : String) (userId : UserId)
    (endpoint : String) (limit windowSeconds : ℤ) (store : RateLimitStore) :
    Answered RateLimitStatus :=
  let key := windowKey keyPrefix userId endpoint
  let store := store.sadd userId key
  let now := store.clock
  match toFloat arithmetic windowSeconds with
  | .error error => (.error error, store)
  | .ok window =>
      let windowStart := (arithmetic.round (now - window)).clip
      let (counted, store) := store.runWindow key windowStart ⟨now, suffix⟩
        (windowSeconds * 2)
      match counted with
      | none => (.error .redisError, store)
      | some count =>
          if limit < count then
            (do
              let retryAfter ← windowWait arithmetic (store.requests key)
                windowSeconds window now
              let resetAt ← timeAfter arithmetic now retryAfter
              pure
                { allowed := false
                  limit := limit
                  remaining := 0
                  resetAt := resetAt
                  retryAfter := retryAfter
                  algorithm := .slidingWindow }, store)
          else
            (do
              let resetAt ← timeAfter arithmetic now windowSeconds
              pure
                { allowed := true
                  limit := limit
                  remaining := max 0 (limit - count)
                  resetAt := resetAt
                  algorithm := .slidingWindow }, store)

/-- CPython refuses to write an int with more digits. -/
def writesInt (number : ℤ) : Bool :=
  decide (number.natAbs < 10 ^ PyText.maxStrDigits)

/-- How long until a bucket has a token. -/
def tokenWait (tokens refillRate : ℚ) : Except PyException ℤ :=
  if refillRate = 0 then .error zeroDivisionError
  else do
    let left ← toInt ((arithmetic.round (1 - tokens)).andThen
      fun missing => arithmetic.round (missing / refillRate))
    pure (left + 1)

/-- A bucket that is refilled on access. -/
def checkTokenBucket (userId : UserId) (endpoint : String)
    (limit windowSeconds : ℤ) (burstMultiplier : PyNumber)
    (store : RateLimitStore) : Answered RateLimitStatus :=
  let key := bucketKey keyPrefix userId endpoint
  match truncProduct limit burstMultiplier with
  | .error error => (.error error, store)
  | .ok maxTokens =>
      if windowSeconds = 0 then (.error zeroDivisionError, store)
      else
        match arithmetic.round (limit / windowSeconds) with
        | .above | .below => (.error .overflowError, store)
        | .finite refillRate =>
            let now := store.clock
            let store := store.sadd userId key
            if writesInt (windowSeconds * 2) = false then
              (.error .valueError, store)
            else
              let (answer, store) := store.evalTokenBucket arithmetic key
                maxTokens refillRate now (windowSeconds * 2)
              match answer with
              | none => (.error .redisError, store)
              | some (true, tokens) =>
                  (do
                    let resetAt ← timeAfter arithmetic now windowSeconds
                    pure
                      { allowed := true
                        limit := limit
                        remaining := PyNumber.trunc tokens
                        resetAt := resetAt
                        algorithm := .tokenBucket }, store)
              | some (false, tokens) =>
                  (do
                    let retryAfter ← tokenWait arithmetic tokens refillRate
                    let resetAt ← timeAfter arithmetic now retryAfter
                    pure
                      { allowed := false
                        limit := limit
                        remaining := 0
                        resetAt := resetAt
                        retryAfter := retryAfter
                        algorithm := .tokenBucket }, store)

/-- Check a request under a rule.  Every algorithm but the token bucket is the
sliding window. -/
def applyRule (suffix : String) (userId : UserId) (endpoint : String)
    (rule : RateLimitRule) (multiplier : PyNumber) (store : RateLimitStore) :
    Answered RateLimitStatus :=
  match truncProduct rule.requests multiplier with
  | .error error => (.error error, store)
  | .ok effectiveLimit =>
      match rule.algorithm with
      | .tokenBucket =>
          checkTokenBucket arithmetic keyPrefix userId endpoint effectiveLimit
            rule.windowSeconds rule.burstMultiplier store
      | _ =>
          checkSlidingWindow arithmetic keyPrefix suffix userId endpoint
            effectiveLimit rule.windowSeconds store

variable (re : String → Option (String → Bool))

def check (suffix : String) (userId : UserId) (endpoint : String)
    (config : RateLimitConfig) (store : RateLimitStore) :
    Answered RateLimitStatus :=
  if config.globalEnabled then
    let userConfig := userLimit config userId
    if userConfig.bypassRateLimit then (.ok (unlimited store), store)
    else
      match firstMatching re endpoint userConfig config with
      | .error error => (.error error, store)
      | .ok none => (.ok (unlimited store), store)
      | .ok (some rule) =>
          applyRule arithmetic keyPrefix suffix userId endpoint rule
            userConfig.globalMultiplier store
  else (.ok (unlimited store), store)

/-- Let a request through when the store fails. -/
def orUnlimited (answered : Answered RateLimitStatus) :
    Answered RateLimitStatus :=
  match answered with
  | (.error .redisError, store) => (.ok (unlimited store), store)
  | _ => answered

/-- Check a request against its limit, letting it through when the store
fails. -/
def checkRateLimit (suffix : String) (userId : UserId) (endpoint : String)
    (store : RateLimitStore) : Answered RateLimitStatus :=
  orUnlimited
    (match getConfig store with
    | .error error => (.error error, store)
    | .ok config =>
        check arithmetic keyPrefix re suffix userId endpoint config store)

/-- `text.removeprefix(start)`. -/
def removeStart (start text : List Char) : List Char :=
  if start.isPrefixOf text then text.drop start.length else text

/-- The algorithm and the endpoint that a key of a user names. -/
def keyParts (userId : UserId) (key : String) : List Char × String :=
  let (algorithm, _, rest) :=
    PyText.partition ':' (removeStart keyPrefix.toList key.toList)
  (algorithm, String.ofList (removeStart (userId.toList ++ [':']) rest))

/-- What the usage report says of one key, if it says something. -/
def keyUsage (userId : UserId) (config : RateLimitConfig)
    (store : RateLimitStore) (key : String) :
    Except PyException (Option (String × EndpointUsageStats)) :=
  let (algorithm, endpoint) := keyParts keyPrefix userId key
  let userConfig := userLimit config userId
  if algorithm = "sw".toList then do
    let count : ℤ := (store.requests key).card
    let limit ← match ← firstMatching re endpoint userConfig config with
      | none => pure 0
      | some rule =>
          truncProduct rule.requests userConfig.globalMultiplier
    pure (some (endpoint, ⟨.slidingWindow, max 0 (limit - count)⟩))
  else if algorithm = "tb".toList then
    match store.bucket key with
    | none => pure none
    | some none => .error .valueError
    | some (some bucket) =>
        pure (some (endpoint, ⟨.tokenBucket, PyNumber.trunc bucket.tokens⟩))
  else pure none

/-- What the usage report says of a user's keys, in the order in which the set
of them is read; of two keys for one endpoint the later one counts. -/
def getUsageStats (userId : UserId) (keys : List String)
    (store : RateLimitStore) :
    Except PyException (AList fun _ : String => EndpointUsageStats) :=
  if keys = [] then .ok ∅
  else do
    let config ← getConfig store
    keys.foldlM (fun stats key => do
      match ← keyUsage keyPrefix re userId config store key with
      | none => pure stats
      | some (endpoint, usage) => pure (stats.insert endpoint usage)) ∅

end Checks

end RateLimitService

end Integr8s
