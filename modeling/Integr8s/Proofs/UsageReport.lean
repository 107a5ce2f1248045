/-
Module: Integr8s.Proofs.UsageReport
Purpose: What the usage report says of a user's paths, against what a check at
  the same time would go by: the report also counts the entries that the check
  would drop, and does not refill the buckets.  A check goes by floats.
Trusted boundary: none
Main exports: RequestLimits.userLimiter, RequestLimits.Ledger,
  RequestLimits.basis, RequestLimits.allowed_iff_basis,
  RequestLimits.UpToDate, RequestLimits.usage_agrees,
  RequestLimits.reported_as_used_up
-/
import Integr8s.Proofs.AlwaysAnswers

namespace Integr8s.RequestLimits

open RateLimitService RateLimitStore SlidingLog

/-! ### The keys of a user's counters -/

section Keys

variable (keyPrefix : String) (userId : UserId) (endpoint : String)

private theorem removeStart_append (start text : List Char) :
    removeStart start (start ++ text) = text := by
  unfold removeStart
  rw [if_pos (List.isPrefixOf_iff_prefix.mpr (List.prefix_append start text))]
  simp

/-- A key names its algorithm and its path. -/
theorem keyParts_key {key : String} {algorithm : List Char}
    (plain : ':' ∉ algorithm)
    (text : key.toList = keyPrefix.toList ++ (algorithm ++ ':' ::
      ((userId.toList ++ [':']) ++ endpoint.toList))) :
    keyParts keyPrefix userId key = (algorithm, endpoint) := by
  rw [keyParts, text, removeStart_append, PyText.partition_append plain]
  simp only [removeStart_append, String.ofList_toList]

private theorem keyParts_windowKey :
    keyParts keyPrefix userId (windowKey keyPrefix userId endpoint) =
      ("sw".toList, endpoint) :=
  keyParts_key keyPrefix userId endpoint (by decide) (by simp [windowKey])

private theorem keyParts_bucketKey :
    keyParts keyPrefix userId (bucketKey keyPrefix userId endpoint) =
      ("tb".toList, endpoint) :=
  keyParts_key keyPrefix userId endpoint (by decide) (by simp [bucketKey])

variable {keyPrefix userId endpoint}

end Keys

/-! ### What a user's requests leave in the store -/

/-- A request of the user to a path. -/
structure UserRequest where
  time : ℚ
  suffix : String
  endpoint : String

/-- The requests of one user. -/
def userLimiter (arithmetic : Arithmetic) (keyPrefix : String)
    (re : String → Option (String → Bool)) (userId : UserId) :
    Machine RateLimitStore UserRequest where
  step store request :=
    if arithmetic.shows request.time = true ∧ store.clock ≤ request.time then
      some (checkRateLimit arithmetic keyPrefix re request.suffix userId
        request.endpoint (store.tick request.time)).2
    else none

/-- A store in which the user has made no request. -/
structure Unused (userId : UserId) (store : RateLimitStore) : Prop where
  index : store.index userId = []
  windows : ∀ key, store.windows key = none
  buckets : ∀ key, store.buckets key = none

section Ledger

variable {arithmetic : Arithmetic} {keyPrefix : String}
  {re : String → Option (String → Bool)} {userId : UserId}
  {start store : RateLimitStore}

/-- The rule that a configuration has for a path, and its limit. -/
structure Applies (re : String → Option (String → Bool)) (userId : UserId)
    (start : RateLimitStore) (endpoint : String) (rule : RateLimitRule)
    (limit : ℤ) : Prop where
  read : readable start = true
  matched : firstMatching re endpoint (userLimit (loaded start) userId)
    (loaded start) = .ok (some rule)
  effective : truncProduct rule.requests
    (userLimit (loaded start) userId).globalMultiplier = .ok limit

theorem Applies.unique {endpoint : String} {rule other : RateLimitRule}
    {limit otherLimit : ℤ}
    (applies : Applies re userId start endpoint rule limit)
    (also : Applies re userId start endpoint other otherLimit) :
    rule = other ∧ limit = otherLimit := by
  have same : rule = other := by
    simpa using applies.matched.symm.trans also.matched
  subst same
  exact ⟨rfl, Except.ok.inj (applies.effective.symm.trans also.effective)⟩

/-- A key in the index is the counter of a path, of the kind that the path's
rule has. -/
inductive CounterOf (arithmetic : Arithmetic) (keyPrefix : String)
    (re : String → Option (String → Bool)) (userId : UserId)
    (start : RateLimitStore) : String → Prop
  | window (endpoint : String) (rule : RateLimitRule) (limit : ℤ)
      (applies : Applies re userId start endpoint rule limit)
      (sliding : rule.algorithm ≠ .tokenBucket) :
      CounterOf arithmetic keyPrefix re userId start
        (windowKey keyPrefix userId endpoint)
  | bucket (endpoint : String) (rule : RateLimitRule) (limit maxTokens : ℤ)
      (refillRate : ℚ) (applies : Applies re userId start endpoint rule limit)
      (token : rule.algorithm = .tokenBucket)
      (capacity : truncProduct limit rule.burstMultiplier = .ok maxTokens)
      (rate : arithmetic.round (limit / rule.windowSeconds) =
        .finite refillRate) :
      CounterOf arithmetic keyPrefix re userId start
        (bucketKey keyPrefix userId endpoint)

/-- The configuration is as it was, the index has counters, and the user's
buckets can be read. -/
structure Ledger (arithmetic : Arithmetic) (keyPrefix : String)
    (re : String → Option (String → Bool)) (userId : UserId)
    (start store : RateLimitStore) : Prop where
  config : store.config = start.config
  overrides : store.userOverrides = start.userOverrides
  counters : ∀ key ∈ store.index userId,
    CounterOf arithmetic keyPrefix re userId start key
  filled : ∀ key entry, store.buckets key = some entry →
    ∃ bucket, entry.value = some bucket

namespace Ledger

theorem initial (unused : Unused userId start) :
    Ledger arithmetic keyPrefix re userId start start where
  config := rfl
  overrides := rfl
  counters key member := by
    rw [unused.index] at member
    cases member
  filled key entry stored := by
    cases (unused.buckets key).symm.trans stored

theorem tick (clock : ℚ)
    (ledger : Ledger arithmetic keyPrefix re userId start store) :
    Ledger arithmetic keyPrefix re userId start (store.tick clock) :=
  ⟨ledger.config, ledger.overrides, ledger.counters, ledger.filled⟩

/-- A key that is registered is the counter of a path. -/
theorem sadd {key : String}
    (ledger : Ledger arithmetic keyPrefix re userId start store)
    (counter : CounterOf arithmetic keyPrefix re userId start key) :
    Ledger arithmetic keyPrefix re userId start (store.sadd userId key) where
  config := (sadd_config ..).trans ledger.config
  overrides := (sadd_userOverrides ..).trans ledger.overrides
  counters other member := by
    rcases (mem_sadd store).mp member with rfl | before
    · exact counter
    · exact ledger.counters other before
  filled := by
    rw [sadd_buckets]
    exact ledger.filled

private theorem withWindows (windows : String → Option (Lasting RequestLog))
    (ledger : Ledger arithmetic keyPrefix re userId start store) :
    Ledger arithmetic keyPrefix re userId start
      { store with windows := windows } :=
  ⟨ledger.config, ledger.overrides, ledger.counters, ledger.filled⟩

/-- A check leaves a bucket that can be read. -/
theorem withBucket {endpoint : String} {windowSeconds : ℤ} {tokens : ℚ}
    (ledger : Ledger arithmetic keyPrefix re userId start store)
    (counter : CounterOf arithmetic keyPrefix re userId start
      (bucketKey keyPrefix userId endpoint)) :
    Ledger arithmetic keyPrefix re userId start
      (RequestLimits.withBucket arithmetic keyPrefix userId endpoint
        windowSeconds tokens store) := by
  have registered := ledger.sadd counter
  refine ⟨registered.config, registered.overrides, registered.counters, ?_⟩
  intro key entry stored
  by_cases same : key = bucketKey keyPrefix userId endpoint
  · subst same
    rw [withBucket_buckets] at stored
    cases stored
    exact ⟨_, rfl⟩
  · apply ledger.filled key entry
    simpa [RequestLimits.withBucket, same] using stored

private theorem readable_eq
    (ledger : Ledger arithmetic keyPrefix re userId start store) :
    readable store = readable start := by
  unfold readable
  rw [ledger.config, ledger.overrides]

private theorem loaded_eq
    (ledger : Ledger arithmetic keyPrefix re userId start store) :
    loaded store = loaded start := by
  unfold loaded
  rw [ledger.config, ledger.overrides]

end Ledger

/-- The bounds of the rules that a user's requests are tried against, and of
the user's multiplier. -/
structure AdmittedFor (userId : UserId) (start : RateLimitStore) : Prop where
  rules : ∀ rule ∈ rulesOf start userId, rule.Admitted
  multiplier : (userLimit (loaded start) userId).globalMultiplier.Positive

private theorem firstOf_mem {endpoint : String} {rules : List RateLimitRule}
    {rule : RateLimitRule}
    (matched : firstOf re endpoint rules = .ok (some rule)) :
    rule ∈ rules := by
  rw [firstOf_eq] at matched
  split at matched
  · exact List.mem_of_find?_eq_some (Except.ok.inj matched)
  · cases matched

theorem Applies.admitted {endpoint : String} {rule : RateLimitRule}
    {limit : ℤ} (applies : Applies re userId start endpoint rule limit)
    (admitted : AdmittedFor userId start) : rule.Admitted :=
  admitted.rules rule (firstOf_mem applies.matched)

/-- A check writes what the rule of the path writes, if anything. -/
theorem checkRateLimit_store (arithmetic : Arithmetic)
    (re : String → Option (String → Bool)) (keyPrefix suffix : String)
    (userId : UserId) (endpoint : String) (store : RateLimitStore) :
    (checkRateLimit arithmetic keyPrefix re suffix userId endpoint
        store).2 = store ∨
      ∃ rule, readable store = true ∧
        firstMatching re endpoint (userLimit (loaded store) userId)
          (loaded store) = .ok (some rule) ∧
        (checkRateLimit arithmetic keyPrefix re suffix userId endpoint
            store).2 =
          (applyRule arithmetic keyPrefix suffix userId endpoint rule
            (userLimit (loaded store) userId).globalMultiplier store).2 := by
  unfold checkRateLimit
  rw [orUnlimited_snd, getConfig_eq]
  cases read : readable store with
  | false => exact .inl rfl
  | true =>
      simp only [if_true, check]
      split
      · split
        · exact .inl rfl
        · cases matched : firstMatching re endpoint
              (userLimit (loaded store) userId) (loaded store) with
          | error error => exact .inl rfl
          | ok found =>
              cases found with
              | none => exact .inl rfl
              | some rule => exact .inr ⟨rule, trivial, rfl, rfl⟩
      · exact .inl rfl

/-- A check of the sliding window writes its key and its log. -/
theorem checkSlidingWindow_eq (arithmetic : Arithmetic)
    (keyPrefix suffix : String) (userId : UserId) (endpoint : String)
    (limit windowSeconds : ℤ) (store : RateLimitStore) :
    ∃ windows, (checkSlidingWindow arithmetic keyPrefix suffix userId endpoint
        limit windowSeconds store).2 =
      { store.sadd userId (windowKey keyPrefix userId endpoint) with
        windows := windows } := by
  unfold checkSlidingWindow
  dsimp only
  split
  · exact ⟨_, rfl⟩
  case h_2 window _ =>
    obtain ⟨windows, written⟩ := runWindow_eq
      (store.sadd userId (windowKey keyPrefix userId endpoint))
      (windowKey keyPrefix userId endpoint)
      (arithmetic.round ((store.sadd userId (windowKey keyPrefix userId
        endpoint)).clock - window)).clip
      ⟨(store.sadd userId (windowKey keyPrefix userId endpoint)).clock,
        suffix⟩ (windowSeconds * 2)
    refine ⟨windows, ?_⟩
    rw [← written]
    split
    · rfl
    · split <;> rfl

namespace Ledger

/-- A check of a bucket keeps the ledger: it registers the key only with a
rate to refill the bucket at. -/
theorem tokenRequest {endpoint : String} {rule : RateLimitRule} {limit : ℤ}
    (ledger : Ledger arithmetic keyPrefix re userId start store)
    (applies : Applies re userId start endpoint rule limit)
    (token : rule.algorithm = .tokenBucket)
    (nonzero : rule.windowSeconds ≠ 0) :
    Ledger arithmetic keyPrefix re userId start
      (checkTokenBucket arithmetic keyPrefix userId endpoint limit
        rule.windowSeconds rule.burstMultiplier store).2 := by
  cases capacity : truncProduct limit rule.burstMultiplier with
  | error error => simpa [checkTokenBucket, capacity] using ledger
  | ok maxTokens =>
      cases rate : arithmetic.round (limit / rule.windowSeconds) with
      | above => simpa [checkTokenBucket, capacity, nonzero, rate] using ledger
      | below => simpa [checkTokenBucket, capacity, nonzero, rate] using ledger
      | finite refillRate =>
          have counter : CounterOf arithmetic keyPrefix re userId start
              (bucketKey keyPrefix userId endpoint) :=
            .bucket endpoint rule limit maxTokens refillRate applies token
              capacity rate
          cases writes : writesInt (rule.windowSeconds * 2) with
          | false =>
              rw [checkTokenBucket_unwritten capacity nonzero rate writes]
              exact ledger.sadd counter
          | true =>
              by_cases fails : ∀ tokens, available arithmetic keyPrefix userId
                  endpoint maxTokens refillRate store = .finite tokens →
                    ¬ (0 < rule.windowSeconds * 2 ∧
                      takesLifetime store.clock
                        (rule.windowSeconds * 2) = true)
              · rw [checkTokenBucket_fails capacity nonzero rate writes fails]
                exact ledger.sadd counter
              · push Not at fails
                obtain ⟨tokens, found, lasts⟩ := fails
                rw [checkTokenBucket_eq capacity nonzero rate writes lasts
                  found]
                exact ledger.withBucket counter

/-- A request keeps the ledger. -/
theorem request {suffix endpoint : String}
    (ledger : Ledger arithmetic keyPrefix re userId start store)
    (admitted : AdmittedFor userId start) :
    Ledger arithmetic keyPrefix re userId start
      (checkRateLimit arithmetic keyPrefix re suffix userId endpoint
        store).2 := by
  rcases checkRateLimit_store arithmetic re keyPrefix suffix userId endpoint
    store with same | ⟨rule, read, matched, written⟩
  · rw [same]
    exact ledger
  · rw [written]
    rw [ledger.readable_eq] at read
    rw [ledger.loaded_eq] at matched ⊢
    cases effective : truncProduct rule.requests
        (userLimit (loaded start) userId).globalMultiplier with
    | error error => simpa [applyRule, effective] using ledger
    | ok limit =>
        have applies : Applies re userId start endpoint rule limit :=
          ⟨read, matched, effective⟩
        by_cases token : rule.algorithm = .tokenBucket
        · rw [applyRule_token token effective]
          have positive := (applies.admitted admitted).window
          exact ledger.tokenRequest applies token (by omega)
        · rw [applyRule_sliding token effective]
          obtain ⟨windows, left⟩ := checkSlidingWindow_eq arithmetic keyPrefix
            suffix userId endpoint limit rule.windowSeconds store
          rw [left]
          exact (ledger.sadd
            (.window endpoint rule limit applies token)).withWindows windows

/-- A user's requests keep the ledger. -/
theorem run {requests : List UserRequest}
    (ledger : Ledger arithmetic keyPrefix re userId start start)
    (admitted : AdmittedFor userId start)
    (reached : (userLimiter arithmetic keyPrefix re userId).run start
      requests = some store) :
    Ledger arithmetic keyPrefix re userId start store := by
  apply Machine.run_invariant' _ _ _ ledger reached
  intro state request next ledger stepped
  obtain ⟨-, same⟩ := Option.ite_none_right_eq_some.mp stepped
  cases same
  exact (ledger.tick request.time).request admitted

end Ledger

end Ledger

/-! ### What the report says -/

section Report

variable (arithmetic : Arithmetic) (keyPrefix : String) (userId : UserId)
  (endpoint : String)

/-- The tokens that a check of the rule's bucket finds, if it finds some. -/
def bucketTokens (rule : RateLimitRule) (limit : ℤ) (store : RateLimitStore) :
    Option ℚ :=
  match truncProduct limit rule.burstMultiplier,
      arithmetic.round (limit / rule.windowSeconds) with
  | .ok maxTokens, .finite refillRate =>
      match available arithmetic keyPrefix userId endpoint maxTokens refillRate
          store with
      | .finite tokens => some tokens
      | .above | .below => none
  | _, _ => none

/-- What a check goes by: how many more requests fit in the current window, or
the whole tokens in the bucket after its refill. -/
def basis (rule : RateLimitRule) (limit : ℤ) (store : RateLimitStore) :
    Option ℤ :=
  match rule.algorithm with
  | .tokenBucket =>
      (bucketTokens arithmetic keyPrefix userId endpoint rule limit store).map
        PyNumber.trunc
  | _ =>
      some (max 0 (limit - countAfter (store.clock - rule.windowSeconds)
        (entries keyPrefix userId endpoint store store.clock)))

/-- No whole number of tokens is reached by one amount and not by the other,
above zero or below. -/
def SameWhole (first second : ℚ) : Prop :=
  ∀ whole : ℤ, 0 < whole →
    ((whole ≤ first ↔ whole ≤ second) ∧ (first ≤ -whole ↔ second ≤ -whole))

/-- No entry has left the window since the last check, or the window is used
up without those; the refill of the bucket as it is stored brings no further
whole token, nor does it, by a stored time that was rounded up, lose one. -/
def UpToDate (rule : RateLimitRule) (limit : ℤ) (store : RateLimitStore) :
    Prop :=
  match rule.algorithm with
  | .tokenBucket =>
      ∀ bucket, store.bucket (bucketKey keyPrefix userId endpoint) =
          some (some bucket) →
        ∃ tokens, bucketTokens arithmetic keyPrefix userId endpoint rule limit
            store = some tokens ∧
          SameWhole bucket.tokens tokens
  | _ =>
      (∀ time ∈ entries keyPrefix userId endpoint store store.clock,
        store.clock - rule.windowSeconds < time) ∨
        limit ≤ countAfter (store.clock - rule.windowSeconds)
          (entries keyPrefix userId endpoint store store.clock)

variable {arithmetic keyPrefix userId endpoint}
  {re : String → Option (String → Bool)} {start store : RateLimitStore}
  {rule : RateLimitRule} {limit : ℤ}

private theorem basis_sliding (sliding : rule.algorithm ≠ .tokenBucket) :
    basis arithmetic keyPrefix userId endpoint rule limit store =
      some (max 0 (limit - countAfter (store.clock - rule.windowSeconds)
        (entries keyPrefix userId endpoint store store.clock))) := by
  unfold basis
  cases algorithm : rule.algorithm with
  | tokenBucket => exact absurd algorithm sliding
  | slidingWindow => rfl
  | fixedWindow => rfl
  | leakyBucket => rfl

private theorem upToDate_sliding (sliding : rule.algorithm ≠ .tokenBucket) :
    UpToDate arithmetic keyPrefix userId endpoint rule limit store ↔
      (∀ time ∈ entries keyPrefix userId endpoint store store.clock,
        store.clock - rule.windowSeconds < time) ∨
        limit ≤ countAfter (store.clock - rule.windowSeconds)
          (entries keyPrefix userId endpoint store store.clock) := by
  unfold UpToDate
  cases algorithm : rule.algorithm with
  | tokenBucket => exact absurd algorithm sliding
  | slidingWindow => rfl
  | fixedWindow => rfl
  | leakyBucket => rfl

/-- A check goes by its basis: where the store takes the lifetime of the
counter and the times can be told, it lets a request through just if the basis
leaves room for one. -/
theorem allowed_iff_basis {multiplier : PyNumber} {suffix : String}
    (effective : truncProduct rule.requests multiplier = .ok limit)
    (positive : 0 < rule.windowSeconds)
    (shown : arithmetic.shows store.clock = true)
    (fresh : (⟨store.clock, suffix⟩ : WindowMember) ∉
      store.requests (windowKey keyPrefix userId endpoint))
    (nonneg : ∀ score ∈ entries keyPrefix userId endpoint store store.clock,
      0 ≤ score)
    (writes : writesInt (rule.windowSeconds * 2) = true)
    (takes : takesLifetime store.clock (rule.windowSeconds * 2) = true)
    (tellable : Tellable arithmetic store.clock rule.windowSeconds) :
    isAllowed (applyRule arithmetic keyPrefix suffix userId endpoint rule
        multiplier store).1 = true ↔
      ∃ room, basis arithmetic keyPrefix userId endpoint rule limit store =
        some room ∧ 0 < room := by
  by_cases token : rule.algorithm = .tokenBucket
  · rw [applyRule_token token effective, basis, token]
    unfold bucketTokens
    cases capacity : truncProduct limit rule.burstMultiplier with
    | error error => simp [checkTokenBucket, capacity, isAllowed]
    | ok maxTokens =>
        cases rate : arithmetic.round (limit / rule.windowSeconds) with
        | above =>
            simp [checkTokenBucket, capacity, positive.ne', rate, isAllowed]
        | below =>
            simp [checkTokenBucket, capacity, positive.ne', rate, isAllowed]
        | finite refillRate =>
            cases found : available arithmetic keyPrefix userId endpoint
              maxTokens refillRate store with
            | finite tokens =>
                rw [checkTokenBucket_eq capacity positive.ne' rate writes
                  ⟨by omega, takes⟩ found, isAllowed_tokenAnswer]
                have whole : 1 ≤ PyNumber.trunc tokens ↔ 1 ≤ tokens := by
                  rw [PyNumber.le_trunc_of_pos one_pos, Int.cast_one]
                simp [tellable, found, whole, Int.lt_iff_add_one_le]
            | above =>
                rw [checkTokenBucket_fails capacity positive.ne' rate writes
                  (by simp [found])]
                simp [isAllowed, found]
            | below =>
                rw [checkTokenBucket_fails capacity positive.ne' rate writes
                  (by simp [found])]
                simp [isAllowed, found]
  · obtain ⟨window, -, float, -⟩ := id tellable
    rw [applyRule_sliding token effective, isAllowed_checkSlidingWindow,
      card_counted_of_nonneg (toFloat_ok.mpr float) shown positive.le fresh
        nonneg, basis_sliding token]
    simp only [takes, tellable, true_and, and_true, Option.some.injEq,
      exists_eq_left']
    omega

/-- What is said of a log agrees with a check unless entries have left the
window. -/
theorem window_agrees (sliding : rule.algorithm ≠ .tokenBucket) :
    some (max 0 (limit -
        ((store.requests (windowKey keyPrefix userId endpoint)).card : ℤ))) =
        basis arithmetic keyPrefix userId endpoint rule limit store ↔
      UpToDate arithmetic keyPrefix userId endpoint rule limit store := by
  rw [basis_sliding sliding, upToDate_sliding sliding, Option.some.injEq]
  have card : (store.requests (windowKey keyPrefix userId endpoint)).card =
      (entries keyPrefix userId endpoint store store.clock).length :=
    (ScoredSet.length_scores _).symm
  have few : countAfter (store.clock - rule.windowSeconds)
      (entries keyPrefix userId endpoint store store.clock) ≤
        (entries keyPrefix userId endpoint store store.clock).length :=
    List.countP_le_length
  have all : countAfter (store.clock - rule.windowSeconds)
      (entries keyPrefix userId endpoint store store.clock) =
        (entries keyPrefix userId endpoint store store.clock).length ↔
      ∀ time ∈ entries keyPrefix userId endpoint store store.clock,
        store.clock - rule.windowSeconds < time := by
    rw [countAfter, List.countP_eq_length]
    simp only [decide_eq_true_eq]
  rw [card, ← all]
  omega

private theorem sameWhole_iff (first second : ℚ) :
    PyNumber.trunc first = PyNumber.trunc second ↔ SameWhole first second := by
  constructor
  · intro same whole positive
    rw [← PyNumber.le_trunc_of_pos positive, same,
      PyNumber.le_trunc_of_pos positive, ← PyNumber.trunc_le_of_pos positive,
      same, PyNumber.trunc_le_of_pos positive]
    exact ⟨Iff.rfl, Iff.rfl⟩
  · intro together
    have reached (whole : ℤ) (positive : 0 < whole) :
        (whole ≤ PyNumber.trunc first ↔ whole ≤ PyNumber.trunc second) ∧
          (PyNumber.trunc first ≤ -whole ↔
            PyNumber.trunc second ≤ -whole) := by
      rw [PyNumber.le_trunc_of_pos positive, PyNumber.le_trunc_of_pos positive,
        PyNumber.trunc_le_of_pos positive, PyNumber.trunc_le_of_pos positive]
      exact together whole positive
    -- of two different whole numbers one is reached by one of them only
    have fromFirst := reached (PyNumber.trunc first)
    have fromSecond := reached (PyNumber.trunc second)
    have belowFirst := reached (-PyNumber.trunc first)
    have belowSecond := reached (-PyNumber.trunc second)
    omega

/-- What is said of a bucket agrees with a check unless a whole token has
flowed in. -/
theorem bucket_agrees {bucket : Bucket}
    (token : rule.algorithm = .tokenBucket)
    (found : store.bucket (bucketKey keyPrefix userId endpoint) =
      some (some bucket)) :
    some (PyNumber.trunc bucket.tokens) =
        basis arithmetic keyPrefix userId endpoint rule limit store ↔
      UpToDate arithmetic keyPrefix userId endpoint rule limit store := by
  unfold basis UpToDate
  rw [token]
  simp only [found, Option.some.injEq, forall_eq']
  cases bucketTokens arithmetic keyPrefix userId endpoint rule limit store with
  | none => simp
  | some tokens => simp [sameWhole_iff]

/-- What is said of a key is said of the path that it counts for, and agrees
with a check there if the counter is up to date. -/
structure Said (arithmetic : Arithmetic) (keyPrefix : String)
    (re : String → Option (String → Bool)) (userId : UserId)
    (start store : RateLimitStore) (endpoint : String)
    (usage : EndpointUsageStats) : Prop where
  agrees : ∃ rule limit, Applies re userId start endpoint rule limit ∧
    (some usage.remaining =
        basis arithmetic keyPrefix userId endpoint rule limit store ↔
      UpToDate arithmetic keyPrefix userId endpoint rule limit store)

private theorem keyUsage_of_counter {key : String}
    (ledger : Ledger arithmetic keyPrefix re userId start store)
    (counter : CounterOf arithmetic keyPrefix re userId start key) :
    ∃ said, keyUsage keyPrefix re userId (loaded start) store key =
        .ok said ∧
      ∀ endpoint usage, said = some (endpoint, usage) →
        Said arithmetic keyPrefix re userId start store endpoint usage := by
  cases counter with
  | window endpoint rule limit applies sliding =>
      have reads : keyUsage keyPrefix re userId (loaded start) store
          (windowKey keyPrefix userId endpoint) =
          .ok (some (endpoint, ⟨.slidingWindow, max 0 (limit -
            ((store.requests (windowKey keyPrefix userId
              endpoint)).card : ℤ))⟩)) := by
        unfold keyUsage
        rw [keyParts_windowKey]
        simp only [if_true, applies.matched, bind, Except.bind,
          applies.effective, pure, Except.pure]
      refine ⟨_, reads, ?_⟩
      intro other usage same
      cases same
      exact ⟨rule, limit, applies, window_agrees sliding⟩
  | bucket endpoint rule limit _ _ applies token =>
      cases found : store.bucket (bucketKey keyPrefix userId endpoint) with
      | none =>
          have reads : keyUsage keyPrefix re userId (loaded start) store
              (bucketKey keyPrefix userId endpoint) = .ok none := by
            unfold keyUsage
            rw [keyParts_bucketKey, found]
            rfl
          refine ⟨none, reads, ?_⟩
          intro other usage same
          cases same
      | some filled =>
          obtain ⟨entry, stored, value⟩ := Option.map_eq_some_iff.mp found
          have stored := (Option.filter_eq_some_iff.mp stored).1
          obtain ⟨bucket, text⟩ := ledger.filled _ entry stored
          cases value.symm.trans text
          have reads : keyUsage keyPrefix re userId (loaded start) store
              (bucketKey keyPrefix userId endpoint) =
              .ok (some (endpoint,
                ⟨.tokenBucket, PyNumber.trunc bucket.tokens⟩)) := by
            unfold keyUsage
            rw [keyParts_bucketKey, found]
            rfl
          refine ⟨_, reads, ?_⟩
          intro other usage same
          cases same
          exact ⟨rule, limit, applies, bucket_agrees token found⟩

/-- What is said last of a path is said of one of its keys. -/
theorem said_of_keys {keys : List String}
    (ledger : Ledger arithmetic keyPrefix re userId start store)
    (counters : ∀ key ∈ keys,
      CounterOf arithmetic keyPrefix re userId start key)
    (stats : AList fun _ : String => EndpointUsageStats)
    (said : ∀ endpoint usage, stats.lookup endpoint = some usage →
      Said arithmetic keyPrefix re userId start store endpoint usage) :
    ∃ reported, keys.foldlM (fun stats key => do
        match ← keyUsage keyPrefix re userId (loaded start) store key with
        | none => pure stats
        | some (endpoint, usage) => pure (stats.insert endpoint usage))
        stats = (.ok reported : Except PyException _) ∧
      ∀ endpoint usage, reported.lookup endpoint = some usage →
        Said arithmetic keyPrefix re userId start store endpoint usage := by
  induction keys generalizing stats with
  | nil => exact ⟨stats, rfl, said⟩
  | cons key keys inductionHypothesis =>
      obtain ⟨usage, reads, means⟩ := keyUsage_of_counter ledger
        (counters key List.mem_cons_self)
      have rest := inductionHypothesis
        (fun other member => counters other (List.mem_cons_of_mem _ member))
      rw [List.foldlM_cons, reads]
      cases usage with
      | none => exact rest stats said
      | some pair =>
          obtain ⟨path, usage⟩ := pair
          apply rest (stats.insert path usage)
          intro other found looked
          by_cases same : other = path
          · subst same
            rw [AList.lookup_insert] at looked
            cases looked
            exact means other usage rfl
          · rw [AList.lookup_insert_ne same] at looked
            exact said other found looked

end Report

/-- Whatever requests a user has made under any admitted rules, the usage
report can be made at any later time, and what it says of a path is what a
check of that path would go by then, exactly if no entry of the log has left
the window since it was last checked, or the limit is reached without those;
or no whole token has flowed into the bucket since. -/
theorem usage_agrees (arithmetic : Arithmetic) (keyPrefix : String)
    (re : String → Option (String → Bool)) (userId : UserId)
    (start store : RateLimitStore) (requests : List UserRequest)
    (admitted : AdmittedFor userId start) (unused : Unused userId start)
    (reached : (userLimiter arithmetic keyPrefix re userId).run start requests =
      some store)
    (now : ℚ) (keys : List String)
    (complete : ∀ key, key ∈ keys ↔ key ∈ store.index userId) :
    ∃ stats, getUsageStats keyPrefix re userId keys (store.tick now) =
        .ok stats ∧
      ∀ endpoint usage, stats.lookup endpoint = some usage →
        ∃ rule limit, Applies re userId start endpoint rule limit ∧
          (some usage.remaining = basis arithmetic keyPrefix userId endpoint
              rule limit (store.tick now) ↔
            UpToDate arithmetic keyPrefix userId endpoint rule limit
              (store.tick now)) := by
  have ledger := ((Ledger.initial unused).run admitted reached).tick now
  have counters : ∀ key ∈ keys,
      CounterOf arithmetic keyPrefix re userId start key :=
    fun key member => ledger.counters key ((complete key).mp member)
  cases keys with
  | nil =>
      refine ⟨∅, rfl, ?_⟩
      intro endpoint usage looked
      cases looked
  | cons key others =>
      have read : readable start = true := by
        cases counters key List.mem_cons_self with
        | window _ _ _ applies => exact applies.read
        | bucket _ _ _ _ _ applies => exact applies.read
      obtain ⟨reported, folded, said⟩ := said_of_keys ledger
        counters ∅ (fun endpoint usage looked => by cases looked)
      refine ⟨reported, ?_, fun endpoint usage looked =>
        (said endpoint usage looked).agrees⟩
      unfold getUsageStats
      rw [if_neg (List.cons_ne_nil _ _), getConfig_eq, ledger.readable_eq,
        ledger.loaded_eq, read]
      exact folded

/-- A user with a rule of two requests a minute. -/
def twoAMinuteStore : RateLimitStore where
  userOverrides :=
    AList.singleton "user" { userId := "user", rules := [twoAMinute] }

theorem twoAMinuteStore_admitted : AdmittedFor "user" twoAMinuteStore where
  rules := by decide +kernel
  multiplier := by decide +kernel

private theorem twoAMinuteStore_unused : Unused "user" twoAMinuteStore where
  index := rfl
  windows _ := rfl
  buckets _ := rfl

/-- Two requests at once. -/
def bothRequests : List UserRequest :=
  [⟨0, "a", "/api"⟩, ⟨0, "b", "/api"⟩]

/-- Half a minute later the report is up to date. -/
theorem usage_agrees_within_window :
    ∃ store stats, (userLimiter .doubles "limit:" literalStart "user").run
        twoAMinuteStore bothRequests = some store ∧
      getUsageStats "limit:" literalStart "user" (store.index "user")
        (store.tick 30) = .ok stats ∧
      ∀ endpoint usage, stats.lookup endpoint = some usage →
        ∃ rule limit, Applies literalStart "user" twoAMinuteStore endpoint
            rule limit ∧
          (some usage.remaining = basis .doubles "limit:" "user" endpoint rule
              limit (store.tick 30) ↔
            UpToDate .doubles "limit:" "user" endpoint rule limit
              (store.tick 30)) := by
  obtain ⟨store, reached, -⟩ := Option.map_eq_some_iff.mp
    (show ((userLimiter .doubles "limit:" literalStart "user").run
      twoAMinuteStore bothRequests).map RateLimitStore.clock = some 0 by
        decide +kernel)
  obtain ⟨stats, reported, said⟩ := usage_agrees .doubles "limit:"
    literalStart "user" twoAMinuteStore store bothRequests
    twoAMinuteStore_admitted twoAMinuteStore_unused reached 30
    (store.index "user") (fun _ => Iff.rfl)
  exact ⟨store, stats, reached, reported, said⟩

/-- A minute after two requests the window is free again, and the report says
that it is used up. -/
theorem reported_as_used_up :
    ∃ store stats usage,
      (userLimiter .doubles "limit:" literalStart "user").run
        twoAMinuteStore bothRequests = some store ∧
      getUsageStats "limit:" literalStart "user" (store.index "user")
        (store.tick 61) = .ok stats ∧
      Applies literalStart "user" twoAMinuteStore "/api" twoAMinute 2 ∧
      stats.lookup "/api" = some usage ∧ usage.remaining = 0 ∧
      basis .doubles "limit:" "user" "/api" twoAMinute 2 (store.tick 61) =
        some 2 := by
  obtain ⟨store, reached, read⟩ := Option.map_eq_some_iff.mp
    (show ((userLimiter .doubles "limit:" literalStart "user").run
      twoAMinuteStore bothRequests).map (fun store =>
        ((getUsageStats "limit:" literalStart "user" (store.index "user")
            (store.tick 61)).toOption.bind fun stats => stats.lookup "/api",
          basis .doubles "limit:" "user" "/api" twoAMinute 2 (store.tick 61))) =
        some (some ⟨.slidingWindow, 0⟩, some 2) by decide +kernel)
  obtain ⟨usage, goes⟩ := Prod.mk.inj read
  obtain ⟨stats, reported, looked⟩ := Option.bind_eq_some_iff.mp usage
  have reported : getUsageStats "limit:" literalStart "user"
      (store.index "user") (store.tick 61) = .ok stats := by
    cases answer : getUsageStats "limit:" literalStart "user"
        (store.index "user") (store.tick 61) with
    | ok other =>
        rw [answer] at reported
        cases reported
        rfl
    | error error =>
        rw [answer] at reported
        cases reported
  have applies : Applies literalStart "user" twoAMinuteStore "/api"
      twoAMinute 2 := by
    refine ⟨by decide +kernel, ?_, by decide +kernel⟩
    rw [firstMatching, firstOf_eq]
    have compiled : (tried literalStart "/api" (rulesOf twoAMinuteStore
        "user")).all (compiles literalStart) = true := by decide +kernel
    have found : (rulesOf twoAMinuteStore "user").find?
        (matchesEndpoint literalStart "/api") = some twoAMinute := by
      decide +kernel
    rw [← rulesOf, compiled, found]
    rfl
  exact ⟨store, stats, _, reached, reported, applies, looked, rfl, goes⟩

end Integr8s.RequestLimits
