/-
Module: Integr8s.Proofs.AlwaysAnswers
Purpose: When a check of the rate limit answers with a status: what must be
  read back, which patterns must compile, and what a rule, its multiplier and
  the state of its counter must be like; an override that the admin API admits
  can break each of these.
Trusted boundary: none
Main exports: RequestLimits.firstOf_eq, RequestLimits.Answers,
  RequestLimits.check_answers, RequestLimits.half_a_request
-/
import Integr8s.Proofs.TokenBound

namespace Integr8s.RequestLimits

open RateLimitService RateLimitStore

/-! ### The rule that applies -/

section Matching

variable (re : String → Option (String → Bool)) (endpoint : String)

/-- Whether a rule is enabled and its pattern matches. -/
def matchesEndpoint (rule : RateLimitRule) : Bool :=
  rule.enabled &&
    match re rule.endpointPattern with
    | none => false
    | some isMatch => isMatch endpoint

/-- Whether a rule can be tried: a disabled one isn't compiled. -/
def compiles (rule : RateLimitRule) : Bool :=
  !rule.enabled || (re rule.endpointPattern).isSome

/-- The rules that are tried before one matches. -/
def tried (rules : List RateLimitRule) : List RateLimitRule :=
  rules.takeWhile fun rule => !matchesEndpoint re endpoint rule

/-- The first match counts, if every rule before it compiles. -/
theorem firstOf_eq (rules : List RateLimitRule) :
    firstOf re endpoint rules =
      if (tried re endpoint rules).all (compiles re) then
        .ok (rules.find? (matchesEndpoint re endpoint))
      else .error patternError := by
  induction rules with
  | nil => rfl
  | cons rule rules inductionHypothesis =>
      unfold firstOf tried
      rw [List.takeWhile_cons, List.find?_cons]
      cases enabled : rule.enabled with
      | false =>
          simp [matchesEndpoint, compiles, enabled, inductionHypothesis, tried]
      | true =>
          cases compiled : re rule.endpointPattern with
          | none => simp [matchesEndpoint, compiles, enabled, compiled]
          | some isMatch =>
              cases isMatched : isMatch endpoint with
              | true => simp [matchesEndpoint, enabled, compiled, isMatched]
              | false =>
                  simp [matchesEndpoint, compiles, enabled, compiled,
                    isMatched, inductionHypothesis, tried]

end Matching

/-! ### What a rule must be like -/

/-- A check answers for itself or for a store that fails. -/
theorem orUnlimited_answers (answered : Answered RateLimitStatus) :
    (∃ status, (orUnlimited answered).1 = .ok status) ↔
      answered.1 = .error .redisError ∨ ∃ status, answered.1 = .ok status := by
  unfold orUnlimited
  split
  · simp
  case h_2 other =>
    have no_failure : answered.1 ≠ .error .redisError := fun failed =>
      other answered.2 (Prod.ext failed rfl)
    simp [no_failure]

section Rules

variable (arithmetic : Arithmetic) (keyPrefix suffix : String)
  (userId : UserId) (endpoint : String) (limit windowSeconds : ℤ)
  (burst : PyNumber) (store : RateLimitStore)

/-- The window is in the range of the floats, and the time that is told of
the next request is in the range of the datetimes, unless the store refuses
the lifetime of the log. -/
def WindowAnswers : Prop :=
  ∃ window, toFloat arithmetic windowSeconds = .ok window ∧
    (takesLifetime store.clock (windowSeconds * 2) = true →
      let log := counted arithmetic keyPrefix suffix userId endpoint
        windowSeconds store
      if limit < log.card then
        ∃ wait, toldWait arithmetic windowSeconds window store.clock log =
            .ok wait ∧
          Tellable arithmetic store.clock wait
      else Tellable arithmetic store.clock windowSeconds)

/-- A wait for a token can be told: something flows in, and neither the
quotient nor the time that is told is out of range. -/
def WaitAnswers (refillRate now tokens : ℚ) : Prop :=
  refillRate ≠ 0 ∧ ∃ missing quotient,
    arithmetic.round (1 - arithmetic.written tokens) = .finite missing ∧
    arithmetic.round (missing / refillRate) = .finite quotient ∧
    Tellable arithmetic now (PyNumber.trunc quotient + 1)

/-- Unless the store refuses the lifetime of the bucket, or the tokens can't be
written, a token is there or the wait for one can be told. -/
def BucketAnswers (maxTokens : ℤ) (refillRate : ℚ) : Prop :=
  0 < windowSeconds * 2 →
    takesLifetime store.clock (windowSeconds * 2) = true →
    ∀ tokens, available arithmetic keyPrefix userId endpoint maxTokens
        refillRate store = .finite tokens →
      if 1 ≤ tokens then Tellable arithmetic store.clock windowSeconds
      else WaitAnswers arithmetic refillRate store.clock tokens

/-- The size of the bucket and its refill rate are in the range of the floats,
the window is not empty and its lifetime can be written, and the bucket
answers. -/
def TokenAnswers : Prop :=
  ∃ maxTokens refillRate, truncProduct limit burst = .ok maxTokens ∧
    windowSeconds ≠ 0 ∧
    arithmetic.round (limit / windowSeconds) = .finite refillRate ∧
    writesInt (windowSeconds * 2) = true ∧
    BucketAnswers arithmetic keyPrefix userId endpoint windowSeconds store
      maxTokens refillRate

/-- The effective limit is in the range of the doubles, and the algorithm of
the rule answers. -/
def RuleAnswers (rule : RateLimitRule) (multiplier : PyNumber) : Prop :=
  ∃ limit, truncProduct rule.requests multiplier = .ok limit ∧
    match rule.algorithm with
    | .tokenBucket =>
        TokenAnswers arithmetic keyPrefix userId endpoint limit
          rule.windowSeconds rule.burstMultiplier store
    | _ =>
        WindowAnswers arithmetic keyPrefix suffix userId endpoint limit
          rule.windowSeconds store

variable {arithmetic keyPrefix suffix userId endpoint limit windowSeconds
  burst store}

/-- What tells a wait answers when there is one and its end can be told. -/
theorem waits_iff {wait : Except PyException ℤ} {now : ℚ}
    {status : ℤ → ℚ → RateLimitStatus} :
    (∃ answer, (do
      let retryAfter ← wait
      let resetAt ← timeAfter arithmetic now retryAfter
      pure (status retryAfter resetAt) :
        Except PyException RateLimitStatus) = .ok answer) ↔
      ∃ retryAfter, wait = .ok retryAfter ∧
        Tellable arithmetic now retryAfter := by
  cases wait with
  | error error => simp [bind, Except.bind]
  | ok retryAfter =>
      refine (tells_iff (status retryAfter)).trans ?_
      simp

private theorem window_answers :
    (∃ status, (orUnlimited (checkSlidingWindow arithmetic keyPrefix suffix
        userId endpoint limit windowSeconds store)).1 = .ok status) ↔
      WindowAnswers arithmetic keyPrefix suffix userId endpoint limit
        windowSeconds store := by
  rw [orUnlimited_answers]
  unfold WindowAnswers
  cases float : toFloat arithmetic windowSeconds with
  | error error =>
      have other : error ≠ .redisError := by
        unfold toFloat at float
        split at float <;> cases float
        all_goals rintro ⟨⟩
      simp [answer_overflow float, other]
  | ok window =>
      simp only [Except.ok.injEq, exists_eq_left']
      cases takes : takesLifetime store.clock (windowSeconds * 2) with
      | false => simp [answer_refused float takes]
      | true =>
          have failsNot : (checkSlidingWindow arithmetic keyPrefix suffix
              userId endpoint limit windowSeconds store).1 ≠
                .error .redisError := by
            rw [ne_eq, redisError_checkSlidingWindow float, takes]
            simp
          rcases lt_or_ge limit ((counted arithmetic keyPrefix suffix userId
            endpoint windowSeconds store).card : ℤ) with more | few
          · rw [or_iff_right failsNot, answer_rejected float takes more,
              waits_iff]
            simp [more]
          · rw [or_iff_right failsNot, answer_allowed float takes few]
            refine (tells_iff _).trans ?_
            simp [not_lt.mpr few]

/-- The wait for a token, if it can be told. -/
theorem tokenWait_ok {tokens refillRate : ℚ} {wait : ℤ} :
    tokenWait arithmetic tokens refillRate = .ok wait ↔
      refillRate ≠ 0 ∧ ∃ missing quotient,
        arithmetic.round (1 - tokens) = .finite missing ∧
        arithmetic.round (missing / refillRate) = .finite quotient ∧
        wait = PyNumber.trunc quotient + 1 := by
  unfold tokenWait
  by_cases none_flows : refillRate = 0
  · simp [none_flows]
  · rw [if_neg none_flows]
    cases arithmetic.round (1 - tokens) with
    | above => simp [Rounded.andThen, toInt, bind, Except.bind]
    | below => simp [Rounded.andThen, toInt, bind, Except.bind]
    | finite missing =>
        simp only [Rounded.andThen]
        cases rounds : arithmetic.round (missing / refillRate) with
        | above => simp [rounds, toInt, bind, Except.bind]
        | below => simp [rounds, toInt, bind, Except.bind]
        | finite quotient =>
            simp [rounds, none_flows, toInt, bind, Except.bind, pure,
              Except.pure, eq_comm]

private theorem tokenAnswer_answers {refillRate now tokens : ℚ} :
    (∃ status, tokenAnswer arithmetic limit windowSeconds refillRate now
        tokens = .ok status) ↔
      if 1 ≤ tokens then Tellable arithmetic now windowSeconds
      else WaitAnswers arithmetic refillRate now tokens := by
  unfold tokenAnswer
  dsimp only
  by_cases enough : 1 ≤ tokens
  · rw [if_pos enough, if_pos enough, tells_iff]
  · rw [if_neg enough, if_neg enough, waits_iff, spent, if_neg enough]
    simp only [tokenWait_ok, WaitAnswers]
    constructor
    · rintro ⟨wait, ⟨flows, missing, quotient, first, second, rfl⟩, told⟩
      exact ⟨flows, missing, quotient, first, second, told⟩
    · rintro ⟨flows, missing, quotient, first, second, told⟩
      exact ⟨_, ⟨flows, missing, quotient, first, second, rfl⟩, told⟩

/-- A product that is no int is no failure of the store. -/
theorem truncProduct_unfailing (number : ℤ) (factor : PyNumber) :
    Unfailing (truncProduct number factor) := by
  cases factor with
  | finite value =>
      exact unfailing_toFloat.bind fun _ => unfailing_toInt
  | infinity =>
      simp only [truncProduct]
      split <;> rintro ⟨⟩

private theorem bucket_answers {maxTokens : ℤ} {refillRate : ℚ}
    (capacity : truncProduct limit burst = .ok maxTokens)
    (nonzero : windowSeconds ≠ 0)
    (rate : arithmetic.round (limit / windowSeconds) = .finite refillRate)
    (writes : writesInt (windowSeconds * 2) = true) :
    (∃ status, (orUnlimited (checkTokenBucket arithmetic keyPrefix userId
        endpoint limit windowSeconds burst store)).1 = .ok status) ↔
      BucketAnswers arithmetic keyPrefix userId endpoint windowSeconds store
        maxTokens refillRate := by
  rw [orUnlimited_answers]
  unfold BucketAnswers
  by_cases lasts : 0 < windowSeconds * 2 ∧
      takesLifetime store.clock (windowSeconds * 2) = true
  · cases found : available arithmetic keyPrefix userId endpoint maxTokens
      refillRate store with
    | finite tokens =>
        rw [checkTokenBucket_eq capacity nonzero rate writes lasts found,
          or_iff_right tokenAnswer_unfailing, tokenAnswer_answers]
        simp [lasts]
    | above =>
        rw [checkTokenBucket_fails capacity nonzero rate writes
          (by simp [found])]
        simp
    | below =>
        rw [checkTokenBucket_fails capacity nonzero rate writes
          (by simp [found])]
        simp
  · rw [checkTokenBucket_fails capacity nonzero rate writes fun _ _ => lasts]
    simp only [true_or, true_iff]
    intro positive takes
    exact absurd ⟨positive, takes⟩ lasts

private theorem token_answers :
    (∃ status, (orUnlimited (checkTokenBucket arithmetic keyPrefix userId
        endpoint limit windowSeconds burst store)).1 = .ok status) ↔
      TokenAnswers arithmetic keyPrefix userId endpoint limit windowSeconds
        burst store := by
  unfold TokenAnswers
  cases capacity : truncProduct limit burst with
  | error error =>
      have other := truncProduct_unfailing limit burst
      rw [capacity] at other
      have other : error ≠ .redisError := fun same => other (by rw [same])
      simp [orUnlimited_answers, checkTokenBucket, capacity, other]
  | ok maxTokens =>
      by_cases zero : windowSeconds = 0
      · simp [orUnlimited_answers, checkTokenBucket, capacity, zero,
          zeroDivisionError]
      cases rate : arithmetic.round (limit / windowSeconds) with
      | above =>
          simp [orUnlimited_answers, checkTokenBucket, capacity, zero, rate]
      | below =>
          simp [orUnlimited_answers, checkTokenBucket, capacity, zero, rate]
      | finite refillRate =>
          cases writes : writesInt (windowSeconds * 2) with
          | false =>
              simp [orUnlimited_answers,
                checkTokenBucket_unwritten capacity zero rate writes]
          | true =>
              rw [bucket_answers capacity zero rate writes]
              constructor
              · intro answers
                exact ⟨maxTokens, refillRate, rfl, zero, rfl, rfl, answers⟩
              · rintro ⟨_, _, ⟨⟩, -, ⟨⟩, -, answers⟩
                exact answers

private theorem rule_answers {rule : RateLimitRule} {multiplier : PyNumber} :
    (∃ status, (orUnlimited (applyRule arithmetic keyPrefix suffix userId
        endpoint rule multiplier store)).1 = .ok status) ↔
      RuleAnswers arithmetic keyPrefix suffix userId endpoint store rule
        multiplier := by
  unfold RuleAnswers
  cases effective : truncProduct rule.requests multiplier with
  | error error =>
      have other := truncProduct_unfailing rule.requests multiplier
      rw [effective] at other
      have other : error ≠ .redisError := fun same => other (by rw [same])
      simp [orUnlimited_answers, applyRule, effective, other]
  | ok limit =>
      simp only [Except.ok.injEq, exists_eq_left']
      by_cases token : rule.algorithm = .tokenBucket
      · rw [applyRule_token token effective, token_answers, token]
      · rw [applyRule_sliding token effective, window_answers]
        cases algorithm : rule.algorithm with
        | tokenBucket => exact absurd algorithm token
        | slidingWindow => rfl
        | fixedWindow => rfl
        | leakyBucket => rfl

end Rules

/-! ### What the store must hold -/

/-- Whether the configuration and every override are read back. -/
def readable (store : RateLimitStore) : Bool :=
  (store.config.getD .getDefaultConfig).readsBack &&
    store.userOverrides.entries.all fun entry => entry.2.readsBack

/-- The configuration that a check reads. -/
def loaded (store : RateLimitStore) : RateLimitConfig :=
  let config := store.config.getD .getDefaultConfig
  prepareConfig
    { config with
      userOverrides := store.userOverrides ∪ config.userOverrides }

theorem getConfig_eq (store : RateLimitStore) :
    getConfig store =
      if readable store then .ok (loaded store)
      else .error .validationError := rfl

/-- The rules that a user's requests are tried against, in order. -/
def rulesOf (store : RateLimitStore) (userId : UserId) :
    List RateLimitRule :=
  (userLimit (loaded store) userId).rules ++ (loaded store).defaultRules

/-- What a check needs to answer: everything is read back; and if requests of
the user are limited at all, the patterns up to the first match compile, and
the rule that matches answers. -/
structure Answers (arithmetic : Arithmetic) (keyPrefix : String)
    (re : String → Option (String → Bool)) (suffix : String)
    (userId : UserId) (endpoint : String) (store : RateLimitStore) :
    Prop where
  readable : readable store = true
  compiled : (loaded store).globalEnabled = true →
    (userLimit (loaded store) userId).bypassRateLimit = false →
      (tried re endpoint (rulesOf store userId)).all (compiles re) = true
  answers : (loaded store).globalEnabled = true →
    (userLimit (loaded store) userId).bypassRateLimit = false →
      ∀ rule, (rulesOf store userId).find? (matchesEndpoint re endpoint) =
        some rule →
        RuleAnswers arithmetic keyPrefix suffix userId endpoint store rule
          (userLimit (loaded store) userId).globalMultiplier

/-- A check answers with a status exactly if it has what it needs.  The
condition follows the check from the configuration it reads to the reset time
it tells, and names at each place what the arithmetic or the store must be able
to do; nothing is asked of a check that is let through earlier. -/
theorem check_answers (arithmetic : Arithmetic) (keyPrefix : String)
    (re : String → Option (String → Bool)) (suffix : String)
    (userId : UserId) (endpoint : String) (store : RateLimitStore) :
    (∃ status, (checkRateLimit arithmetic keyPrefix re suffix userId endpoint
        store).1 = .ok status) ↔
      Answers arithmetic keyPrefix re suffix userId endpoint store := by
  unfold checkRateLimit
  rw [getConfig_eq]
  cases read : readable store with
  | false =>
      rw [orUnlimited_answers]
      constructor
      · rintro (failed | ⟨status, answered⟩)
        · cases failed
        · cases answered
      · intro answers
        cases read.symm.trans answers.readable
  | true =>
      simp only [if_true, check]
      cases enabled : (loaded store).globalEnabled with
      | false =>
          have open_to_all : Answers arithmetic keyPrefix re suffix userId
              endpoint store :=
            ⟨read, by simp [enabled], by simp [enabled]⟩
          simp [orUnlimited, open_to_all]
      | true =>
          cases bypass : (userLimit (loaded store) userId).bypassRateLimit with
          | true =>
              have open_to_user : Answers arithmetic keyPrefix re suffix
                  userId endpoint store :=
                ⟨read, by simp [bypass], by simp [bypass]⟩
              simp [orUnlimited, open_to_user]
          | false =>
              have needs : Answers arithmetic keyPrefix re suffix userId
                    endpoint store ↔
                  (tried re endpoint (rulesOf store userId)).all
                      (compiles re) = true ∧
                    ∀ rule, (rulesOf store userId).find?
                      (matchesEndpoint re endpoint) = some rule →
                      RuleAnswers arithmetic keyPrefix suffix userId endpoint
                        store rule
                        (userLimit (loaded store) userId).globalMultiplier :=
                ⟨fun answers => ⟨answers.compiled enabled bypass,
                    answers.answers enabled bypass⟩,
                  fun both => ⟨read, fun _ _ => both.1, fun _ _ => both.2⟩⟩
              rw [needs, firstMatching, ← rulesOf, firstOf_eq]
              cases compiled : (tried re endpoint
                  (rulesOf store userId)).all (compiles re) with
              | false =>
                  simp [orUnlimited_answers, patternError]
              | true =>
                  cases found : (rulesOf store userId).find?
                      (matchesEndpoint re endpoint) with
                  | none => simp [orUnlimited]
                  | some rule => simp [rule_answers]

/-- A bucket of one request a minute, halved. -/
def halved : UserRateLimit where
  userId := "user"
  rules :=
    [{ endpointPattern := "^/api"
       requests := 1
       windowSeconds := 60
       algorithm := .tokenBucket }]
  globalMultiplier := .finite (1 / 2)

/-- Patterns that are a literal start of a path. -/
def literalStart (pattern : String) : Option (String → Bool) :=
  match pattern.toList with
  | '^' :: start => some fun endpoint => start.isPrefixOf endpoint.toList
  | _ => none

/-- The admin API admits the halved bucket, whose limit is truncated to zero;
the wait for its next token divides by zero. -/
theorem half_a_request :
    halved.Admitted ∧
      ¬ ∃ status, (checkRateLimit .doubles "limit:" literalStart "a" "user"
        "/api" { userOverrides := AList.singleton "user" halved }).1 =
          .ok status := by
  constructor
  · decide +kernel
  · have failed : (checkRateLimit .doubles "limit:" literalStart "a" "user"
        "/api" { userOverrides := AList.singleton "user" halved }).1.toOption =
          none := by decide +kernel
    rintro ⟨status, answered⟩
    rw [answered] at failed
    cases failed

end Integr8s.RequestLimits
