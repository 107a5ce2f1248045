/-
Module: Integr8s.Proofs.TokenBound
Purpose: What a check of the token bucket leaves and answers, and the bound on
  the requests that it lets through between two moments in exact numbers,
  which breaks where a bucket that is gone is taken for a full one before it
  could have filled up.
Trusted boundary: none
Main exports: RequestLimits.checkTokenBucket_eq,
  RequestLimits.checkTokenBucket_fails, RequestLimits.tokenAnswer,
  RequestLimits.KeepsBucket, RequestLimits.Funded,
  RequestLimits.token_bucket_bound
-/
import Integr8s.Lib.TokenBucket
import Integr8s.Proofs.WindowLimit

namespace Integr8s.RequestLimits

open RateLimitService RateLimitStore TokenBucket

section Check

variable {arithmetic : Arithmetic} {keyPrefix suffix : String}
  {userId : UserId} {endpoint : String} {limit windowSeconds maxTokens : ℤ}
  {refillRate tokens : ℚ} {burst : PyNumber} {store : RateLimitStore}

/-- The answer to a request that finds tokens in the bucket. -/
def tokenAnswer (arithmetic : Arithmetic) (limit windowSeconds : ℤ)
    (refillRate now tokens : ℚ) : Answer :=
  let left := arithmetic.written (spent arithmetic tokens)
  if 1 ≤ tokens then do
    let resetAt ← timeAfter arithmetic now windowSeconds
    pure
      { allowed := true
        limit := limit
        remaining := PyNumber.trunc left
        resetAt := resetAt
        algorithm := .tokenBucket }
  else do
    let retryAfter ← tokenWait arithmetic left refillRate
    let resetAt ← timeAfter arithmetic now retryAfter
    pure
      { allowed := false
        limit := limit
        remaining := 0
        resetAt := resetAt
        retryAfter := retryAfter
        algorithm := .tokenBucket }

/-- The tokens that a check finds in the path's bucket. -/
def available (arithmetic : Arithmetic) (keyPrefix : String) (userId : UserId)
    (endpoint : String) (maxTokens : ℤ) (refillRate : ℚ)
    (store : RateLimitStore) : Rounded :=
  refilled arithmetic (store.bucket (bucketKey keyPrefix userId endpoint))
    maxTokens refillRate store.clock

/-- The store with a path's bucket as a check leaves it. -/
def withBucket (arithmetic : Arithmetic) (keyPrefix : String)
    (userId : UserId) (endpoint : String) (windowSeconds : ℤ) (tokens : ℚ)
    (store : RateLimitStore) : RateLimitStore :=
  let key := bucketKey keyPrefix userId endpoint
  { store.sadd userId key with
    buckets := Function.update store.buckets key
      (some ⟨some ⟨arithmetic.written (spent arithmetic tokens),
          arithmetic.written store.clock⟩,
        some (lifetimeEnd store.clock (windowSeconds * 2))⟩) }

@[simp] theorem withBucket_clock :
    (withBucket arithmetic keyPrefix userId endpoint windowSeconds tokens
      store).clock = store.clock :=
  sadd_clock store userId (bucketKey keyPrefix userId endpoint)

theorem withBucket_buckets :
    (withBucket arithmetic keyPrefix userId endpoint windowSeconds tokens
        store).buckets (bucketKey keyPrefix userId endpoint) =
      some ⟨some ⟨arithmetic.written (spent arithmetic tokens),
          arithmetic.written store.clock⟩,
        some (lifetimeEnd store.clock (windowSeconds * 2))⟩ :=
  Function.update_self ..

private theorem bucket_sadd :
    (store.sadd userId (bucketKey keyPrefix userId endpoint)).bucket
        (bucketKey keyPrefix userId endpoint) =
      store.bucket (bucketKey keyPrefix userId endpoint) :=
  bucket_congr (by simp) (by simp)

/-- A check takes a token when there is one. -/
theorem checkTokenBucket_eq
    (capacity : truncProduct limit burst = .ok maxTokens)
    (nonzero : windowSeconds ≠ 0)
    (rate : arithmetic.round (limit / windowSeconds) = .finite refillRate)
    (writes : writesInt (windowSeconds * 2) = true)
    (lasts : 0 < windowSeconds * 2 ∧
      takesLifetime store.clock (windowSeconds * 2) = true)
    (found : available arithmetic keyPrefix userId endpoint maxTokens
      refillRate store = .finite tokens) :
    checkTokenBucket arithmetic keyPrefix userId endpoint limit windowSeconds
        burst store =
      (tokenAnswer arithmetic limit windowSeconds refillRate store.clock
          tokens,
        withBucket arithmetic keyPrefix userId endpoint windowSeconds tokens
          store) := by
  unfold available at found
  unfold checkTokenBucket
  simp only [capacity, nonzero, if_false, rate, writes, Bool.true_eq_false,
    evalTokenBucket, bucket_sadd, sadd_clock, found, if_pos lasts]
  by_cases enough : 1 ≤ tokens <;>
    simp [enough, tokenAnswer, withBucket]

/-- A check fails where the store refuses the lifetime of the bucket, or the
tokens can't be written. -/
theorem checkTokenBucket_fails
    (capacity : truncProduct limit burst = .ok maxTokens)
    (nonzero : windowSeconds ≠ 0)
    (rate : arithmetic.round (limit / windowSeconds) = .finite refillRate)
    (writes : writesInt (windowSeconds * 2) = true)
    (fails : ∀ tokens, available arithmetic keyPrefix userId endpoint
      maxTokens refillRate store = .finite tokens →
        ¬ (0 < windowSeconds * 2 ∧
          takesLifetime store.clock (windowSeconds * 2) = true)) :
    checkTokenBucket arithmetic keyPrefix userId endpoint limit windowSeconds
        burst store =
      (.error .redisError,
        store.sadd userId (bucketKey keyPrefix userId endpoint)) := by
  unfold available at fails
  unfold checkTokenBucket
  simp only [capacity, nonzero, if_false, rate, writes, Bool.true_eq_false,
    evalTokenBucket, bucket_sadd, sadd_clock]
  cases found : refilled arithmetic (store.bucket (bucketKey keyPrefix userId
    endpoint)) maxTokens refillRate store.clock with
  | finite tokens => simp only [if_neg (fails tokens found)]
  | above => rfl
  | below => rfl

/-- A lifetime with too many digits fails the check. -/
theorem checkTokenBucket_unwritten
    (capacity : truncProduct limit burst = .ok maxTokens)
    (nonzero : windowSeconds ≠ 0)
    (rate : arithmetic.round (limit / windowSeconds) = .finite refillRate)
    (writes : writesInt (windowSeconds * 2) = false) :
    checkTokenBucket arithmetic keyPrefix userId endpoint limit windowSeconds
        burst store =
      (.error .valueError,
        store.sadd userId (bucketKey keyPrefix userId endpoint)) := by
  unfold checkTokenBucket
  simp only [capacity, nonzero, if_false, rate, writes, if_true]

@[simp] theorem checkTokenBucket_clock :
    (checkTokenBucket arithmetic keyPrefix userId endpoint limit windowSeconds
      burst store).2.clock = store.clock := by
  unfold checkTokenBucket
  cases truncProduct limit burst with
  | error error => rfl
  | ok maxTokens =>
      dsimp only
      split
      · rfl
      · split
        · rfl
        · rfl
        · split
          · exact sadd_clock ..
          · split <;> simp

theorem isAllowed_tokenAnswer {now : ℚ} :
    isAllowed (tokenAnswer arithmetic limit windowSeconds refillRate now
        tokens) = true ↔
      1 ≤ tokens ∧ Tellable arithmetic now windowSeconds := by
  unfold tokenAnswer
  dsimp only
  by_cases enough : 1 ≤ tokens
  · rw [if_pos enough]
    refine (isAllowed_told (by intros; rfl)).trans ?_
    simp [enough]
  · rw [if_neg enough, isAllowed_wait (by intros; rfl)]
    simp [enough]

theorem tokenAnswer_unfailing {now : ℚ} :
    Unfailing (tokenAnswer arithmetic limit windowSeconds refillRate now
      tokens) := by
  unfold tokenAnswer
  dsimp only
  split
  · exact unfailing_timeAfter.bind fun _ => .pure _
  · exact unfailing_tokenWait.bind fun _ =>
      unfailing_timeAfter.bind fun _ => .pure _

/-- A request is let through by its check or because the store failed. -/
theorem isAllowed_orUnlimited (answered : Answered RateLimitStatus) :
    isAllowed (orUnlimited answered).1 = true ↔
      answered.1 = .error .redisError ∨ isAllowed answered.1 = true := by
  unfold orUnlimited
  split
  · simp [isAllowed, unlimited]
  case h_2 other =>
    have no_failure : answered.1 ≠ .error .redisError := fun failed =>
      other answered.2 (Prod.ext failed rfl)
    simp [no_failure]

@[simp] theorem orUnlimited_snd (answered : Answered RateLimitStatus) :
    (orUnlimited answered).2 = answered.2 := by
  unfold orUnlimited
  split <;> rfl

/-- A check that the store does not fail answers for itself. -/
theorem orUnlimited_of_unfailing {answer : Answer}
    (answers : Unfailing answer) :
    orUnlimited (answer, store) = (answer, store) := by
  unfold orUnlimited
  split
  case h_1 failed =>
    cases failed
    exact absurd rfl answers
  · rfl

theorem applyRule_token {rule : RateLimitRule} {multiplier : PyNumber}
    (token : rule.algorithm = .tokenBucket)
    (effective : truncProduct rule.requests multiplier = .ok limit) :
    applyRule arithmetic keyPrefix suffix userId endpoint rule multiplier
        store =
      checkTokenBucket arithmetic keyPrefix userId endpoint limit
        rule.windowSeconds rule.burstMultiplier store := by
  unfold applyRule
  rw [effective, token]

/-- The product that is truncated is the one of the doubles. -/
theorem truncProduct_ok {number product : ℤ} {factor : PyNumber} :
    truncProduct number factor = .ok product ↔
      ∃ value float rounded, factor = .finite value ∧
        Arithmetic.doubles.round number = .finite float ∧
        Arithmetic.doubles.round (float * value) = .finite rounded ∧
        product = PyNumber.trunc rounded := by
  cases factor with
  | infinity =>
      simp only [truncProduct, reduceCtorEq, false_and, exists_false, iff_false]
      split <;> rintro ⟨⟩
  | finite value =>
      simp only [truncProduct, toFloat, PyNumber.finite.injEq]
      cases number_rounds : Arithmetic.doubles.round number with
      | above => simp [bind, Except.bind]
      | below => simp [bind, Except.bind]
      | finite float =>
          simp only [bind, Except.bind]
          cases rounds : Arithmetic.doubles.round (float * value) with
          | above => simp [toInt, rounds]
          | below => simp [toInt, rounds]
          | finite rounded => simp [toInt, rounds, eq_comm]

theorem roundDouble_ok {number float : ℚ}
    (rounds : Arithmetic.doubles.round number = .finite float) :
    float = Rounding.toDouble number := by
  simp only [Arithmetic.doubles, Arithmetic.roundDouble] at rounds
  split at rounds
  · exact (Rounded.finite.inj rounds).symm
  · split at rounds <;> cases rounds

private theorem truncProduct_nonneg {number product : ℤ} {factor : PyNumber}
    (multiplied : truncProduct number factor = .ok product)
    (number_nonneg : 0 ≤ number) (factor_nonneg : factor.AtLeast 0) :
    0 ≤ product := by
  obtain ⟨value, float, rounded, rfl, floats, rounds, rfl⟩ :=
    truncProduct_ok.mp multiplied
  rw [roundDouble_ok floats] at rounds
  rw [roundDouble_ok rounds]
  have number_nonneg : (0 : ℚ) ≤ number := Int.cast_nonneg number_nonneg
  exact PyNumber.trunc_nonneg (Rounding.toDouble_nonneg
    (mul_nonneg (Rounding.toDouble_nonneg number_nonneg) factor_nonneg))

end Check

/-- A request under a rule, let through when the store fails. -/
def served (arithmetic : Arithmetic) (keyPrefix : String) (userId : UserId)
    (endpoint : String) (rule : RateLimitRule) (multiplier : PyNumber)
    (suffix : String) (store : RateLimitStore) : Answered RateLimitStatus :=
  orUnlimited (applyRule arithmetic keyPrefix suffix userId endpoint rule
    multiplier store)

/-! ### Exact times and tokens -/

section Bound

variable {keyPrefix : String} {userId : UserId} {endpoint : String}
  {rule : RateLimitRule} {multiplier : PyNumber} {limit maxTokens : ℤ}

/-- The tokens of a bucket after the refill, in exact numbers. -/
def filled (bucket : Option (Option Bucket)) (maxTokens refillRate now : ℚ) :
    ℚ :=
  match bucket with
  | some (some bucket) =>
      min maxTokens
        (bucket.tokens + (now - bucket.lastRefill) * refillRate)
  | _ => maxTokens

theorem refilled_exact (bucket : Option (Option Bucket))
    (maxTokens refillRate now : ℚ) :
    refilled .exact bucket maxTokens refillRate now =
      .finite (filled bucket maxTokens refillRate now) := by
  match bucket with
  | none => rfl
  | some none => rfl
  | some (some bucket) => rfl

/-- The tokens that a check finds in the path's bucket, in exact numbers. -/
def availableExact (keyPrefix : String) (userId : UserId) (endpoint : String)
    (limit windowSeconds maxTokens : ℤ) (store : RateLimitStore) : ℚ :=
  filled (store.bucket (bucketKey keyPrefix userId endpoint)) maxTokens
    (limit / windowSeconds) store.clock

/-- No request fails for the lifetime of its bucket, and none comes after the
bucket was lost while it could not yet have filled up.  A bucket of no more
than two windows' worth of tokens is always full by the time it is lost. -/
def KeepsBucket (keyPrefix : String) (userId : UserId) (endpoint : String)
    (limit windowSeconds maxTokens : ℤ) (traffic : Traffic) : Event → Prop
  | .elsewhere _ => True
  | .request time _ =>
      takesLifetime time (windowSeconds * 2) = true ∧
        ∀ entry bucket,
          traffic.store.buckets (bucketKey keyPrefix userId endpoint) =
            some entry →
          entry.value = some bucket → entry.isAlive time = false →
            maxTokens ≤ 2 * limit ∨
              (maxTokens : ℚ) ≤ bucket.tokens +
                (time - bucket.lastRefill) * (limit / windowSeconds)

/-- The tokens of the bucket pay for what was let through.  Before the first
request there is no bucket. -/
inductive Funded (keyPrefix : String) (userId : UserId) (endpoint : String)
    (limit windowSeconds maxTokens : ℤ) (traffic : Traffic) : Prop where
  | unused
      (absent : traffic.store.buckets (bucketKey keyPrefix userId endpoint) =
        none)
      (quiet : traffic.allowed = [])
  | used (tokens lastRefill : ℚ)
      (stored : traffic.store.buckets (bucketKey keyPrefix userId endpoint) =
        some ⟨some ⟨tokens, lastRefill⟩,
          some (lifetimeEnd lastRefill (windowSeconds * 2))⟩)
      (past : lastRefill ≤ traffic.store.clock)
      (sound : Sound (maxTokens : ℚ) (limit / windowSeconds) lastRefill tokens
        traffic.allowed)

namespace Funded

variable {traffic : Traffic} {time : ℚ}

/-- What is let through never exceeds what the bucket holds and what flows
in. -/
theorem bounded (maxTokens_nonneg : 0 ≤ maxTokens) (limit_nonneg : 0 ≤ limit)
    {windowSeconds : ℤ} (positive : 0 < windowSeconds)
    (funded : Funded keyPrefix userId endpoint limit windowSeconds maxTokens
      traffic) {first last : ℚ} (ordered : first ≤ last) :
    (countBetween first last traffic.allowed : ℚ) ≤
      maxTokens + (last - first) * (limit / windowSeconds) := by
  cases funded with
  | unused absent quiet =>
      have rate_nonneg : 0 ≤ (limit / windowSeconds : ℚ) :=
        div_nonneg (Int.cast_nonneg limit_nonneg)
          (Int.cast_nonneg positive.le)
      rw [quiet]
      exact (Sound.start (Int.cast_nonneg maxTokens_nonneg) rate_nonneg
        first).bounded first last ordered
  | used tokens lastRefill stored past sound =>
      exact sound.bounded first last ordered

/-- A bucket that is lost after its lifetime, when it would have filled up, is
as good as a full one. -/
theorem available {windowSeconds : ℤ} (maxTokens_nonneg : 0 ≤ maxTokens)
    (limit_nonneg : 0 ≤ limit) (positive : 0 < windowSeconds)
    (funded : Funded keyPrefix userId endpoint limit windowSeconds maxTokens
      traffic) (ordered : traffic.store.clock ≤ time)
    {suffix : String} (keeps : KeepsBucket keyPrefix userId endpoint limit
      windowSeconds maxTokens traffic (.request time suffix)) :
    Sound (maxTokens : ℚ) (limit / windowSeconds) time
      (availableExact keyPrefix userId endpoint limit windowSeconds
        maxTokens (traffic.store.tick time)) traffic.allowed := by
  have rate_nonneg : 0 ≤ (limit / windowSeconds : ℚ) :=
    div_nonneg (Int.cast_nonneg limit_nonneg) (Int.cast_nonneg positive.le)
  have size_nonneg : 0 ≤ (maxTokens : ℚ) := Int.cast_nonneg maxTokens_nonneg
  cases funded with
  | unused absent quiet =>
      have full : availableExact keyPrefix userId endpoint limit
          windowSeconds maxTokens (traffic.store.tick time) = maxTokens := by
        have none : (traffic.store.tick time).bucket
            (bucketKey keyPrefix userId endpoint) = none :=
          bucket_of_none absent
        rw [availableExact, none, filled]
        simp
      rw [full, quiet]
      exact Sound.start size_nonneg rate_nonneg time
  | used tokens lastRefill stored past sound =>
      have ordered := le_trans past ordered
      have flows : 0 ≤ (time - lastRefill) * (limit / windowSeconds : ℚ) :=
        mul_nonneg (sub_nonneg.mpr ordered) rate_nonneg
      have storedThen : (traffic.store.tick time).buckets
          (bucketKey keyPrefix userId endpoint) =
            some ⟨some ⟨tokens, lastRefill⟩,
              some (lifetimeEnd lastRefill (windowSeconds * 2))⟩ := stored
      by_cases lives : millis time ≤ lifetimeEnd lastRefill (windowSeconds * 2)
      · have found : availableExact keyPrefix userId endpoint limit
            windowSeconds maxTokens (traffic.store.tick time) =
            min (maxTokens : ℚ) (tokens +
              (time - lastRefill) * (limit / windowSeconds)) := by
          have there : (traffic.store.tick time).bucket
              (bucketKey keyPrefix userId endpoint) =
                some (some ⟨tokens, lastRefill⟩) :=
            bucket_of_alive storedThen (decide_eq_true lives)
          rw [availableExact, there, filled, tick_clock]
        rw [found]
        exact sound.refill ordered rate_nonneg
          (le_min size_nonneg (add_nonneg sound.tokens_nonneg flows))
          (min_le_right _ _) (min_le_left _ _)
      · have full : availableExact keyPrefix userId endpoint limit
            windowSeconds maxTokens (traffic.store.tick time) = maxTokens := by
          have gone : (traffic.store.tick time).bucket
              (bucketKey keyPrefix userId endpoint) = none :=
            bucket_of_gone storedThen (decide_eq_false lives)
          rw [availableExact, gone, filled]
          simp
        rw [full]
        refine sound.refill ordered rate_nonneg size_nonneg ?_ le_rfl
        rcases keeps.2 _ _ stored rfl (decide_eq_false lives) with
          small | filled
        · -- two windows of silence bring twice the limit
          have silence := lasted (not_le.mp lives)
          have window_pos : 0 < (windowSeconds : ℚ) := Int.cast_pos.mpr positive
          have twice : (2 * limit : ℚ) =
              (windowSeconds * 2) * (limit / windowSeconds) := by
            field_simp
          have brought : ((windowSeconds : ℚ) * 2) * (limit / windowSeconds) ≤
              (time - lastRefill) * (limit / windowSeconds) := by
            apply mul_le_mul_of_nonneg_right _ rate_nonneg
            push_cast at silence
            linarith
          have small : (maxTokens : ℚ) ≤ 2 * limit := by exact_mod_cast small
          have tokens_nonneg := sound.tokens_nonneg
          linarith
        · exact filled

/-- What happens elsewhere leaves the path's bucket. -/
theorem elsewhere {windowSeconds : ℤ}
    (funded : Funded keyPrefix userId endpoint limit windowSeconds maxTokens
      traffic) (store : RateLimitStore)
    (ordered : traffic.store.clock ≤ store.clock)
    (same : store.buckets (bucketKey keyPrefix userId endpoint) =
      traffic.store.buckets (bucketKey keyPrefix userId endpoint)) :
    Funded keyPrefix userId endpoint limit windowSeconds maxTokens
      { traffic with store := store } := by
  cases funded with
  | unused absent quiet => exact .unused (same.trans absent) quiet
  | used tokens lastRefill stored past sound =>
      exact .used tokens lastRefill (same.trans stored)
        (le_trans past ordered) sound

/-- A check that can write its bucket leaves in it what it found, less a token
for a request that is let through. -/
theorem request {windowSeconds : ℤ} {tokens : ℚ}
    (limit_nonneg : 0 ≤ limit) (positive : 0 < windowSeconds)
    (sound : Sound (maxTokens : ℚ) (limit / windowSeconds) time tokens
      traffic.allowed) :
    Funded keyPrefix userId endpoint limit windowSeconds maxTokens
      ⟨withBucket .exact keyPrefix userId endpoint windowSeconds tokens
          (traffic.store.tick time),
        (time, tokenAnswer .exact limit windowSeconds (limit / windowSeconds)
          time tokens) :: traffic.answers⟩ := by
  have rate_nonneg : 0 ≤ (limit / windowSeconds : ℚ) :=
    div_nonneg (Int.cast_nonneg limit_nonneg) (Int.cast_nonneg positive.le)
  refine .used (spent .exact tokens) time withBucket_buckets (by simp) ?_
  rw [Traffic.allowed, timesOf_cons]
  by_cases enough : 1 ≤ tokens
  · have taken : spent .exact tokens = tokens - 1 := by
      rw [spent, if_pos enough]
      rfl
    rw [taken]
    split
    · exact sound.spend rate_nonneg enough
    · -- the token is gone although no answer could be made
      exact sound.lose (by linarith) (by linarith)
  · have turned : ¬ isAllowed (tokenAnswer .exact limit windowSeconds
        (limit / windowSeconds) time tokens) = true := fun allowed =>
      enough (isAllowed_tokenAnswer.mp allowed).1
    rw [spent, if_neg enough, if_neg turned]
    exact sound

/-- A step that keeps its bucket keeps the bucket's tokens paying for what was
let through. -/
theorem step {next : Traffic} {event : Event}
    (token : rule.algorithm = .tokenBucket)
    (effective : truncProduct rule.requests multiplier = .ok limit)
    (capacity : truncProduct limit rule.burstMultiplier = .ok maxTokens)
    (limit_nonneg : 0 ≤ limit) (maxTokens_nonneg : 0 ≤ maxTokens)
    (positive : 0 < rule.windowSeconds)
    (funded : Funded keyPrefix userId endpoint limit rule.windowSeconds
      maxTokens traffic)
    (keeps : KeepsBucket keyPrefix userId endpoint limit rule.windowSeconds
      maxTokens traffic event)
    (stepped : (limiter .exact keyPrefix userId endpoint
      (served .exact keyPrefix userId endpoint rule multiplier)).step traffic
        event = some next) :
    Funded keyPrefix userId endpoint limit rule.windowSeconds maxTokens
      next := by
  rcases step_cases stepped with
    ⟨store, -, ordered, -, buckets, rfl⟩ |
    ⟨time, suffix, rfl, -, ordered, -, rfl⟩
  · exact funded.elsewhere _ ordered buckets
  · have sound := funded.available maxTokens_nonneg limit_nonneg positive
      ordered keeps
    unfold served
    rw [applyRule_token token effective]
    cases writes : writesInt (rule.windowSeconds * 2) with
    | false =>
        rw [checkTokenBucket_unwritten capacity positive.ne' rfl writes]
        have quiet := funded.elsewhere ((traffic.store.tick time).sadd userId
          (bucketKey keyPrefix userId endpoint)) (by simpa using ordered)
          (by simp)
        cases quiet with
        | unused absent none_yet => exact .unused absent none_yet
        | used tokens lastRefill stored past sound =>
            exact .used tokens lastRefill stored past sound
    | true =>
        have takes : takesLifetime (traffic.store.tick time).clock
            (rule.windowSeconds * 2) = true := keeps.1
        have lasts : 0 < rule.windowSeconds * 2 := by omega
        rw [checkTokenBucket_eq capacity positive.ne' rfl writes
            ⟨lasts, takes⟩ (refilled_exact _ _ _ _),
          orUnlimited_of_unfailing tokenAnswer_unfailing]
        exact request limit_nonneg positive sound

end Funded

/-- However a user's requests to a path under a token bucket come, and whatever
gaps of silence lie between them, no more of them are let through between two
moments than the bucket holds and flow in meanwhile, as long as no request
comes after its bucket was lost while it could not yet have filled up.  Times
and tokens are exact here; the limit and the size of the bucket are those that
the doubles give. -/
theorem token_bucket_bound (keyPrefix : String) (userId : UserId)
    (endpoint : String) (rule : RateLimitRule) (multiplier : PyNumber)
    (limit maxTokens : ℤ) (token : rule.algorithm = .tokenBucket)
    (admitted : rule.Admitted) (multiplied : multiplier.Positive)
    (effective : truncProduct rule.requests multiplier = .ok limit)
    (capacity : truncProduct limit rule.burstMultiplier = .ok maxTokens)
    (start : RateLimitStore)
    (fresh : start.buckets (bucketKey keyPrefix userId endpoint) = none)
    (events : List Event) (traffic : Traffic)
    (keeps : (limiter .exact keyPrefix userId endpoint
      (served .exact keyPrefix userId endpoint rule multiplier)).Along
        (KeepsBucket keyPrefix userId endpoint limit rule.windowSeconds
          maxTokens) ⟨start, []⟩ events)
    (reached : (limiter .exact keyPrefix userId endpoint
      (served .exact keyPrefix userId endpoint rule multiplier)).run ⟨start, []⟩
        events = some traffic) (first last : ℚ) (ordered : first ≤ last) :
    (countBetween first last traffic.allowed : ℚ) ≤
      maxTokens + (last - first) * (limit / rule.windowSeconds) := by
  have positive : 0 < rule.windowSeconds := admitted.window
  have limit_nonneg : 0 ≤ limit := by
    apply truncProduct_nonneg effective (le_trans zero_le_one
      admitted.requests)
    cases multiplier with
    | finite factor => exact le_of_lt multiplied
    | infinity => trivial
  have maxTokens_nonneg : 0 ≤ maxTokens := by
    apply truncProduct_nonneg capacity limit_nonneg
    cases burst : rule.burstMultiplier with
    | finite factor =>
        have atLeast := admitted.burst
        rw [burst] at atLeast
        exact le_trans zero_le_one atLeast
    | infinity => trivial
  have funded : Funded keyPrefix userId endpoint limit rule.windowSeconds
      maxTokens traffic := by
    apply Machine.run_invariant _ _ _ _ _ keeps reached
    · intro state label next funded kept stepped
      exact funded.step token effective capacity limit_nonneg
        maxTokens_nonneg positive kept stepped
    · exact .unused fresh rfl
  exact funded.bounded maxTokens_nonneg limit_nonneg positive ordered

/-- One token a second for a bucket of some tokens. -/
def oneASecond (burst : ℚ) : RateLimitRule where
  endpointPattern := "^/api"
  requests := 1
  windowSeconds := 1
  burstMultiplier := .finite burst
  algorithm := .tokenBucket

/-- Two bursts that are longer apart than the bucket lasts. -/
def twoBursts : List Event :=
  List.replicate 4 (.request 0 "a") ++
    List.replicate 4 (.request (1001 / 500) "a")

private theorem oneASecond_admitted {burst : ℚ} (least : 1 ≤ burst) :
    (oneASecond burst).Admitted where
  pattern := by simp [oneASecond]
  requests := le_refl 1
  window := le_refl 1
  burst := least

/-- A bucket of two tokens is full by the time it is lost. -/
theorem token_bucket_bound_small :
    ∃ traffic, (limiter .exact "limit:" "user" "/api"
        (served .exact "limit:" "user" "/api" (oneASecond 2) (.finite 1))).run
          ⟨{}, []⟩ twoBursts = some traffic ∧ traffic.allowed.length = 4 ∧
      (countBetween 0 3 traffic.allowed : ℚ) ≤
        ((2 : ℤ) : ℚ) +
          (3 - 0) * (((1 : ℤ) : ℚ) / (oneASecond 2).windowSeconds) := by
  obtain ⟨traffic, reached, allowed⟩ := Option.map_eq_some_iff.mp
    (show ((limiter .exact "limit:" "user" "/api"
        (served .exact "limit:" "user" "/api" (oneASecond 2) (.finite 1))).run
          ⟨{}, []⟩ twoBursts).map (fun traffic => traffic.allowed.length) =
            some 4 by decide +kernel)
  have keeps : (limiter .exact "limit:" "user" "/api"
      (served .exact "limit:" "user" "/api" (oneASecond 2) (.finite 1))).Along
        (KeepsBucket "limit:" "user" "/api" 1 (oneASecond 2).windowSeconds 2)
        ⟨{}, []⟩ twoBursts := by
    apply Machine.along_of_labels
    intro event member state
    rcases List.mem_append.mp member with early | late
    · rw [List.eq_of_mem_replicate early]
      exact ⟨by decide +kernel, fun _ _ _ _ _ => .inl (le_refl 2)⟩
    · rw [List.eq_of_mem_replicate late]
      exact ⟨by decide +kernel, fun _ _ _ _ _ => .inl (le_refl 2)⟩
  exact ⟨traffic, reached, allowed,
    token_bucket_bound "limit:" "user" "/api" (oneASecond 2) (.finite 1) 1 2
      rfl (oneASecond_admitted one_le_two) zero_lt_one (by decide +kernel)
      (by decide +kernel) {} rfl twoBursts traffic keeps reached 0 3
      (by norm_num)⟩

/-- A bucket of four tokens is lost and full again after two windows: eight
requests are let through where six are the bound. -/
theorem lost_bucket_is_full :
    (oneASecond 4).Admitted ∧
    truncProduct (oneASecond 4).requests (.finite 1) = .ok 1 ∧
    truncProduct 1 (oneASecond 4).burstMultiplier = .ok 4 ∧
    ∃ traffic, (limiter .exact "limit:" "user" "/api"
        (served .exact "limit:" "user" "/api" (oneASecond 4) (.finite 1))).run
          ⟨{}, []⟩ twoBursts = some traffic ∧
      ¬ (countBetween 0 (1001 / 500) traffic.allowed : ℚ) ≤
        ((4 : ℤ) : ℚ) +
          (1001 / 500 - 0) *
            (((1 : ℤ) : ℚ) / (oneASecond 4).windowSeconds) := by
  obtain ⟨traffic, reached, allowed⟩ := Option.map_eq_some_iff.mp
    (show ((limiter .exact "limit:" "user" "/api"
        (served .exact "limit:" "user" "/api" (oneASecond 4) (.finite 1))).run
          ⟨{}, []⟩ twoBursts).map
            (fun traffic => countBetween 0 (1001 / 500) traffic.allowed) =
            some 8 by decide +kernel)
  refine ⟨oneASecond_admitted (by norm_num), by decide +kernel,
    by decide +kernel, traffic, reached, ?_⟩
  rw [allowed]
  norm_num [oneASecond]

end Bound

end Integr8s.RequestLimits
