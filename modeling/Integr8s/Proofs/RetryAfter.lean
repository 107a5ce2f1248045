/-
Module: Integr8s.Proofs.RetryAfter
Purpose: What becomes of the next request of a client that was turned away and
  waited as long as it was told: the sliding window also counts the requests
  that it turned away, and a bucket is stored with 14 digits and refilled in
  floats, so the wait may be too short.
Trusted boundary: none
Main exports: RequestLimits.Recorded, RequestLimits.Silent,
  RequestLimits.FindsToken, RequestLimits.exact_bucket_waited,
  RequestLimits.retry_after_honoured, RequestLimits.told_to_come_too_soon
-/
import Integr8s.Proofs.TokenBound

namespace Integr8s.RequestLimits

open RateLimitService RateLimitStore SlidingLog

variable {arithmetic : Arithmetic} {keyPrefix : String} {userId : UserId}
  {endpoint : String} {rule : RateLimitRule} {multiplier : PyNumber}
  {limit : ℤ}

/-- Nothing of the events is a request to the path. -/
def Silent (events : List Event) : Prop :=
  ∀ event ∈ events, ∃ store, event = .elsewhere store

/-- A path without requests has its counters and its answers as before. -/
theorem run_silent {check : String → RateLimitStore → Answered RateLimitStatus}
    {events : List Event} {traffic later : Traffic} (silent : Silent events)
    (reached : (limiter arithmetic keyPrefix userId endpoint check).run
      traffic events = some later) :
    later.answers = traffic.answers ∧
      traffic.store.clock ≤ later.store.clock ∧
      later.store.windows (windowKey keyPrefix userId endpoint) =
        traffic.store.windows (windowKey keyPrefix userId endpoint) ∧
      later.store.buckets (bucketKey keyPrefix userId endpoint) =
        traffic.store.buckets (bucketKey keyPrefix userId endpoint) := by
  induction events generalizing traffic with
  | nil =>
      cases reached
      exact ⟨rfl, le_rfl, rfl, rfl⟩
  | cons event events inductionHypothesis =>
      obtain ⟨next, stepped, rest⟩ := Option.bind_eq_some_iff.mp reached
      obtain ⟨store, rfl⟩ := silent event List.mem_cons_self
      have later := inductionHypothesis
        (fun other member => silent other (List.mem_cons_of_mem _ member)) rest
      rcases step_cases stepped with
        ⟨other, -, ordered, windows, buckets, rfl⟩ | ⟨time, suffix, no, -⟩
      · exact ⟨later.1, le_trans ordered later.2.1,
          later.2.2.1.trans windows, later.2.2.2.trans buckets⟩
      · cases no

/-! ### What the sliding window has recorded -/

private theorem timesOf_all (answers : List (ℚ × Answer)) :
    timesOf (fun _ => true) answers = answers.map Prod.fst := by
  simp [timesOf]

/-- A lifetime that is taken now would have been taken before. -/
theorem takesLifetime_before {now before : ℚ} {ttl : ℤ}
    (takes : takesLifetime now ttl = true) (ordered : before ≤ now) :
    takesLifetime before ttl = true := by
  have millis_le : millis before ≤ millis now :=
    Int.floor_le_floor (mul_le_mul_of_nonneg_right ordered (by norm_num))
  rw [takesLifetime, decide_eq_true_iff, lifetimeEnd] at takes ⊢
  omega

/-- Now and at any later time, the log has entries of requests that were made,
and each request of the window as long as its lifetimes are taken. -/
structure Recorded (keyPrefix : String) (userId : UserId) (endpoint : String)
    (windowSeconds : ℤ) (traffic : Traffic) : Prop where
  clock_nonneg : 0 ≤ traffic.store.clock
  scores_nonneg : ∀ clock, traffic.store.clock ≤ clock →
    ∀ score ∈ entries keyPrefix userId endpoint traffic.store clock, 0 ≤ score
  made : ∀ clock, traffic.store.clock ≤ clock →
    Covers (windowSeconds : ℚ) clock
      (entries keyPrefix userId endpoint traffic.store clock) traffic.sent
  covered : takesLifetime traffic.store.clock (windowSeconds * 2) = true →
    Covered keyPrefix userId endpoint windowSeconds (fun _ => true) traffic

namespace Recorded

variable {traffic : Traffic} {windowSeconds : ℤ} {window time : ℚ}

theorem start {store : RateLimitStore} (clock_nonneg : 0 ≤ store.clock)
    (fresh : store.windows (windowKey keyPrefix userId endpoint) = none) :
    Recorded keyPrefix userId endpoint windowSeconds ⟨store, []⟩ := by
  have empty (clock : ℚ) : entries keyPrefix userId endpoint store clock =
      [] := by
    have none : (store.tick clock).requests
        (windowKey keyPrefix userId endpoint) = ∅ :=
      requests_of_none fresh
    rw [entries, none]
    rfl
  refine ⟨clock_nonneg, ?_, ?_, fun _ => Covered.start store⟩
  · intro clock _ score member
    rw [empty] at member
    cases member
  · intro clock _
    rw [empty]
    exact Covers.start _ _ _

theorem elsewhere {store : RateLimitStore}
    (recorded : Recorded keyPrefix userId endpoint windowSeconds traffic)
    (ordered : traffic.store.clock ≤ store.clock)
    (same : store.windows (windowKey keyPrefix userId endpoint) =
      traffic.store.windows (windowKey keyPrefix userId endpoint)) :
    Recorded keyPrefix userId endpoint windowSeconds
      { traffic with store := store } := by
  have kept (clock : ℚ) : entries keyPrefix userId endpoint store clock =
      entries keyPrefix userId endpoint traffic.store clock :=
    congrArg ScoredSet.scores (requests_congr same rfl)
  refine ⟨le_trans recorded.clock_nonneg ordered, ?_, ?_, ?_⟩
  · intro clock late
    rw [kept]
    exact recorded.scores_nonneg clock (le_trans ordered late)
  · intro clock late
    rw [kept]
    exact recorded.made clock (le_trans ordered late)
  · intro takes
    exact (recorded.covered (takesLifetime_before takes ordered)).elsewhere
      ordered same

/-- A check records its request. -/
theorem request {suffix : String} {answer : Answer}
    (float : toFloat arithmetic windowSeconds = .ok window)
    (window_nonneg : 0 ≤ windowSeconds)
    (recorded : Recorded keyPrefix userId endpoint windowSeconds traffic)
    (shown : arithmetic.shows time = true)
    (ordered : traffic.store.clock ≤ time)
    (fresh : (⟨time, suffix⟩ : WindowMember) ∉ (traffic.store.tick
      time).requests (windowKey keyPrefix userId endpoint)) :
    Recorded keyPrefix userId endpoint windowSeconds
      ⟨(checkSlidingWindow arithmetic keyPrefix suffix userId endpoint limit
          windowSeconds (traffic.store.tick time)).2,
        (time, answer) :: traffic.answers⟩ := by
  have found (clock : ℚ) := requests_checkSlidingWindow keyPrefix suffix
    userId endpoint limit (traffic.store.tick time) float clock
  refine ⟨?_, ?_, ?_, ?_⟩
  · simpa using le_trans recorded.clock_nonneg ordered
  · intro clock _ score member
    rcases found clock with logged | ⟨gone, -⟩
    · rw [entries, logged, scores_counted float shown window_nonneg fresh]
        at member
      rcases List.mem_cons.mp member with rfl | kept
      · exact le_trans recorded.clock_nonneg ordered
      · exact recorded.scores_nonneg time ordered score
          (List.mem_of_mem_filter kept)
    · rw [entries, gone, ScoredSet.scores_empty] at member
      cases member
  · simp only [checkSlidingWindow_clock, tick_clock]
    intro clock late
    rcases found clock with logged | ⟨gone, -⟩
    · rw [entries, logged, scores_counted float shown window_nonneg fresh]
      have kept : Covers (windowSeconds : ℚ) time _ traffic.sent :=
        (recorded.made time ordered)
      have pruned : Covers (windowSeconds : ℚ) time _ traffic.sent :=
        fun bound reaches =>
          le_of_eq_of_le (countAfter_pruned _ reaches) (kept bound reaches)
      exact (pruned.accept time).later late
    · rw [entries, gone, ScoredSet.scores_empty]
      exact Covers.start _ _ _
  · simp only [checkSlidingWindow_clock, tick_clock]
    intro takes
    exact (recorded.covered (takesLifetime_before takes ordered)).request
      shown window_nonneg ordered fresh fun _ => ⟨⟨window, float⟩, takes⟩

theorem run {start traffic : Traffic} {events : List Event}
    (sliding : rule.algorithm ≠ .tokenBucket)
    (effective : truncProduct rule.requests multiplier = .ok limit)
    (float : toFloat arithmetic rule.windowSeconds = .ok window)
    (window_nonneg : 0 ≤ rule.windowSeconds)
    (recorded : Recorded keyPrefix userId endpoint rule.windowSeconds start)
    (reached : (limiter arithmetic keyPrefix userId endpoint
      (served arithmetic keyPrefix userId endpoint rule multiplier)).run
        start events = some traffic) :
    Recorded keyPrefix userId endpoint rule.windowSeconds traffic := by
  apply Machine.run_invariant' _ _ _ recorded reached
  intro state event next recorded stepped
  rcases step_cases stepped with
    ⟨store, -, ordered, windows, -, rfl⟩ |
    ⟨time, suffix, -, shown, ordered, fresh, rfl⟩
  · exact recorded.elsewhere ordered windows
  · unfold served
    rw [applyRule_sliding sliding effective, orUnlimited_snd]
    exact recorded.request float window_nonneg shown ordered fresh

/-- A check counts the requests that were made within the window, and its
own. -/
theorem card_counted {suffix : String}
    (float : toFloat arithmetic windowSeconds = .ok window)
    (window_nonneg : 0 ≤ windowSeconds)
    (recorded : Recorded keyPrefix userId endpoint windowSeconds traffic)
    (takes : takesLifetime time (windowSeconds * 2) = true)
    (shown : arithmetic.shows time = true)
    (ordered : traffic.store.clock ≤ time)
    (fresh : (⟨time, suffix⟩ : WindowMember) ∉ (traffic.store.tick
      time).requests (windowKey keyPrefix userId endpoint)) :
    (counted arithmetic keyPrefix suffix userId endpoint windowSeconds
      (traffic.store.tick time)).card =
        countAfter (time - windowSeconds) traffic.sent + 1 := by
  have made := recorded.made time ordered _ (le_refl _)
  have covered := (recorded.covered
    (takesLifetime_before takes ordered)).covers time ordered _ (le_refl _)
  rw [timesOf_all] at covered
  rw [card_counted_of_nonneg float shown window_nonneg fresh
    (recorded.scores_nonneg time ordered)]
  exact congrArg Nat.succ (Nat.le_antisymm made covered)

end Recorded

/-! ### The next request of a client that was turned away -/

/-- A request that was turned away was turned away by its check. -/
theorem turned_by_check {answered : Answered RateLimitStatus}
    {status : RateLimitStatus} (answer : (orUnlimited answered).1 = .ok status)
    (turned : status.allowed = false) : answered.1 = .ok status := by
  unfold orUnlimited at answer
  split at answer
  · cases answer
    cases turned
  · exact answer

/-- A check of the sliding window that answers has recorded its request. -/
theorem recorded_of_ok {suffix : String} {windowSeconds : ℤ}
    {store : RateLimitStore} {status : RateLimitStatus}
    (answered : (checkSlidingWindow arithmetic keyPrefix suffix userId endpoint
      limit windowSeconds store).1 = .ok status) :
    ∃ window, toFloat arithmetic windowSeconds = .ok window := by
  cases float : toFloat arithmetic windowSeconds with
  | ok window => exact ⟨window, rfl⟩
  | error error =>
      rw [answer_overflow float] at answered
      cases answered

/-- A bucket turns a request away for want of a token, and tells when there
will be one. -/
theorem turned_for_tokens {windowSeconds : ℤ} {refillRate now tokens : ℚ}
    {status : RateLimitStatus}
    (answered : tokenAnswer arithmetic limit windowSeconds refillRate now
      tokens = .ok status)
    (turned : status.allowed = false) :
    tokens < 1 ∧ tokenWait arithmetic (arithmetic.written tokens) refillRate =
      .ok status.retryAfter := by
  unfold tokenAnswer at answered
  dsimp only at answered
  split at answered
  case isTrue enough =>
    obtain ⟨resetAt, rfl⟩ := told_status answered
    cases turned
  case isFalse few =>
    rw [spent, if_neg few] at answered
    cases wait : tokenWait arithmetic (arithmetic.written tokens)
      refillRate with
    | error error =>
        rw [wait] at answered
        cases answered
    | ok retryAfter =>
        rw [wait] at answered
        obtain ⟨resetAt, rfl⟩ := told_status answered
        exact ⟨not_le.mp few, rfl⟩

section Wait

variable {suffix next : String} {store waited : RateLimitStore}
  {status : RateLimitStatus}

/-- The bucket that a check finds has a token, and the end of the next window
can be told. -/
def FindsToken (arithmetic : Arithmetic) (keyPrefix : String)
    (userId : UserId) (endpoint : String) (rule : RateLimitRule) (limit : ℤ)
    (store : RateLimitStore) : Prop :=
  ∀ maxTokens refillRate tokens,
    truncProduct limit rule.burstMultiplier = .ok maxTokens →
    arithmetic.round (limit / rule.windowSeconds) = .finite refillRate →
    available arithmetic keyPrefix userId endpoint maxTokens refillRate
      store = .finite tokens →
      1 ≤ tokens ∧ Tellable arithmetic store.clock rule.windowSeconds

private theorem findsToken_congr {first second : RateLimitStore}
    (buckets : first.buckets (bucketKey keyPrefix userId endpoint) =
      second.buckets (bucketKey keyPrefix userId endpoint))
    (clock : first.clock = second.clock) :
    FindsToken arithmetic keyPrefix userId endpoint rule limit first ↔
      FindsToken arithmetic keyPrefix userId endpoint rule limit second := by
  unfold FindsToken available
  rw [bucket_congr buckets clock, clock]

/-- A check of a bucket that answers, and the numbers that it goes by. -/
theorem token_of_ok {windowSeconds : ℤ} {burst : PyNumber}
    (answered : (checkTokenBucket arithmetic keyPrefix userId endpoint limit
      windowSeconds burst store).1 = .ok status) :
    ∃ maxTokens refillRate, truncProduct limit burst = .ok maxTokens ∧
      windowSeconds ≠ 0 ∧
      arithmetic.round (limit / windowSeconds) = .finite refillRate ∧
      writesInt (windowSeconds * 2) = true ∧
      ∃ tokens, available arithmetic keyPrefix userId endpoint maxTokens
        refillRate store = .finite tokens ∧
        0 < windowSeconds * 2 ∧
        takesLifetime store.clock (windowSeconds * 2) = true := by
  cases capacity : truncProduct limit burst with
  | error error =>
      unfold checkTokenBucket at answered
      rw [capacity] at answered
      cases answered
  | ok maxTokens =>
      by_cases nonzero : windowSeconds = 0
      · unfold checkTokenBucket at answered
        simp only [capacity, nonzero, if_true] at answered
        cases answered
      cases rate : arithmetic.round (limit / windowSeconds) with
      | above =>
          unfold checkTokenBucket at answered
          simp only [capacity, nonzero, if_false, rate] at answered
          cases answered
      | below =>
          unfold checkTokenBucket at answered
          simp only [capacity, nonzero, if_false, rate] at answered
          cases answered
      | finite refillRate =>
          cases writes : writesInt (windowSeconds * 2) with
          | false =>
              rw [checkTokenBucket_unwritten capacity nonzero rate writes]
                at answered
              cases answered
          | true =>
              refine ⟨maxTokens, refillRate, rfl, nonzero, rfl, rfl, ?_⟩
              by_contra fails
              rw [checkTokenBucket_fails capacity nonzero rate writes
                fun tokens found lasts =>
                  fails ⟨tokens, found, lasts⟩] at answered
              cases answered

/-- A client is let through by a bucket when it finds a token there. -/
theorem token_allowed
    (token : rule.algorithm = .tokenBucket)
    (effective : truncProduct rule.requests multiplier = .ok limit)
    (answered : (applyRule arithmetic keyPrefix suffix userId endpoint rule
      multiplier store).1 = .ok status) (waited : RateLimitStore) :
    isAllowed (served arithmetic keyPrefix userId endpoint rule multiplier
        next waited).1 = true ↔
      takesLifetime waited.clock (rule.windowSeconds * 2) = false ∨
        FindsToken arithmetic keyPrefix userId endpoint rule limit waited := by
  rw [applyRule_token token effective] at answered
  obtain ⟨maxTokens, refillRate, capacity, nonzero, rate, writes, -, -, lasts,
    -⟩ := token_of_ok answered
  have same : FindsToken arithmetic keyPrefix userId endpoint rule limit
      waited ↔ ∀ tokens, available arithmetic keyPrefix userId endpoint
        maxTokens refillRate waited = .finite tokens →
          1 ≤ tokens ∧ Tellable arithmetic waited.clock
            rule.windowSeconds := by
    constructor
    · intro finds tokens
      exact finds maxTokens refillRate tokens capacity rate
    · intro finds _ _ tokens otherCapacity otherRate
      cases capacity.symm.trans otherCapacity
      cases rate.symm.trans otherRate
      exact finds tokens
  rw [served, isAllowed_orUnlimited, applyRule_token token effective, same]
  cases takes : takesLifetime waited.clock (rule.windowSeconds * 2) with
  | false =>
      rw [checkTokenBucket_fails capacity nonzero rate writes (by simp [takes])]
      simp
  | true =>
      cases found : available arithmetic keyPrefix userId endpoint maxTokens
        refillRate waited with
      | finite tokens =>
          rw [checkTokenBucket_eq capacity nonzero rate writes ⟨lasts, takes⟩
            found]
          have unfailing : ¬ tokenAnswer arithmetic limit rule.windowSeconds
              refillRate waited.clock tokens = .error .redisError :=
            tokenAnswer_unfailing
          simp [isAllowed_tokenAnswer, unfailing]
      | above =>
          rw [checkTokenBucket_fails capacity nonzero rate writes
            (by simp [found])]
          simp
      | below =>
          rw [checkTokenBucket_fails capacity nonzero rate writes
            (by simp [found])]
          simp

/-- A client of a sliding window finds room when fewer requests than the limit
were made within the window, let through or not. -/
theorem window_allowed {waited : Traffic} {time window : ℚ}
    (sliding : rule.algorithm ≠ .tokenBucket) (admitted : rule.Admitted)
    (effective : truncProduct rule.requests multiplier = .ok limit)
    (float : toFloat arithmetic rule.windowSeconds = .ok window)
    (recorded : Recorded keyPrefix userId endpoint rule.windowSeconds waited)
    (shown : arithmetic.shows time = true)
    (ordered : waited.store.clock ≤ time)
    (fresh : (⟨time, next⟩ : WindowMember) ∉ (waited.store.tick
      time).requests (windowKey keyPrefix userId endpoint)) :
    isAllowed (served arithmetic keyPrefix userId endpoint rule multiplier
        next (waited.store.tick time)).1 = true ↔
      takesLifetime time (rule.windowSeconds * 2) = false ∨
        (countAfter (time - rule.windowSeconds) waited.sent : ℤ) < limit ∧
          Tellable arithmetic time rule.windowSeconds := by
  rw [served, isAllowed_orUnlimited, applyRule_sliding sliding effective,
    redisError_checkSlidingWindow float, isAllowed_checkSlidingWindow]
  cases takes : takesLifetime time (rule.windowSeconds * 2) with
  | false => simp [takes]
  | true =>
      have window_pos : 0 < rule.windowSeconds := admitted.window
      have card := recorded.card_counted float window_pos.le takes shown
        ordered fresh
      simp only [card, tick_clock, takes, true_and, Bool.true_eq_false,
        false_or]
      push_cast
      rw [Int.add_one_le_iff]

end Wait

/-! ### Exact buckets -/

section Exact

/-- A bucket under a limit has room for a token. -/
theorem capacity_pos {maxTokens : ℤ} (admitted : rule.Admitted)
    (capacity : truncProduct limit rule.burstMultiplier = .ok maxTokens)
    (least : 1 ≤ limit) : 1 ≤ maxTokens := by
  obtain ⟨burst, float, rounded, named, floats, rounds, rfl⟩ :=
    truncProduct_ok.mp capacity
  have burst_le : 1 ≤ burst := by
    have atLeast := admitted.burst
    rwa [named] at atLeast
  have atLeastOne {number : ℚ} (more : 1 ≤ number) :
      1 ≤ Rounding.toDouble number := by
    have kept : (2 : ℚ) ^ (0 : ℤ) ≤ Rounding.toDouble number :=
      Rounding.le_toDouble (by norm_num) (by simpa using more)
    simpa using kept
  have limit_le : 1 ≤ float := by
    rw [roundDouble_ok floats]
    exact atLeastOne (by exact_mod_cast least)
  have product : 1 ≤ rounded := by
    rw [roundDouble_ok rounds]
    exact atLeastOne (le_trans limit_le
      (le_mul_of_one_le_right (by linarith) burst_le))
  exact (PyNumber.le_trunc_iff (by linarith)).mpr (by exact_mod_cast product)

/-- In exact numbers a bucket has a token again when it was told to have one:
what it is short of flows in during the wait that is told. -/
theorem exact_bucket_waited {suffix : String} {store waited : RateLimitStore}
    {status : RateLimitStatus} (token : rule.algorithm = .tokenBucket)
    (admitted : rule.Admitted)
    (effective : truncProduct rule.requests multiplier = .ok limit)
    (least : 1 ≤ limit)
    (answered : (applyRule .exact keyPrefix suffix userId endpoint rule
      multiplier store).1 = .ok status)
    (turned : status.allowed = false)
    (kept : waited.buckets (bucketKey keyPrefix userId endpoint) =
      (applyRule .exact keyPrefix suffix userId endpoint rule multiplier
        store).2.buckets (bucketKey keyPrefix userId endpoint))
    (late : store.clock + status.retryAfter ≤ waited.clock)
    (tellable : Tellable .exact waited.clock rule.windowSeconds) :
    FindsToken .exact keyPrefix userId endpoint rule limit waited := by
  rw [applyRule_token token effective] at answered kept
  obtain ⟨maxTokens, refillRate, capacity, nonzero, rate, writes, tokens,
    found, lasts⟩ := token_of_ok answered
  cases rate
  rw [checkTokenBucket_eq capacity nonzero rfl writes lasts found]
    at answered kept
  obtain ⟨few, told⟩ := turned_for_tokens answered turned
  have window_pos : 0 < (rule.windowSeconds : ℚ) :=
    Int.cast_pos.mpr admitted.window
  have rate_pos : 0 < (limit / rule.windowSeconds : ℚ) :=
    div_pos (Int.cast_pos.mpr (by omega)) window_pos
  have roomy : (1 : ℚ) ≤ maxTokens := by
    exact_mod_cast capacity_pos admitted capacity least
  intro otherTokens otherRate there otherCapacity sameRate found
  cases capacity.symm.trans otherCapacity
  cases sameRate
  refine ⟨?_, tellable⟩
  rw [withBucket_buckets, spent, if_neg (not_le.mpr few)] at kept
  rw [available, refilled_exact] at found
  cases found
  cases lives : (⟨some ⟨tokens, store.clock⟩,
      some (lifetimeEnd store.clock (rule.windowSeconds * 2))⟩ :
        Lasting (Option Bucket)).isAlive waited.clock with
  | false =>
      rw [bucket_of_gone kept lives]
      exact roomy
  | true =>
      rw [bucket_of_alive kept lives]
      have wait : status.retryAfter = PyNumber.trunc
          ((1 - tokens) / (limit / rule.windowSeconds)) + 1 := by
        rw [tokenWait, if_neg rate_pos.ne'] at told
        exact (Except.ok.inj told).symm
      have missing := PyNumber.lt_trunc_add_one
        ((1 - tokens) / (limit / rule.windowSeconds : ℚ))
      rw [wait] at late
      push_cast at late
      have waits : (1 - tokens) / (limit / rule.windowSeconds : ℚ) ≤
          waited.clock - store.clock := by linarith
      have flows := (div_le_iff₀ rate_pos).mp waits
      have enough : 1 ≤ tokens +
          (waited.clock - store.clock) * (limit / rule.windowSeconds) := by
        linarith
      exact le_min roomy enough

end Exact

/-- When a client that was turned away is told how long to wait, and waits,
its next request is let through exactly if its bucket, which is read back with
14 digits and refilled in floats, has a token; or, under a sliding window, if
fewer requests than the limit were made within the window before it, those that
were turned away among them; and in either case the end of the next window can
be told.  It is also let through if the store refuses the lifetime of its
counter. -/
theorem retry_after_honoured (arithmetic : Arithmetic) (keyPrefix : String)
    (userId : UserId) (endpoint : String) (rule : RateLimitRule)
    (multiplier : PyNumber) (limit : ℤ) (admitted : rule.Admitted)
    (effective : truncProduct rule.requests multiplier = .ok limit)
    (start : RateLimitStore)
    (clock_nonneg : 0 ≤ start.clock)
    (fresh : start.windows (windowKey keyPrefix userId endpoint) = none)
    (history waiting : List Event) (now time : ℚ) (suffix next : String)
    (status : RateLimitStatus) (traffic rejected waited last : Traffic)
    (reached : (limiter arithmetic keyPrefix userId endpoint
      (served arithmetic keyPrefix userId endpoint rule multiplier)).run
        ⟨start, []⟩ history = some traffic)
    (rejects : (limiter arithmetic keyPrefix userId endpoint
      (served arithmetic keyPrefix userId endpoint rule multiplier)).step
        traffic (.request now suffix) = some rejected)
    (told : rejected.newest = some (.ok status))
    (turned : status.allowed = false) (silent : Silent waiting)
    (waits : (limiter arithmetic keyPrefix userId endpoint
      (served arithmetic keyPrefix userId endpoint rule multiplier)).run
        rejected waiting = some waited)
    (_late : now + status.retryAfter ≤ time)
    (again : (limiter arithmetic keyPrefix userId endpoint
      (served arithmetic keyPrefix userId endpoint rule multiplier)).step
        waited (.request time next) = some last) :
    (∃ answer, last.newest = some answer ∧ isAllowed answer = true) ↔
      takesLifetime time (rule.windowSeconds * 2) = false ∨
        if rule.algorithm = .tokenBucket then
          FindsToken arithmetic keyPrefix userId endpoint rule limit
            (rejected.store.tick time)
        else
          (countAfter (time - rule.windowSeconds) rejected.sent : ℤ) < limit ∧
            Tellable arithmetic time rule.windowSeconds := by
  obtain ⟨other, no, -⟩ | ⟨_, _, same, shownThen, ordered, -, rfl⟩ :=
    step_cases rejects
  · cases no
  cases same
  obtain ⟨other, no, -⟩ | ⟨_, _, same, shown, after, unseen, rfl⟩ :=
    step_cases again
  · cases no
  cases same
  obtain ⟨answers, -, windows, buckets⟩ := run_silent silent waits
  have answered : (served arithmetic keyPrefix userId endpoint rule multiplier
      suffix (traffic.store.tick now)).1 = .ok status := by
    simpa [Traffic.newest] using told
  have check := turned_by_check answered turned
  simp only [Traffic.newest, List.head?_cons, Option.map_some,
    Option.some.injEq, exists_eq_left']
  by_cases token : rule.algorithm = .tokenBucket
  · rw [if_pos token, token_allowed token effective check]
    exact or_congr Iff.rfl (findsToken_congr buckets rfl)
  · rw [applyRule_sliding token effective] at check
    obtain ⟨window, float⟩ := recorded_of_ok check
    have window_pos : 0 < rule.windowSeconds := admitted.window
    have recorded := Recorded.run token effective float window_pos.le
      (Recorded.start clock_nonneg fresh) reached
    have both : (limiter arithmetic keyPrefix userId endpoint
        (served arithmetic keyPrefix userId endpoint rule multiplier)).run
          traffic (.request now suffix :: waiting) = some waited := by
      rw [Machine.run_cons, rejects]
      exact waits
    rw [if_neg token, window_allowed token admitted effective float
      (Recorded.run token effective float window_pos.le recorded both) shown
      after unseen]
    simp [Traffic.sent, answers]

/-- The requests of the user to the path under a rule. -/
def requestsUnder (rule : RateLimitRule) : Machine Traffic Event :=
  limiter .doubles "limit:" "user" "/api"
    (served .doubles "limit:" "user" "/api" rule (.finite 1))

private theorem twoAMinute_admitted : twoAMinute.Admitted := by
  decide +kernel

/-- What is read off a run that ends with one more request. -/
theorem run_and_step (machine : Machine Traffic Event) (start : Traffic)
    (events : List Event) (event : Event)
    (first second : Option RateLimitStatus)
    (evaluated : ((machine.run start events).bind fun traffic =>
      (machine.step traffic event).map fun last =>
        (traffic.newest.bind Except.toOption,
          last.newest.bind Except.toOption)) = some (first, second)) :
    ∃ traffic last, machine.run start events = some traffic ∧
      machine.step traffic event = some last ∧
      traffic.newest.bind Except.toOption = first ∧
      last.newest.bind Except.toOption = second := by
  obtain ⟨traffic, reached, rest⟩ := Option.bind_eq_some_iff.mp evaluated
  obtain ⟨last, stepped, both⟩ := Option.map_eq_some_iff.mp rest
  cases both
  exact ⟨traffic, last, reached, stepped, rfl, rfl⟩

private theorem newest_ok {traffic : Traffic} {status : RateLimitStatus}
    (read : traffic.newest.bind Except.toOption = some status) :
    traffic.newest = some (.ok status) := by
  obtain ⟨answer, newest, ok⟩ := Option.bind_eq_some_iff.mp read
  cases answer with
  | ok other => cases ok; exact newest
  | error error => cases ok

/-- A status of a limit of two a minute. -/
def statusAt (allowed : Bool) (remaining : ℤ) (resetAt : ℚ) (retryAfter : ℤ) :
    RateLimitStatus where
  allowed := allowed
  limit := 2
  remaining := remaining
  resetAt := resetAt
  retryAfter := retryAfter

/-- A client that sent its requests at once waits for nearly a window, and is
let through. -/
theorem retry_after_honoured_at_once :
    ∃ rejected last, (requestsUnder twoAMinute).run ⟨{}, []⟩
        [.request 0 "a", .request 1 "b", .request 2 "c"] = some rejected ∧
      rejected.newest = some (.ok (statusAt false 0 61 59)) ∧
      (requestsUnder twoAMinute).step rejected (.request 62 "d") =
        some last ∧
      ∃ answer, last.newest = some answer ∧ isAllowed answer = true := by
  obtain ⟨traffic, rejected, reached, rejects, told, -⟩ :=
    run_and_step (requestsUnder twoAMinute) ⟨{}, []⟩
      [.request 0 "a", .request 1 "b"] (.request 2 "c")
      (some (statusAt true 0 61 0)) (some (statusAt false 0 61 59))
      (by decide +kernel)
  obtain ⟨waited, last, both, again, same, -⟩ :=
    run_and_step (requestsUnder twoAMinute) ⟨{}, []⟩
      [.request 0 "a", .request 1 "b", .request 2 "c"] (.request 62 "d")
      (some (statusAt false 0 61 59)) (some (statusAt true 1 122 0))
      (by decide +kernel)
  have one_run : waited = rejected := by
    have split := Machine.run_append (requestsUnder twoAMinute) ⟨{}, []⟩
      [.request 0 "a", .request 1 "b"] [.request 2 "c"]
    rw [reached, List.cons_append, List.cons_append, List.nil_append, both,
      Option.bind_some, Machine.run_cons, rejects, Option.bind_some,
      Machine.run_nil] at split
    exact Option.some.inj split
  subst one_run
  have sent : waited.sent = [2, 1, 0] := by
    have evaluated : ((requestsUnder twoAMinute).run ⟨{}, []⟩
        [.request 0 "a", .request 1 "b", .request 2 "c"]).map Traffic.sent =
          some [2, 1, 0] := by decide +kernel
    rw [both] at evaluated
    exact Option.some.inj evaluated
  refine ⟨waited, last, both, newest_ok same, again, ?_⟩
  refine (retry_after_honoured .doubles "limit:" "user" "/api" twoAMinute
    (.finite 1) 2 twoAMinute_admitted (by decide +kernel) {} le_rfl rfl _ []
    2 62 "c" "d" (statusAt false 0 61 59) traffic waited waited last reached
    rejects (newest_ok same) rfl (by simp [Silent]) rfl
    (by norm_num [statusAt]) again).mpr (.inr ?_)
  rw [if_neg (by decide), sent]
  exact ⟨by decide +kernel, 60, 122, by decide +kernel, by decide +kernel,
    by decide +kernel, by decide +kernel⟩

/-- One request in seven seconds, from a bucket of one token. -/
def oneInSeven : RateLimitRule where
  endpointPattern := "^/api"
  requests := 1
  windowSeconds := 7
  burstMultiplier := .finite 1
  algorithm := .tokenBucket

/-- Some hundred-thousandths of a second after a second of the year 2023, as
the clock shows it. -/
def shownAt (parts : ℕ) : ℚ :=
  Rounding.toDouble (1700000000 + parts / 100000)

/-- Doubles are not exact: a client of a bucket is told to wait for five
seconds, does so, and is turned away, as what is stored of the last refill has
been rounded up. -/
example :
    ((requestsUnder oneInSeven).run ⟨{}, []⟩
        [.request (shownAt 6) "a", .request (shownAt 200004) "b",
          .request (shownAt 200006) "c",
          .request (shownAt 700006) "d"]).map (fun traffic =>
      traffic.answers.map fun answer =>
        (answer.1, answer.2.toOption.map fun status =>
          (status.allowed, status.retryAfter))) =
      some [(shownAt 700006, some (false, 1)),
        (shownAt 200006, some (false, 5)),
        (shownAt 200004, some (false, 6)),
        (shownAt 6, some (true, 0))] ∧
    shownAt 200006 + 5 ≤ shownAt 700006 := by
  decide +kernel

/-- A client is told to come again after two seconds, does so, and is turned
away: the request for which it was turned away counts as well. -/
theorem told_to_come_too_soon :
    twoAMinute.Admitted ∧
    truncProduct twoAMinute.requests (.finite 1) = .ok 2 ∧
    ∃ rejected last, (requestsUnder twoAMinute).run ⟨{}, []⟩
        [.request 0 "a", .request 30 "b", .request 59 "c"] = some rejected ∧
      rejected.newest = some (.ok (statusAt false 0 61 2)) ∧
      (requestsUnder twoAMinute).step rejected (.request 61 "d") =
        some last ∧
      ¬ ∃ answer, last.newest = some answer ∧ isAllowed answer = true := by
  obtain ⟨rejected, last, reached, again, told, turned⟩ :=
    run_and_step (requestsUnder twoAMinute) ⟨{}, []⟩
      [.request 0 "a", .request 30 "b", .request 59 "c"] (.request 61 "d")
      (some (statusAt false 0 61 2)) (some (statusAt false 0 91 30))
      (by decide +kernel)
  refine ⟨twoAMinute_admitted, by decide +kernel, rejected, last, reached,
    newest_ok told, again, ?_⟩
  rintro ⟨answer, newest, allowed⟩
  rw [newest_ok turned] at newest
  cases newest
  cases allowed

end Integr8s.RequestLimits
