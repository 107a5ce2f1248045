/-
Module: Integr8s.Proofs.WindowLimit
Purpose: One user's requests to one path while anything else happens around
  them, what a check of the sliding window leaves and answers, and the bound on
  the requests that it lets through in an interval of the window's length.
Trusted boundary: none
Main exports: RequestLimits.limiter, RequestLimits.timesOf,
  RequestLimits.isAllowed, RequestLimits.Unfailing, RequestLimits.Tellable,
  RequestLimits.le_windowStart, RequestLimits.requests_checkSlidingWindow,
  RequestLimits.isAllowed_checkSlidingWindow,
  RequestLimits.sliding_window_bound
-/
import Integr8s.Lib.Machine
import Integr8s.Lib.SlidingLog
import Integr8s.Services.RateLimit

namespace Integr8s.RequestLimits

open RateLimitService RateLimitStore SlidingLog

/-- What a request was answered. -/
abbrev Answer : Type := Except PyException RateLimitStatus

/-- Whether an answer lets its request through. -/
def isAllowed : Answer → Bool
  | .ok status => status.allowed
  | .error _ => false

/-- The store, and when the requests to a path were made and what they were
answered, the newest first. -/
structure Traffic where
  store : RateLimitStore
  answers : List (ℚ × Answer) := []

/-- The times of the requests whose answer counts. -/
def timesOf (counts : Answer → Bool) (answers : List (ℚ × Answer)) : List ℚ :=
  (answers.filter fun answer => counts answer.2).map Prod.fst

namespace Traffic

/-- When a request was let through. -/
def allowed (traffic : Traffic) : List ℚ := timesOf isAllowed traffic.answers

/-- When a request was made, let through or not. -/
def sent (traffic : Traffic) : List ℚ := traffic.answers.map Prod.fst

/-- What the newest request was answered. -/
def newest (traffic : Traffic) : Option Answer :=
  traffic.answers.head?.map Prod.snd

end Traffic

/-- What happens: the user makes a request to the path, with a new suffix for
its entry in the log, or anything happens elsewhere. -/
inductive Event where
  | elsewhere (store : RateLimitStore)
  | request (time : ℚ) (suffix : String)

theorem timesOf_cons (counts : Answer → Bool) (time : ℚ) (answer : Answer)
    (answers : List (ℚ × Answer)) :
    timesOf counts ((time, answer) :: answers) =
      if counts answer then time :: timesOf counts answers
      else timesOf counts answers := by
  unfold timesOf
  by_cases counted : counts answer = true <;> simp [counted]

section Machine

variable (arithmetic : Arithmetic) (keyPrefix : String) (userId : UserId)
  (endpoint : String)

/-- The clock never goes back, and nothing else touches the path's own
counters. -/
def step (check : String → RateLimitStore → Answered RateLimitStatus)
    (traffic : Traffic) : Event → Option Traffic
  | .elsewhere store =>
      if traffic.store.clock ≤ store.clock ∧
          store.windows (windowKey keyPrefix userId endpoint) =
            traffic.store.windows (windowKey keyPrefix userId endpoint) ∧
          store.buckets (bucketKey keyPrefix userId endpoint) =
            traffic.store.buckets (bucketKey keyPrefix userId endpoint) then
        some { traffic with store := store }
      else none
  | .request time suffix =>
      let store := traffic.store.tick time
      if arithmetic.shows time = true ∧ traffic.store.clock ≤ time ∧
          (⟨time, suffix⟩ : WindowMember) ∉
            store.requests (windowKey keyPrefix userId endpoint) then
        let (answer, store) := check suffix store
        some ⟨store, (time, answer) :: traffic.answers⟩
      else none

/-- The requests to the path, each checked at once. -/
def limiter (check : String → RateLimitStore → Answered RateLimitStatus) :
    Machine Traffic Event :=
  ⟨step arithmetic keyPrefix userId endpoint check⟩

end Machine

/-! ### Answers that the store does not fail -/

section Unfailing

variable {α β : Type}

/-- An answer for which the store did not fail. -/
def Unfailing (answer : Except PyException α) : Prop :=
  answer ≠ .error .redisError

theorem Unfailing.pure (value : α) :
    Unfailing (Pure.pure value : Except PyException α) := by
  rintro ⟨⟩

theorem Unfailing.bind {first : Except PyException α}
    {next : α → Except PyException β} (begins : Unfailing first)
    (goesOn : ∀ value, Unfailing (next value)) :
    Unfailing (first >>= next) := by
  cases first with
  | error error =>
      intro failed
      cases failed
      exact begins rfl
  | ok value => exact goesOn value

variable {arithmetic : Arithmetic}

theorem unfailing_toInt {number : Rounded} : Unfailing (toInt number) := by
  cases number <;> rintro ⟨⟩

theorem unfailing_toFloat {number : ℤ} :
    Unfailing (toFloat arithmetic number) := by
  unfold toFloat
  split <;> rintro ⟨⟩

theorem unfailing_timeAfter {now : ℚ} {seconds : ℤ} :
    Unfailing (timeAfter arithmetic now seconds) := by
  refine unfailing_toFloat.bind fun _ => ?_
  unfold fromTimestamp
  split
  · split <;> rintro ⟨⟩
  all_goals rintro ⟨⟩

private theorem unfailing_windowWait {log : RequestLog} {windowSeconds : ℤ}
    {window now : ℚ} :
    Unfailing (windowWait arithmetic log windowSeconds window now) := by
  unfold windowWait
  split
  · exact unfailing_toInt.bind fun _ => .pure _
  · exact .pure _

theorem unfailing_tokenWait {tokens refillRate : ℚ} :
    Unfailing (tokenWait arithmetic tokens refillRate) := by
  unfold tokenWait
  split
  · rintro ⟨⟩
  · exact unfailing_toInt.bind fun _ => .pure _

end Unfailing

/-! ### The times that are told -/

section Times

variable {arithmetic : Arithmetic}

theorem toFloat_ok {number : ℤ} {float : ℚ} :
    toFloat arithmetic number = .ok float ↔
      arithmetic.round number = .finite float := by
  unfold toFloat
  cases arithmetic.round number <;> simp

/-- The time some seconds from now can be told: in floats, it is a time of a
year between 1 and 9999. -/
def Tellable (arithmetic : Arithmetic) (now : ℚ) (seconds : ℤ) : Prop :=
  ∃ float time, arithmetic.round seconds = .finite float ∧
    arithmetic.round (now + float) = .finite time ∧
    datetimeStart ≤ time ∧ time < datetimeEnd

/-- What tells a time answers when the time can be told. -/
theorem tells_iff {now : ℚ} {seconds : ℤ} (status : ℚ → RateLimitStatus) :
    (∃ answer, (do
      let resetAt ← timeAfter arithmetic now seconds
      pure (status resetAt) : Except PyException RateLimitStatus) =
        .ok answer) ↔ Tellable arithmetic now seconds := by
  unfold timeAfter toFloat Tellable
  cases arithmetic.round seconds with
  | above => simp [bind, Except.bind]
  | below => simp [bind, Except.bind]
  | finite float =>
      simp only [bind, Except.bind]
      unfold fromTimestamp
      cases rounds : arithmetic.round (now + float) with
      | above => simp [rounds]
      | below => simp [rounds]
      | finite time =>
          by_cases inside : datetimeStart ≤ time ∧ time < datetimeEnd
          · simp [rounds, inside, pure, Except.pure]
          · simp [rounds, inside]

/-- What is answered with a time is what was to be answered. -/
theorem told_status {told : Except PyException ℚ}
    {status : ℚ → RateLimitStatus} {answer : RateLimitStatus}
    (answered : (do
      let resetAt ← told
      pure (status resetAt) : Except PyException RateLimitStatus) =
        .ok answer) : ∃ resetAt, answer = status resetAt := by
  cases told with
  | error error => cases answered
  | ok resetAt =>
      cases answered
      exact ⟨resetAt, rfl⟩

/-- A status whose times can be told is told. -/
theorem isAllowed_told {now : ℚ} {seconds : ℤ} {allowed : Bool}
    {status : ℚ → RateLimitStatus}
    (same : ∀ resetAt, (status resetAt).allowed = allowed) :
    isAllowed (do
      let resetAt ← timeAfter arithmetic now seconds
      pure (status resetAt)) = true ↔
        allowed = true ∧ Tellable arithmetic now seconds := by
  rw [← tells_iff status]
  cases timeAfter arithmetic now seconds with
  | error error => simp [isAllowed, bind, Except.bind]
  | ok resetAt =>
      simp [isAllowed, bind, Except.bind, pure, Except.pure, same]

end Times

section Sliding

variable {arithmetic : Arithmetic} {keyPrefix suffix : String}
  {userId : UserId} {endpoint : String} {limit windowSeconds : ℤ}
  {window : ℚ} {store : RateLimitStore}

/-- Where the window of a check starts. -/
def windowStart (arithmetic : Arithmetic) (windowSeconds : ℤ) (now : ℚ) : ℚ :=
  ((arithmetic.round windowSeconds).andThen fun window =>
    arithmetic.round (now - window)).clip

theorem windowStart_eq (float : toFloat arithmetic windowSeconds = .ok window)
    (now : ℚ) :
    windowStart arithmetic windowSeconds now =
      (arithmetic.round (now - window)).clip := by
  rw [windowStart, toFloat_ok.mp float, Rounded.andThen]

/-- At a time that a clock shows, the window starts where it should. -/
theorem le_windowStart {now score : ℚ}
    (float : toFloat arithmetic windowSeconds = .ok window)
    (shown : arithmetic.shows now = true) (window_nonneg : 0 ≤ windowSeconds)
    (score_nonneg : 0 ≤ score) :
    score ≤ windowStart arithmetic windowSeconds now ↔
      score ≤ now - windowSeconds := by
  rw [windowStart_eq float]
  exact arithmetic.exact_start now windowSeconds window score shown
    window_nonneg (toFloat_ok.mp float) score_nonneg

/-- The log that a check counts. -/
def counted (arithmetic : Arithmetic) (keyPrefix suffix : String)
    (userId : UserId) (endpoint : String) (windowSeconds : ℤ)
    (store : RateLimitStore) : RequestLog :=
  store.logged (windowKey keyPrefix userId endpoint)
    (windowStart arithmetic windowSeconds store.clock) ⟨store.clock, suffix⟩

private theorem logged_sadd (key : String) (windowStart : ℚ)
    (member : WindowMember) (index : String) :
    (store.sadd userId index).logged key windowStart member =
      store.logged key windowStart member := by
  unfold logged
  have same : (store.sadd userId index).requests key = store.requests key :=
    requests_congr (by simp) (by simp)
  rw [same, sadd_clock]

@[simp] theorem checkSlidingWindow_clock :
    (checkSlidingWindow arithmetic keyPrefix suffix userId endpoint limit
      windowSeconds store).2.clock = store.clock := by
  unfold checkSlidingWindow
  dsimp only
  split
  · exact sadd_clock store _ _
  · split
    · simp
    · split <;> simp

/-- A check without an overflow leaves what its pipeline leaves. -/
theorem checkSlidingWindow_windows
    (float : toFloat arithmetic windowSeconds = .ok window) :
    (checkSlidingWindow arithmetic keyPrefix suffix userId endpoint limit
        windowSeconds store).2.windows =
      ((store.sadd userId (windowKey keyPrefix userId endpoint)).runWindow
        (windowKey keyPrefix userId endpoint)
        (windowStart arithmetic windowSeconds store.clock)
        ⟨store.clock, suffix⟩ (windowSeconds * 2)).2.windows := by
  rw [windowStart_eq float]
  unfold checkSlidingWindow
  simp only [float, sadd_clock]
  split
  · rfl
  · split <;> rfl

private theorem requests_overflow {error : PyException}
    (overflow : toFloat arithmetic windowSeconds = .error error) (clock : ℚ) :
    ((checkSlidingWindow arithmetic keyPrefix suffix userId endpoint limit
        windowSeconds store).2.tick clock).requests
          (windowKey keyPrefix userId endpoint) =
      (store.tick clock).requests (windowKey keyPrefix userId endpoint) := by
  apply requests_congr
  · unfold checkSlidingWindow
    simp [overflow]
  · rfl

variable (keyPrefix suffix userId endpoint limit store) in
/-- At a later time the path has the log that a check counted, or nothing. -/
theorem requests_checkSlidingWindow
    (float : toFloat arithmetic windowSeconds = .ok window) (clock : ℚ) :
    let key := windowKey keyPrefix userId endpoint
    let after := (checkSlidingWindow arithmetic keyPrefix suffix userId
      endpoint limit windowSeconds store).2.tick clock
    after.requests key =
        counted arithmetic keyPrefix suffix userId endpoint windowSeconds
          store ∨
      after.requests key = ∅ ∧
        (windowSeconds * 2 ≤ 0 ∨
          store.clock + (windowSeconds * 2 : ℤ) < clock ∨
          takesLifetime store.clock (windowSeconds * 2) = false ∧
            (store.tick clock).requests key = ∅) := by
  intro key after
  have left := requests_runWindow (store.sadd userId key) key
    (windowStart arithmetic windowSeconds store.clock) ⟨store.clock, suffix⟩
    (windowSeconds * 2) clock
  rw [logged_sadd, sadd_clock] at left
  have same : after.requests key =
      (((store.sadd userId key).runWindow key
        (windowStart arithmetic windowSeconds store.clock)
        ⟨store.clock, suffix⟩ (windowSeconds * 2)).2.tick clock).requests
          key := by
    apply requests_congr
    · simp only [after, tick_windows, checkSlidingWindow_windows float, key]
    · rfl
  have before : ((store.sadd userId key).tick clock).requests key =
      (store.tick clock).requests key :=
    requests_congr (by simp) rfl
  rw [same]
  rw [before] at left
  exact left

/-- The count that the pipeline of a check answers. -/
theorem runWindow_counted
    (float : toFloat arithmetic windowSeconds = .ok window) :
    ((store.sadd userId (windowKey keyPrefix userId endpoint)).runWindow
        (windowKey keyPrefix userId endpoint)
        (arithmetic.round (store.clock - window)).clip
        ⟨store.clock, suffix⟩ (windowSeconds * 2)).1 =
      if takesLifetime store.clock (windowSeconds * 2) then
        some (counted arithmetic keyPrefix suffix userId endpoint
          windowSeconds store).card
      else none := by
  rw [runWindow_count, logged_sadd, sadd_clock, counted, windowStart_eq float]

/-- A lifetime that the store refuses fails the check. -/
theorem answer_refused
    (float : toFloat arithmetic windowSeconds = .ok window)
    (refuses : takesLifetime store.clock (windowSeconds * 2) = false) :
    (checkSlidingWindow arithmetic keyPrefix suffix userId endpoint limit
      windowSeconds store).1 = .error .redisError := by
  unfold checkSlidingWindow
  simp only [float, sadd_clock, runWindow_counted float, refuses,
    Bool.false_eq_true, if_false]

/-- How long a client is told to wait: until the oldest entry of its log leaves
the window.  Without a window the log is gone by the time it is read. -/
def toldWait (arithmetic : Arithmetic) (windowSeconds : ℤ) (window now : ℚ)
    (log : RequestLog) : Except PyException ℤ :=
  if 0 < windowSeconds then
    windowWait arithmetic log windowSeconds window now
  else .ok windowSeconds

private theorem unfailing_toldWait {log : RequestLog} {windowSeconds : ℤ}
    {window now : ℚ} :
    Unfailing (toldWait arithmetic windowSeconds window now log) := by
  unfold toldWait
  split
  · exact unfailing_windowWait
  · exact .pure _

/-- A log with more entries than the limit turns the request away, and tells
when its next one may come. -/
theorem answer_rejected
    (float : toFloat arithmetic windowSeconds = .ok window)
    (takes : takesLifetime store.clock (windowSeconds * 2) = true)
    (more : limit < (counted arithmetic keyPrefix suffix userId endpoint
      windowSeconds store).card) :
    (checkSlidingWindow arithmetic keyPrefix suffix userId endpoint limit
        windowSeconds store).1 = (do
      let retryAfter ← toldWait arithmetic windowSeconds window store.clock
        (counted arithmetic keyPrefix suffix userId endpoint windowSeconds
          store)
      let resetAt ← timeAfter arithmetic store.clock retryAfter
      pure
        { allowed := false
          limit := limit
          remaining := 0
          resetAt := resetAt
          retryAfter := retryAfter
          algorithm := .slidingWindow } : Answer) := by
  unfold checkSlidingWindow
  simp only [float, sadd_clock, runWindow_counted float, takes, if_true, more]
  rw [requests_after_runWindow _ _ _ _ _ (by rwa [sadd_clock]), logged_sadd,
    ← windowStart_eq float, ← counted]
  unfold toldWait
  by_cases positive : 0 < windowSeconds
  · simp only [positive, show 0 < windowSeconds * 2 by omega, if_true]
  · simp only [positive, show ¬ 0 < windowSeconds * 2 by omega, if_false]
    rfl

theorem answer_allowed
    (float : toFloat arithmetic windowSeconds = .ok window)
    (takes : takesLifetime store.clock (windowSeconds * 2) = true)
    (few : ((counted arithmetic keyPrefix suffix userId endpoint windowSeconds
      store).card : ℤ) ≤ limit) :
    (checkSlidingWindow arithmetic keyPrefix suffix userId endpoint limit
        windowSeconds store).1 = (do
      let resetAt ← timeAfter arithmetic store.clock windowSeconds
      pure
        { allowed := true
          limit := limit
          remaining := max 0 (limit - (counted arithmetic keyPrefix suffix
            userId endpoint windowSeconds store).card)
          resetAt := resetAt
          algorithm := .slidingWindow } : Answer) := by
  unfold checkSlidingWindow
  simp only [float, sadd_clock, runWindow_counted float, takes, if_true,
    not_lt.mpr few, if_false]

theorem answer_overflow {error : PyException}
    (overflow : toFloat arithmetic windowSeconds = .error error) :
    (checkSlidingWindow arithmetic keyPrefix suffix userId endpoint limit
      windowSeconds store).1 = .error error := by
  unfold checkSlidingWindow
  simp only [overflow]

/-- A client that is told to wait is not let through. -/
theorem isAllowed_wait {wait : Except PyException ℤ} {now : ℚ}
    {status : ℤ → ℚ → RateLimitStatus}
    (turned : ∀ retryAfter resetAt,
      (status retryAfter resetAt).allowed = false) :
    isAllowed (do
      let retryAfter ← wait
      let resetAt ← timeAfter arithmetic now retryAfter
      pure (status retryAfter resetAt)) = false := by
  cases wait with
  | error error => rfl
  | ok retryAfter =>
      rw [Bool.eq_false_iff]
      intro allowed
      have told := (isAllowed_told (turned retryAfter)).mp allowed
      cases told.1

/-- A check lets a request through when its log has no more entries than the
limit. -/
theorem isAllowed_checkSlidingWindow :
    isAllowed (checkSlidingWindow arithmetic keyPrefix suffix userId endpoint
        limit windowSeconds store).1 = true ↔
      takesLifetime store.clock (windowSeconds * 2) = true ∧
        ((counted arithmetic keyPrefix suffix userId endpoint windowSeconds
          store).card : ℤ) ≤ limit ∧
        Tellable arithmetic store.clock windowSeconds := by
  cases float : toFloat arithmetic windowSeconds with
  | error error =>
      have untold : ¬ Tellable arithmetic store.clock windowSeconds := by
        rintro ⟨window, -, rounds, -⟩
        cases float.symm.trans (toFloat_ok.mpr rounds)
      simp [answer_overflow float, isAllowed, untold]
  | ok window =>
      cases takes : takesLifetime store.clock (windowSeconds * 2) with
      | false => simp [answer_refused float takes, isAllowed]
      | true =>
          rcases lt_or_ge limit ((counted arithmetic keyPrefix suffix userId
            endpoint windowSeconds store).card : ℤ) with more | few
          · rw [answer_rejected float takes more,
              isAllowed_wait (by intros; rfl)]
            simp [not_le.mpr more]
          · rw [answer_allowed float takes few]
            refine (isAllowed_told (by intros; rfl)).trans ?_
            simp [few]

/-- The store fails a check of the sliding window for its lifetime only. -/
theorem redisError_checkSlidingWindow 
    (float : toFloat arithmetic windowSeconds = .ok window) :
    (checkSlidingWindow arithmetic keyPrefix suffix userId endpoint limit
        windowSeconds store).1 = .error .redisError ↔
      takesLifetime store.clock (windowSeconds * 2) = false := by
  cases takes : takesLifetime store.clock (windowSeconds * 2) with
  | false => simp [answer_refused float takes]
  | true =>
      rw [iff_false_right (by simp)]
      rcases lt_or_ge limit ((counted arithmetic keyPrefix suffix userId
        endpoint windowSeconds store).card : ℤ) with more | few
      · rw [answer_rejected float takes more]
        exact unfailing_toldWait.bind fun _ =>
          unfailing_timeAfter.bind fun _ => .pure _
      · rw [answer_allowed float takes few]
        exact unfailing_timeAfter.bind fun _ => .pure _

theorem applyRule_sliding {rule : RateLimitRule} {multiplier : PyNumber}
    (sliding : rule.algorithm ≠ .tokenBucket)
    (effective : truncProduct rule.requests multiplier =
      .ok limit) :
    applyRule arithmetic keyPrefix suffix userId endpoint rule multiplier
        store =
      checkSlidingWindow arithmetic keyPrefix suffix userId endpoint limit
        rule.windowSeconds store := by
  unfold applyRule
  rw [effective]
  cases algorithm : rule.algorithm with
  | tokenBucket => exact absurd algorithm sliding
  | slidingWindow => rfl
  | fixedWindow => rfl
  | leakyBucket => rfl

end Sliding

/-! ### What the log has of the requests -/

section Logs

variable {arithmetic : Arithmetic} {keyPrefix suffix : String}
  {userId : UserId} {endpoint : String} {limit windowSeconds : ℤ}
  {window time : ℚ} {counts : Answer → Bool} {traffic : Traffic}

/-- The times of the entries that a check at a time finds on the path. -/
def entries (keyPrefix : String) (userId : UserId) (endpoint : String)
    (store : RateLimitStore) (clock : ℚ) : List ℚ :=
  ((store.tick clock).requests (windowKey keyPrefix userId endpoint)).scores

/-- Now and at any later time, the log has each request of the window whose
answer counts. -/
structure Covered (keyPrefix : String) (userId : UserId) (endpoint : String)
    (windowSeconds : ℤ) (counts : Answer → Bool) (traffic : Traffic) :
    Prop where
  past : ∀ moment ∈ timesOf counts traffic.answers,
    moment ≤ traffic.store.clock
  covers : ∀ clock, traffic.store.clock ≤ clock →
    Covers (windowSeconds : ℚ) clock (timesOf counts traffic.answers)
      (entries keyPrefix userId endpoint traffic.store clock)

/-- At a time that a clock shows, a check drops what is as old as the
window. -/
theorem scores_counted {store : RateLimitStore}
    (float : toFloat arithmetic windowSeconds = .ok window)
    (shown : arithmetic.shows store.clock = true)
    (window_nonneg : 0 ≤ windowSeconds)
    (fresh : (⟨store.clock, suffix⟩ : WindowMember) ∉
      store.requests (windowKey keyPrefix userId endpoint)) :
    (counted arithmetic keyPrefix suffix userId endpoint windowSeconds
        store).scores =
      store.clock ::
        (entries keyPrefix userId endpoint store store.clock).filter
          fun score =>
            !(decide (0 ≤ score) &&
              decide (score ≤ store.clock - windowSeconds)) := by
  rw [counted, logged, ScoredSet.scores_add fun member =>
    fresh (ScoredSet.mem_of_mem_removeRange member),
    ScoredSet.scores_removeRange]
  congr 1
  apply List.filter_congr
  intro score _
  by_cases score_nonneg : 0 ≤ score
  · simp only [le_windowStart float shown window_nonneg score_nonneg]
  · simp [score_nonneg]

/-- A check counts the entries within the window, and its own. -/
theorem card_counted_of_nonneg {store : RateLimitStore}
    (float : toFloat arithmetic windowSeconds = .ok window)
    (shown : arithmetic.shows store.clock = true)
    (window_nonneg : 0 ≤ windowSeconds)
    (fresh : (⟨store.clock, suffix⟩ : WindowMember) ∉
      store.requests (windowKey keyPrefix userId endpoint))
    (nonneg : ∀ score ∈ entries keyPrefix userId endpoint store store.clock,
      0 ≤ score) :
    (counted arithmetic keyPrefix suffix userId endpoint windowSeconds
        store).card =
      countAfter (store.clock - windowSeconds)
        (entries keyPrefix userId endpoint store store.clock) + 1 := by
  have kept : (entries keyPrefix userId endpoint store store.clock).filter
      (fun score => !(decide (0 ≤ score) &&
        decide (score ≤ store.clock - windowSeconds))) =
      (entries keyPrefix userId endpoint store store.clock).filter
        fun score => decide (store.clock - windowSeconds < score) := by
    apply List.filter_congr
    intro score member
    simp only [nonneg score member, decide_true, Bool.true_and]
    rw [← decide_not, decide_eq_decide]
    exact not_le
  rw [← ScoredSet.length_scores,
    scores_counted float shown window_nonneg fresh, List.length_cons, kept,
    ← List.countP_eq_length_filter]
  rfl

/-- Pruning leaves what is in the window. -/
theorem countAfter_pruned {bound clock : ℚ} (log : List ℚ)
    (late : clock - windowSeconds ≤ bound) :
    countAfter bound (log.filter fun score =>
        !(decide (0 ≤ score) && decide (score ≤ clock - windowSeconds))) =
      countAfter bound log := by
  apply countAfter_filter
  intro score _ after
  have inside : ¬ score ≤ clock - windowSeconds :=
    not_le.mpr (lt_of_le_of_lt late after)
  simp [inside]

namespace Covered

/-- Before the first request there is nothing to cover. -/
theorem start (store : RateLimitStore) :
    Covered keyPrefix userId endpoint windowSeconds counts ⟨store, []⟩ where
  past moment member := by cases member
  covers clock _ := Covers.start _ _ _

/-- What happens elsewhere leaves the log of the path. -/
theorem elsewhere {store : RateLimitStore}
    (covered : Covered keyPrefix userId endpoint windowSeconds counts traffic)
    (ordered : traffic.store.clock ≤ store.clock)
    (same : store.windows (windowKey keyPrefix userId endpoint) =
      traffic.store.windows (windowKey keyPrefix userId endpoint)) :
    Covered keyPrefix userId endpoint windowSeconds counts
      { traffic with store := store } where
  past moment member := le_trans (covered.past moment member) ordered
  covers clock late := by
    have kept : entries keyPrefix userId endpoint store clock =
        entries keyPrefix userId endpoint traffic.store clock :=
      congrArg ScoredSet.scores (requests_congr same rfl)
    rw [kept]
    exact covered.covers clock (le_trans ordered late)

/-- A check adds its request to the log, and drops nothing that the window
still needs. -/
theorem request {answer : Answer}
    (covered : Covered keyPrefix userId endpoint windowSeconds counts traffic)
    (shown : arithmetic.shows time = true) (window_nonneg : 0 ≤ windowSeconds)
    (ordered : traffic.store.clock ≤ time)
    (fresh : (⟨time, suffix⟩ : WindowMember) ∉ (traffic.store.tick
      time).requests (windowKey keyPrefix userId endpoint))
    (written : counts answer = true →
      (∃ window, toFloat arithmetic windowSeconds = .ok window) ∧
        takesLifetime time (windowSeconds * 2) = true) :
    Covered keyPrefix userId endpoint windowSeconds counts
      ⟨(checkSlidingWindow arithmetic keyPrefix suffix userId endpoint limit
          windowSeconds (traffic.store.tick time)).2,
        (time, answer) :: traffic.answers⟩ := by
  have past : ∀ moment ∈ timesOf counts ((time, answer) :: traffic.answers),
      moment ≤ time := by
    intro moment member
    rw [timesOf_cons] at member
    split at member
    · rcases List.mem_cons.mp member with rfl | earlier
      · exact le_refl _
      · exact le_trans (covered.past moment earlier) ordered
    · exact le_trans (covered.past moment member) ordered
  refine ⟨by simpa using past, ?_⟩
  simp only [checkSlidingWindow_clock, tick_clock]
  intro clock late
  have before := covered.covers clock (le_trans ordered late)
  cases float : toFloat arithmetic windowSeconds with
  | error error =>
      have uncounted : ¬ counts answer = true := by
        intro counted
        obtain ⟨⟨window, rounds⟩, -⟩ := written counted
        cases float.symm.trans rounds
      rw [timesOf_cons, if_neg uncounted, entries, requests_overflow float]
      exact before
  | ok window =>
      rcases requests_checkSlidingWindow keyPrefix suffix userId endpoint
        limit (traffic.store.tick time) float clock with
        logged | ⟨gone, reason⟩
      · -- the entries that the pruning drops are older than the window
        rw [entries, logged, scores_counted float shown window_nonneg fresh]
        have kept : Covers (windowSeconds : ℚ) time
            (timesOf counts traffic.answers) _ :=
          (covered.covers time ordered).keep fun bound reaches =>
            le_of_eq (countAfter_pruned _ reaches).symm
        rw [timesOf_cons]
        split
        · exact (kept.accept time).later late
        · exact (kept.reject time).later late
      · rw [entries, gone, ScoredSet.scores_empty]
        rcases reason with deleted | lapsed | ⟨refused, empty⟩
        · have nonpositive : (windowSeconds : ℚ) ≤ 0 := by
            exact_mod_cast (by omega : windowSeconds ≤ 0)
          apply Covers.old
          intro moment member
          have ended := le_trans (past moment member) late
          linarith
        · apply Covers.old
          intro moment member
          have ended := past moment member
          push_cast at lapsed
          simp only [tick_clock] at lapsed
          have length_nonneg : (0 : ℚ) ≤ windowSeconds :=
            Int.cast_nonneg window_nonneg
          linarith
        · have uncounted : ¬ counts answer = true := fun counted => by
            cases (written counted).2.symm.trans refused
          have empty : (traffic.store.tick clock).requests
              (windowKey keyPrefix userId endpoint) = ∅ := empty
          rw [entries, empty] at before
          rw [timesOf_cons, if_neg uncounted]
          exact before

end Covered

end Logs

/-! ### Runs of requests -/

section Runs

variable {arithmetic : Arithmetic} {keyPrefix : String} {userId : UserId}
  {endpoint : String}
  {check : String → RateLimitStore → Answered RateLimitStatus}

/-- What a step can do. -/
theorem step_cases {traffic next : Traffic} {event : Event}
    (stepped : (limiter arithmetic keyPrefix userId endpoint check).step
      traffic event = some next) :
    (∃ store, event = .elsewhere store ∧
      traffic.store.clock ≤ store.clock ∧
      store.windows (windowKey keyPrefix userId endpoint) =
        traffic.store.windows (windowKey keyPrefix userId endpoint) ∧
      store.buckets (bucketKey keyPrefix userId endpoint) =
        traffic.store.buckets (bucketKey keyPrefix userId endpoint) ∧
      next = { traffic with store := store }) ∨
    (∃ time suffix, event = .request time suffix ∧
      arithmetic.shows time = true ∧ traffic.store.clock ≤ time ∧
      (⟨time, suffix⟩ : WindowMember) ∉ (traffic.store.tick time).requests
        (windowKey keyPrefix userId endpoint) ∧
      next = ⟨(check suffix (traffic.store.tick time)).2,
        (time, (check suffix (traffic.store.tick time)).1) ::
          traffic.answers⟩) := by
  cases event with
  | elsewhere store =>
      obtain ⟨⟨ordered, windows, buckets⟩, same⟩ :=
        Option.ite_none_right_eq_some.mp stepped
      exact .inl ⟨store, rfl, ordered, windows, buckets,
        (Option.some.inj same).symm⟩
  | request time suffix =>
      obtain ⟨⟨shown, ordered, fresh⟩, same⟩ :=
        Option.ite_none_right_eq_some.mp stepped
      exact .inr ⟨time, suffix, rfl, shown, ordered, fresh,
        (Option.some.inj same).symm⟩

variable {windowSeconds limit : ℤ} {window : ℚ}

/-- The log covers what was let through, which stays within the limit in every
interval of the window's length. -/
structure Limited (keyPrefix : String) (userId : UserId) (endpoint : String)
    (limit windowSeconds : ℤ) (traffic : Traffic) : Prop where
  covered : Covered keyPrefix userId endpoint windowSeconds isAllowed traffic
  bounded : Bounded (windowSeconds : ℚ) limit.toNat traffic.allowed

/-- A request that is let through found room in the log. -/
theorem room_of_allowed {suffix : String} (store : RateLimitStore)
    (shown : arithmetic.shows store.clock = true)
    (window_nonneg : 0 ≤ windowSeconds)
    (fresh : (⟨store.clock, suffix⟩ : WindowMember) ∉
      store.requests (windowKey keyPrefix userId endpoint))
    (allowed : isAllowed (checkSlidingWindow arithmetic keyPrefix suffix
      userId endpoint limit windowSeconds store).1 = true) :
    countAfter (store.clock - windowSeconds)
      (entries keyPrefix userId endpoint store store.clock) + 1 ≤
        limit.toNat := by
  obtain ⟨-, few, told⟩ := isAllowed_checkSlidingWindow.mp allowed
  obtain ⟨window, -, float, -⟩ := told
  rw [← ScoredSet.length_scores,
    scores_counted (toFloat_ok.mpr float) shown window_nonneg fresh,
    List.length_cons] at few
  have pruned := countAfter_pruned
    (entries keyPrefix userId endpoint store store.clock)
    (le_refl (store.clock - windowSeconds))
  have shorter : countAfter (store.clock - windowSeconds)
      ((entries keyPrefix userId endpoint store store.clock).filter
        fun score => !(decide (0 ≤ score) &&
          decide (score ≤ store.clock - windowSeconds))) ≤ _ :=
    List.countP_le_length
  omega

theorem Limited.step {rule : RateLimitRule} {multiplier : PyNumber}
    (sliding : rule.algorithm ≠ .tokenBucket)
    (effective : truncProduct rule.requests multiplier = .ok limit)
    (window_nonneg : 0 ≤ rule.windowSeconds)
    {traffic next : Traffic} {event : Event}
    (limited : Limited keyPrefix userId endpoint limit rule.windowSeconds
      traffic)
    (stepped : (limiter arithmetic keyPrefix userId endpoint fun suffix =>
      applyRule arithmetic keyPrefix suffix userId endpoint rule
        multiplier).step traffic event = some next) :
    Limited keyPrefix userId endpoint limit rule.windowSeconds next := by
  rcases step_cases stepped with
    ⟨store, -, ordered, windows, -, rfl⟩ |
    ⟨time, suffix, -, shown, ordered, fresh, rfl⟩
  · exact ⟨limited.covered.elsewhere ordered windows, limited.bounded⟩
  · rw [applyRule_sliding sliding effective]
    have written (allowed : isAllowed (checkSlidingWindow arithmetic keyPrefix
        suffix userId endpoint limit rule.windowSeconds
        (traffic.store.tick time)).1 = true) :
        (∃ window, toFloat arithmetic rule.windowSeconds = .ok window) ∧
          takesLifetime time (rule.windowSeconds * 2) = true :=
      have ⟨takes, _, window, _, float, _⟩ :=
        isAllowed_checkSlidingWindow.mp allowed
      ⟨⟨window, toFloat_ok.mpr float⟩, takes⟩
    refine ⟨limited.covered.request shown window_nonneg ordered fresh written,
      ?_⟩
    rw [Traffic.allowed, timesOf_cons]
    split
    case isTrue allowed =>
      have room := room_of_allowed (traffic.store.tick time) shown
        window_nonneg fresh allowed
      exact limited.bounded.accept (limited.covered.covers time ordered) room
    case isFalse => exact limited.bounded

/-- However a user's requests to a path under a sliding window come, no
half-open interval of the window's length has more than the limit of them let
through. -/
theorem sliding_window_bound (arithmetic : Arithmetic) (keyPrefix : String)
    (userId : UserId) (endpoint : String) (rule : RateLimitRule)
    (multiplier : PyNumber) (limit : ℤ)
    (sliding : rule.algorithm ≠ .tokenBucket)
    (effective : truncProduct rule.requests multiplier = .ok limit)
    (start : RateLimitStore) (events : List Event) (traffic : Traffic)
    (reached : (limiter arithmetic keyPrefix userId endpoint fun suffix =>
      applyRule arithmetic keyPrefix suffix userId endpoint rule
        multiplier).run ⟨start, []⟩ events = some traffic) (first : ℚ) :
    (countFrom first (rule.windowSeconds : ℚ) traffic.allowed : ℤ) ≤
        max 0 limit ∧
      (countUpTo first (rule.windowSeconds : ℚ) traffic.allowed : ℤ) ≤
        max 0 limit := by
  have bounded : Bounded (rule.windowSeconds : ℚ) limit.toNat
      traffic.allowed := by
    rcases lt_or_ge rule.windowSeconds 0 with negative | window_nonneg
    · exact Bounded.of_nonpos (Int.cast_nonpos.mpr negative.le) _ _
    · have limited : Limited keyPrefix userId endpoint limit
          rule.windowSeconds traffic := by
        apply (limiter arithmetic keyPrefix userId endpoint fun suffix =>
          applyRule arithmetic keyPrefix suffix userId endpoint rule
            multiplier).run_invariant' _
          (fun state label next limited stepped =>
            limited.step sliding effective window_nonneg stepped) _ reached
        exact ⟨Covered.start start, Bounded.start _ _⟩
      exact limited.bounded
  have bounded := bounded first
  omega

/-- A rule for two requests a minute. -/
def twoAMinute : RateLimitRule where
  endpointPattern := "^/api"
  requests := 2
  windowSeconds := 60

/-- Of three requests within a minute two are let through. -/
theorem sliding_window_bound_busy :
    ∃ traffic, (limiter .doubles "limit:" "user" "/api" fun suffix =>
        applyRule .doubles "limit:" suffix "user" "/api" twoAMinute
          (.finite 1)).run ⟨{}, []⟩
            [.request 0 "a", .request 30 "b", .request 59 "c"] =
        some traffic ∧ traffic.allowed = [30, 0] ∧
      (countFrom 0 (twoAMinute.windowSeconds : ℚ) traffic.allowed : ℤ) ≤
        max 0 2 := by
  obtain ⟨traffic, reached, allowed⟩ := Option.map_eq_some_iff.mp
    (show ((limiter .doubles "limit:" "user" "/api" fun suffix =>
        applyRule .doubles "limit:" suffix "user" "/api" twoAMinute
          (.finite 1)).run ⟨{}, []⟩
            [.request 0 "a", .request 30 "b", .request 59 "c"]).map
            Traffic.allowed = some [30, 0] by decide +kernel)
  exact ⟨traffic, reached, allowed,
    (sliding_window_bound .doubles "limit:" "user" "/api" twoAMinute
      (.finite 1) 2 (by decide) (by decide +kernel) {} _ traffic reached
      0).1⟩

end Runs

end Integr8s.RequestLimits
