/-
Module: Integr8s.Infrastructure.RateLimitStore
Purpose: What the rate limiter keeps in the in-memory store, the commands it
  gives the store, and when a key is gone: the logs of requests, the buckets
  of tokens, the index of a user's keys and the configuration.
Trusted boundary: human-reviewed spec
Main exports: RateLimitStore, Lasting, Lasting.isAlive, Bucket,
  RateLimitStore.window, RateLimitStore.bucket, RateLimitStore.runWindow,
  RateLimitStore.evalTokenBucket, RateLimitStore.tick,
  RateLimitStore.requests_runWindow
-/
import Integr8s.Domain.RateLimit
import Integr8s.Lib.Rounding
import Integr8s.Lib.ScoredSet

namespace Integr8s

/-- A value with its expiry, in milliseconds since the epoch. -/
structure Lasting (Value : Type) where
  value : Value
  expiresAt : Option ℤ := none
deriving DecidableEq

/-- The store's clock counts whole milliseconds. -/
def millis (clock : ℚ) : ℤ := ⌊clock * 1000⌋

/-- A key is gone once the clock is past its expiry. -/
def Lasting.isAlive {Value : Type} (entry : Lasting Value) (clock : ℚ) :
    Bool :=
  match entry.expiresAt with
  | none => true
  | some expiresAt => decide (millis clock ≤ expiresAt)

/-- One recorded request: its time and a random suffix. -/
structure WindowMember where
  time : ℚ
  suffix : String
deriving DecidableEq, Repr

/-- The recorded requests, scored by their times. -/
abbrev RequestLog := ScoredSet WindowMember ℚ

/-- A bucket of tokens and when it was last refilled. -/
structure Bucket where
  tokens : ℚ
  lastRefill : ℚ
deriving DecidableEq, Repr

/-- The store and the clock.  Times are seconds since the epoch.  A bucket
whose text is no bucket is `none`.  The configuration and
the overrides are what their JSON is read back to, and the index of a user has
the keys of the user's counters. -/
structure RateLimitStore where
  clock : ℚ := 0
  config : Option RateLimitConfig := none
  userOverrides : AList fun _ : UserId => UserRateLimit := ∅
  index : UserId → List String := fun _ => []
  windows : String → Option (Lasting RequestLog) := fun _ => none
  buckets : String → Option (Lasting (Option Bucket)) := fun _ => none

namespace RateLimitStore

/-- The greatest signed number of 64 bits. -/
def maxInt64 : ℤ := 2 ^ 63 - 1

/-- The end of a lifetime in seconds. -/
def lifetimeEnd (clock : ℚ) (ttl : ℤ) : ℤ := millis clock + ttl * 1000

/-- Whether the store takes a lifetime: in milliseconds it and its end must be
signed numbers of 64 bits. -/
def takesLifetime (clock : ℚ) (ttl : ℤ) : Bool :=
  decide (-maxInt64 ≤ ttl * 1000 ∧ lifetimeEnd clock ttl ≤ maxInt64)

/-- `SADD` to the index of a user. -/
def sadd (store : RateLimitStore) (userId : UserId) (key : String) :
    RateLimitStore :=
  if key ∈ store.index userId then store
  else
    { store with
      index := Function.update store.index userId
        (store.index userId ++ [key]) }

/-- The log that a command finds. -/
def window (store : RateLimitStore) (key : String) :
    Option (Lasting RequestLog) :=
  (store.windows key).filter fun entry => entry.isAlive store.clock

/-- The requests of a log; a key that is gone has none. -/
def requests (store : RateLimitStore) (key : String) : RequestLog :=
  match store.window key with
  | none => ∅
  | some entry => entry.value

/-- The bucket that a command finds. -/
def bucket (store : RateLimitStore) (key : String) :
    Option (Option Bucket) :=
  ((store.buckets key).filter fun entry =>
    entry.isAlive store.clock).map Lasting.value

/-- The pipeline of a window check: drop what is older than the window, add
the request, count, and refresh the lifetime; a lifetime that is not positive
deletes the key.  The answer is the count, or `none` when the store refuses the
lifetime; the other commands have taken effect even then. -/
def runWindow (store : RateLimitStore) (key : String) (windowStart : ℚ)
    (member : WindowMember) (ttl : ℤ) : Option Nat × RateLimitStore :=
  let log := ((store.requests key).removeRange 0 windowStart).add member
    store.clock
  if takesLifetime store.clock ttl then
    (some log.card,
      { store with
        windows := Function.update store.windows key
          (if 0 < ttl then some ⟨log, some (lifetimeEnd store.clock ttl)⟩
          else none) })
  else
    (none,
      { store with
        windows := Function.update store.windows key
          (some ⟨log, (store.window key).bind Lasting.expiresAt⟩) })

section Script

variable (arithmetic : Arithmetic)

/-- The tokens of a bucket after the refill up to now, no more than it holds;
without a bucket it is full. -/
def refilled (bucket : Option (Option Bucket)) (maxTokens refillRate
    now : ℚ) : Rounded :=
  match bucket with
  | some (some bucket) =>
      let timePassed := arithmetic.round (now - bucket.lastRefill)
      let flown := timePassed.andThen fun timePassed =>
        arithmetic.round (timePassed * refillRate)
      let tokens := flown.andThen fun flown =>
        arithmetic.round (bucket.tokens + flown)
      tokens.atMost maxTokens
  | _ => .finite maxTokens

/-- What is left of the tokens of a request. -/
def spent (tokens : ℚ) : ℚ :=
  if 1 ≤ tokens then (arithmetic.round (tokens - 1)).clip else tokens

/-- The script of the token bucket: refill, take a token if there is one, and
store the bucket.  The answer is whether the request is allowed and the tokens
that are left, or `none` when the script fails, with nothing written: the store
refuses the lifetime, or the JSON encoder the number.  Numbers are stored and
answered with 14 digits. -/
def evalTokenBucket (store : RateLimitStore) (key : String)
    (maxTokens refillRate now : ℚ) (ttl : ℤ) :
    Option (Bool × ℚ) × RateLimitStore :=
  match refilled arithmetic (store.bucket key) maxTokens refillRate now with
  | .finite tokens =>
      let left := arithmetic.written (spent arithmetic tokens)
      if 0 < ttl ∧ takesLifetime store.clock ttl = true then
        (some (decide (1 ≤ tokens), left),
          { store with
            buckets := Function.update store.buckets key
              (some ⟨some ⟨left, arithmetic.written now⟩,
                some (lifetimeEnd store.clock ttl)⟩) })
      else (none, store)
  | .above | .below => (none, store)

end Script

/-! ### What the commands do -/

/-- The store when its clock shows a time. -/
def tick (store : RateLimitStore) (clock : ℚ) : RateLimitStore :=
  { store with clock := clock }

section Commands

variable (store : RateLimitStore)

@[simp] theorem tick_clock (clock : ℚ) : (store.tick clock).clock = clock :=
  rfl

@[simp] theorem tick_windows (clock : ℚ) :
    (store.tick clock).windows = store.windows := rfl

@[simp] theorem tick_buckets (clock : ℚ) :
    (store.tick clock).buckets = store.buckets := rfl

@[simp] theorem sadd_clock (userId : UserId) (key : String) :
    (store.sadd userId key).clock = store.clock := by
  unfold sadd; split <;> rfl

@[simp] theorem tick_config (clock : ℚ) :
    (store.tick clock).config = store.config := rfl

@[simp] theorem tick_userOverrides (clock : ℚ) :
    (store.tick clock).userOverrides = store.userOverrides := rfl

@[simp] theorem tick_index (clock : ℚ) :
    (store.tick clock).index = store.index := rfl

@[simp] theorem sadd_config (userId : UserId) (key : String) :
    (store.sadd userId key).config = store.config := by
  unfold sadd; split <;> rfl

@[simp] theorem sadd_userOverrides (userId : UserId) (key : String) :
    (store.sadd userId key).userOverrides = store.userOverrides := by
  unfold sadd; split <;> rfl

/-- The index of the user has the key besides what it had. -/
theorem mem_sadd {userId : UserId} {key other : String} :
    other ∈ (store.sadd userId key).index userId ↔
      other = key ∨ other ∈ store.index userId := by
  unfold sadd
  split
  case isTrue inside =>
    refine ⟨.inr, ?_⟩
    rintro (rfl | member)
    · exact inside
    · exact member
  case isFalse =>
    simp [or_comm]

@[simp] theorem sadd_windows (userId : UserId) (key : String) :
    (store.sadd userId key).windows = store.windows := by
  unfold sadd; split <;> rfl

@[simp] theorem sadd_buckets (userId : UserId) (key : String) :
    (store.sadd userId key).buckets = store.buckets := by
  unfold sadd; split <;> rfl

/-- What a store has of a key's log depends on the key and the clock. -/
theorem requests_congr {store other : RateLimitStore} {key : String}
    (windows : store.windows key = other.windows key)
    (clock : store.clock = other.clock) :
    store.requests key = other.requests key := by
  simp [requests, window, windows, clock]

/-- What a store has of a key's bucket depends on the key and the clock. -/
theorem bucket_congr {store other : RateLimitStore} {key : String}
    (buckets : store.buckets key = other.buckets key)
    (clock : store.clock = other.clock) :
    store.bucket key = other.bucket key := by
  simp [bucket, buckets, clock]

section Aliveness

variable {store : RateLimitStore} {key : String} {entry : Lasting RequestLog}

theorem requests_of_none (stored : store.windows key = none) :
    store.requests key = ∅ := by
  simp [requests, window, stored]

private theorem requests_of_alive (stored : store.windows key = some entry)
    (lives : entry.isAlive store.clock = true) :
    store.requests key = entry.value := by
  simp only [requests, window, stored, Option.filter_some, lives, if_true]

private theorem requests_of_gone (stored : store.windows key = some entry)
    (gone : entry.isAlive store.clock = false) :
    store.requests key = ∅ := by
  simp only [requests, window, stored, Option.filter_some, gone,
    Bool.false_eq_true, if_false]

variable {filled : Lasting (Option Bucket)}

theorem bucket_of_none (stored : store.buckets key = none) :
    store.bucket key = none := by
  simp [bucket, stored]

theorem bucket_of_alive (stored : store.buckets key = some filled)
    (lives : filled.isAlive store.clock = true) :
    store.bucket key = some filled.value := by
  simp only [bucket, stored, Option.filter_some, lives, if_true,
    Option.map_some]

theorem bucket_of_gone (stored : store.buckets key = some filled)
    (gone : filled.isAlive store.clock = false) :
    store.bucket key = none := by
  simp only [bucket, stored, Option.filter_some, gone, Bool.false_eq_true,
    if_false, Option.map_none]

end Aliveness

/-- A lifetime that is over has lasted. -/
theorem lasted {now later : ℚ} {ttl : ℤ}
    (isOver : lifetimeEnd now ttl < millis later) : now + ttl < later := by
  have begun := Int.lt_floor_add_one (now * 1000)
  have ended := Int.floor_le (later * 1000)
  have isOver : ((⌊now * 1000⌋ + ttl * 1000 + 1 : ℤ) : ℚ) ≤
      ((⌊later * 1000⌋ : ℤ) : ℚ) := Int.cast_le.mpr isOver
  push_cast at isOver
  linarith

section Window

/-- The log that the pipeline of a window check counts. -/
def logged (key : String) (windowStart : ℚ) (member : WindowMember) :
    RequestLog :=
  ((store.requests key).removeRange 0 windowStart).add member store.clock

variable (key : String) (windowStart : ℚ) (member : WindowMember) (ttl : ℤ)

/-- The pipeline writes the log and nothing else. -/
theorem runWindow_eq :
    ∃ windows, (store.runWindow key windowStart member ttl).2 =
      { store with windows := windows } := by
  unfold runWindow
  split <;> exact ⟨_, rfl⟩

theorem runWindow_count :
    (store.runWindow key windowStart member ttl).1 =
      if takesLifetime store.clock ttl then
        some (store.logged key windowStart member).card
      else none := by
  unfold runWindow logged
  split <;> rfl

@[simp] theorem runWindow_clock :
    (store.runWindow key windowStart member ttl).2.clock = store.clock := by
  unfold runWindow
  split <;> rfl

@[simp] theorem runWindow_buckets :
    (store.runWindow key windowStart member ttl).2.buckets =
      store.buckets := by
  unfold runWindow
  split <;> rfl

/-- At a later time a key has what the pipeline left, or it is gone: it was
deleted, its lifetime is over, or what was there before would be gone as
well. -/
theorem requests_runWindow (clock : ℚ) :
    let after := (store.runWindow key windowStart member ttl).2.tick clock
    after.requests key = store.logged key windowStart member ∨
      after.requests key = ∅ ∧
        (ttl ≤ 0 ∨ store.clock + ttl < clock ∨
          takesLifetime store.clock ttl = false ∧
            (store.tick clock).requests key = ∅) := by
  intro after
  have left : after.windows key =
      if takesLifetime store.clock ttl then
        if 0 < ttl then
          some ⟨store.logged key windowStart member,
            some (lifetimeEnd store.clock ttl)⟩
        else none
      else some ⟨store.logged key windowStart member,
        (store.window key).bind Lasting.expiresAt⟩ := by
    simp only [after, tick_windows, runWindow]
    split <;> simp [logged]
  by_cases takes : takesLifetime store.clock ttl = true
  · rw [if_pos takes] at left
    by_cases positive : 0 < ttl
    · rw [if_pos positive] at left
      by_cases lives : millis clock ≤ lifetimeEnd store.clock ttl
      · exact .inl (requests_of_alive left (decide_eq_true lives))
      · exact .inr ⟨requests_of_gone left (decide_eq_false lives),
          .inr (.inl (lasted (not_le.mp lives)))⟩
    · rw [if_neg positive] at left
      exact .inr ⟨requests_of_none left, .inl (not_lt.mp positive)⟩
  · rw [if_neg takes] at left
    cases found : store.window key with
    | none =>
        rw [found] at left
        exact .inl (requests_of_alive left rfl)
    | some entry =>
        rw [found] at left
        by_cases lives : entry.isAlive clock = true
        · exact .inl (requests_of_alive left lives)
        · have stored := (Option.filter_eq_some_iff.mp found).1
          have gone := eq_false_of_ne_true lives
          exact .inr ⟨requests_of_gone left gone,
            .inr (.inr ⟨eq_false_of_ne_true takes,
              requests_of_gone stored gone⟩)⟩

/-- Right after the pipeline a key has what it counted, if it has a lifetime
at all. -/
theorem requests_after_runWindow
    (takes : takesLifetime store.clock ttl = true) :
    (store.runWindow key windowStart member ttl).2.requests key =
      if 0 < ttl then store.logged key windowStart member else ∅ := by
  by_cases positive : 0 < ttl
  · have left : (store.runWindow key windowStart member ttl).2.windows key =
        some ⟨store.logged key windowStart member,
          some (lifetimeEnd store.clock ttl)⟩ := by
      simp [runWindow, takes, positive, logged]
    have lives : millis store.clock ≤ lifetimeEnd store.clock ttl := by
      unfold lifetimeEnd
      omega
    rw [if_pos positive]
    exact requests_of_alive left (by
      rw [runWindow_clock]
      exact decide_eq_true lives)
  · rw [if_neg positive]
    apply requests_of_none
    simp [runWindow, takes, positive]

end Window

section Token

variable (arithmetic : Arithmetic) (key : String)
  (maxTokens refillRate now : ℚ) (ttl : ℤ)

@[simp] theorem evalTokenBucket_clock :
    (evalTokenBucket arithmetic store key maxTokens refillRate now
      ttl).2.clock = store.clock := by
  unfold evalTokenBucket
  split
  · dsimp only
    split <;> rfl
  · rfl
  · rfl

@[simp] theorem evalTokenBucket_windows :
    (evalTokenBucket arithmetic store key maxTokens refillRate now
      ttl).2.windows = store.windows := by
  unfold evalTokenBucket
  split
  · dsimp only
    split <;> rfl
  · rfl
  · rfl

end Token

end Commands

end RateLimitStore

end Integr8s
