/-
Module: Integr8s.Proofs.UserFilters
Purpose: Which users the admin's list has: those that satisfy every filter
  given, in number and over its pages, where a user without an override counts
  as having the default limits.
Trusted boundary: none
Main exports: UserFilters.Satisfies, UserFilters.filters_select_exactly
-/
import Integr8s.Services.AdminUsers

namespace Integr8s.UserFilters

open AdminUserService RateLimitService Paging

/-! ### What the filters ask for -/

/-- A multiplier other than 1. -/
def hasCustomMultiplier (limit : UserRateLimit) : Bool :=
  !limit.globalMultiplier.isClose 1

/-- Limits other than the default ones. -/
def hasCustomLimits (limit : UserRateLimit) : Bool :=
  limit.bypassRateLimit || hasCustomMultiplier limit || !limit.rules.isEmpty

/-- A filter that isn't given is satisfied by everyone. -/
def Wants (wanted : Option Bool) (value : Bool) : Bool :=
  wanted.all fun wanted => value == wanted

/-- A user's limits satisfy the rate limit filters. -/
def SatisfiesLimits (filters : RateLimitFilters) (limit : UserRateLimit) :
    Bool :=
  Wants filters.bypassRateLimit limit.bypassRateLimit &&
  Wants filters.hasCustomLimits (hasCustomLimits limit) &&
  Wants filters.customMultiplier (hasCustomMultiplier limit)

/-- A user satisfies every filter of a query. -/
def Satisfies (finds : String → UserDocument → Bool)
    (config : RateLimitConfig) (query : UserQuery) (user : UserDocument) :
    Bool :=
  ((query.search.filter fun text => text ≠ "").all fun text =>
    finds text user) &&
  (query.role.all fun role => user.role == role) &&
  (query.isActive.all fun isActive => user.isActive == isActive) &&
  SatisfiesLimits query.rateLimit (userLimit config user.userId)

/-! ### What the filters select -/

/-- A user is kept and not dropped. -/
def Selects (selection : Selection) (userId : UserId) : Bool :=
  (selection.1.all fun keep => decide (userId ∈ keep)) &&
    !decide (userId ∈ selection.2)

section Narrowing

variable {userId : UserId}

/-- One filter selects, of those that the others select, the users who match
it, or who don't. -/
theorem selects_narrow (selection : Selection)
    (filter : Option Bool × Finset UserId) :
    Selects (narrow selection filter) userId =
      (Selects selection userId &&
        Wants filter.1 (decide (userId ∈ filter.2))) := by
  obtain ⟨keep, drop⟩ := selection
  obtain ⟨wanted, matching⟩ := filter
  cases wanted with
  | none => simp [narrow, Wants]
  | some wanted =>
      rw [Bool.eq_iff_iff]
      cases wanted with
      | true =>
          cases keep with
          | none =>
              simp only [narrow]
              simp [Selects, Wants, and_comm]
          | some keep =>
              simp only [narrow]
              simp [Selects, Wants, and_right_comm]
      | false =>
          cases keep with
          | none =>
              simp only [narrow]
              simp [Selects, Wants]
          | some keep =>
              simp only [narrow]
              simp [Selects, Wants, and_assoc]

private theorem selects_foldl (filters : List (Option Bool × Finset UserId))
    (selection : Selection) :
    Selects (filters.foldl narrow selection) userId =
      (Selects selection userId && filters.all fun filter =>
        Wants filter.1 (decide (userId ∈ filter.2))) := by
  induction filters generalizing selection with
  | nil => simp
  | cons filter filters ih =>
      rw [List.foldl_cons, ih, selects_narrow, List.all_cons, Bool.and_assoc]

end Narrowing

section Overrides

variable (config : RateLimitConfig) (userId : UserId)

/-- The users whose override has a property that the defaults don't have are
all the users who have it. -/
theorem mem_idsWhere (has : UserRateLimitSummary → Bool)
    (property : UserRateLimit → Bool)
    (told : ∀ userId, has (summary config userId) =
      property (userLimit config userId))
    (neutral : property { userId := userId } = false) :
    decide (userId ∈ idsWhere has
        (config.userOverrides.keys.map (summary config))) =
      property (userLimit config userId) := by
  have member : userId ∈ idsWhere has
      (config.userOverrides.keys.map (summary config)) ↔
        userId ∈ config.userOverrides ∧ has (summary config userId) = true := by
    simp [idsWhere, summary, AList.mem_keys]
  rw [Bool.eq_iff_iff, decide_eq_true_iff, member, told]
  constructor
  · exact And.right
  · intro holds
    refine ⟨?_, holds⟩
    by_contra missing
    rw [userLimit, AList.lookup_eq_none.mpr missing, Option.getD_none,
      neutral] at holds
    cases holds

private theorem summary_customLimits :
    (summary config userId).hasCustomLimits =
      hasCustomLimits (userLimit config userId) := by
  have close (number : PyNumber) :
      number.isClose 1 (1 / 10 ^ 9) (1 / 10 ^ 12) = number.isClose 1 :=
    number.isClose_absTol (by norm_num) (by norm_num) (by norm_num)
  rw [summary, close, hasCustomLimits, hasCustomMultiplier]
  cases (userLimit config userId).rules <;> simp

private theorem default_multiplier :
    hasCustomMultiplier { userId := userId } = false := by
  simp [hasCustomMultiplier, PyNumber.isClose]

private theorem default_customLimits :
    hasCustomLimits { userId := userId } = false := by
  simp [hasCustomLimits, default_multiplier]

/-- The ids to keep and to drop select, of all users, those whose limits
satisfy the filters. -/
theorem selects_rateLimitUserIds {store : RateLimitStore}
    (read : getConfig store = .ok config) (filters : RateLimitFilters) :
    ∃ selection, rateLimitUserIds store filters = .ok selection ∧
      ∀ userId, Selects selection userId =
        SatisfiesLimits filters (userLimit config userId) := by
  rw [rateLimitUserIds]
  split
  · case isTrue none =>
      refine ⟨_, rfl, fun userId => ?_⟩
      simp only [List.all_cons, List.all_nil, Bool.and_true, Bool.and_eq_true,
        Option.isNone_iff_eq_none] at none
      simp [Selects, SatisfiesLimits, Wants, none]
  · rw [getOverrideSummaries, read]
    refine ⟨_, rfl, fun userId => ?_⟩
    have bypass := mem_idsWhere config userId
      (fun summary => summary.bypassRateLimit)
      UserRateLimit.bypassRateLimit (fun _ => rfl) rfl
    have custom := mem_idsWhere config userId
      (fun summary => summary.hasCustomLimits) hasCustomLimits
      (summary_customLimits config) (default_customLimits userId)
    have multiplier := mem_idsWhere config userId
      (fun summary => !summary.globalMultiplier.isClose 1)
      hasCustomMultiplier (fun _ => rfl) (default_multiplier userId)
    rw [selects_foldl]
    simp only [List.zip_cons_cons, List.zip_nil_right, List.all_cons,
      List.all_nil, Bool.and_true, bypass, custom, multiplier]
    simp [Selects, SatisfiesLimits, Bool.and_assoc]

end Overrides

section Queries

variable (finds : String → UserDocument → Bool) (store : RateLimitStore)
  (users : List UserDocument) (query : UserQuery)

/-- The first pages of a size, one after the other. -/
def allListed (limit number : Nat) : Except PyException (List UserDocument) :=
  ((List.range number).mapM fun index =>
    (listUsers finds store users limit (index * limit) query).map
      UserListResult.users).map List.flatten

/-- A page of a query whose rate limit filters select as they should. -/
theorem listUsers_eq {config : RateLimitConfig}
    (read : getConfig store = .ok config) (limit offset : Nat) :
    listUsers finds store users limit offset query =
      .ok { users := page offset limit
              (users.filter (Satisfies finds config query))
            total := (users.filter (Satisfies finds config query)).length
            offset := offset
            limit := limit } := by
  obtain ⟨selection, selected, selects⟩ :=
    selects_rateLimitUserIds config read query.rateLimit
  have same : (users.filter fun user =>
      (UserRepository.conditions query.search query.role query.isActive
        selection.1 selection.2).all (UserRepository.passes finds user)) =
      users.filter (Satisfies finds config query) := by
    apply List.filter_congr
    intro user _
    rw [UserRepository.all_conditions, Satisfies, ← selects, Selects]
    simp only [Bool.and_assoc]
  rw [listUsers, selected]
  simp only [UserRepository.listUsers, same, bind, Except.bind, pure,
    Except.pure]

/-- Pages that are all answered are the pages of what they are taken from. -/
theorem allListed_eq {found : List UserDocument} {limit : Nat}
    (answered : ∀ offset, (listUsers finds store users limit offset query).map
      UserListResult.users = .ok (page offset limit found)) (number : Nat) :
    allListed finds store users query limit number =
      .ok (pages limit number found) := by
  have each : (fun index =>
      (listUsers finds store users limit (index * limit) query).map
        UserListResult.users) =
      fun index => pure (page (index * limit) limit found) :=
    funext fun index => answered (index * limit)
  rw [allListed, each, List.mapM_pure]
  rfl

end Queries

/-- Whatever the overrides that the service reads, the users and the filters:
every page tells the number of the users who satisfy every filter given, and
its users are those of them from its offset on; so enough pages of any size
have exactly them. -/
theorem filters_select_exactly (finds : String → UserDocument → Bool)
    (store : RateLimitStore) (config : RateLimitConfig)
    (users : List UserDocument) (query : UserQuery)
    (read : getConfig store = .ok config) :
    (∀ limit offset, listUsers finds store users limit offset query =
      .ok { users := page offset limit
              (users.filter (Satisfies finds config query))
            total := (users.filter (Satisfies finds config query)).length
            offset := offset
            limit := limit }) ∧
    ∀ limit number, 0 < limit →
      (users.filter (Satisfies finds config query)).length ≤ number * limit →
        allListed finds store users query limit number =
          .ok (users.filter (Satisfies finds config query)) := by
  have listed := listUsers_eq finds store users query read
  refine ⟨listed, fun limit number positive enough => ?_⟩
  rw [allListed_eq finds store users query fun offset => by
    rw [listed limit offset]; rfl]
  rw [pages_eq_self positive enough]

/-- A user of the list below. -/
def member (name : String) : UserDocument where
  username := name
  userId := name
  hashedPassword := ""

/-- One user bypasses the limits. -/
def oneBypass : RateLimitStore where
  userOverrides := AList.singleton "ann"
    { userId := "ann", bypassRateLimit := true }

/-- Those who don't bypass the limits, with the default limits besides: the
user with the bypass isn't among them, the one without an override is. -/
theorem filters_select_exactly_default :
    listUsers (fun _ _ => false) oneBypass [member "ann", member "bob"] 10 0
        { rateLimit := { bypassRateLimit := some false } } =
      .ok { users := [member "bob"], total := 1, offset := 0, limit := 10 } :=
  (filters_select_exactly (fun _ _ => false) oneBypass _
    [member "ann", member "bob"]
    { rateLimit := { bypassRateLimit := some false } } rfl).1 10 0

end Integr8s.UserFilters
