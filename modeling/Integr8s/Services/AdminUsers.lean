/-
Module: Integr8s.Services.AdminUsers
Purpose: The list of users of the admin service: the filters by rate limit,
  turned into ids to keep and ids to drop, and the query with them.
Trusted boundary: human-reviewed spec
Main exports: RateLimitFilters, UserQuery, AdminUserService.rateLimitUserIds,
  AdminUserService.listUsers
-/
import Integr8s.Db.UserRepository
import Integr8s.Services.RateLimit

namespace Integr8s

/-- The rate limit filters, in the order in which the service pairs them with
the users that differ from the defaults. -/
structure RateLimitFilters where
  bypassRateLimit : Option Bool := none
  hasCustomLimits : Option Bool := none
  customMultiplier : Option Bool := none
deriving DecidableEq, Repr

/-- What a list of users is asked for, apart from the page. -/
structure UserQuery where
  search : Option String := none
  role : Option UserRole := none
  isActive : Option Bool := none
  rateLimit : RateLimitFilters := {}
deriving DecidableEq, Repr

namespace AdminUserService

/-- The ids of the summaries with a property. -/
def idsWhere (has : UserRateLimitSummary → Bool)
    (summaries : List UserRateLimitSummary) : Finset UserId :=
  ((summaries.filter has).map UserRateLimitSummary.userId).toFinset

/-- The ids to keep, or none to keep everyone, and the ids to drop. -/
abbrev Selection : Type := Option (Finset UserId) × Finset UserId

/-- One filter: nothing when it isn't given, and else the ids that match it
are kept, or dropped when it asks for those that don't. -/
def narrow : Selection → Option Bool × Finset UserId → Selection
  | selection, (none, _) => selection
  | (none, drop), (some true, matching) => (some matching, drop)
  | (some keep, drop), (some true, matching) => (some (keep ∩ matching), drop)
  | (keep, drop), (some false, matching) => (keep, drop ∪ matching)

/-- Turn the rate limit filters into user ids the list must keep and ids it
must drop. -/
def rateLimitUserIds (store : RateLimitStore) (filters : RateLimitFilters) :
    Except PyException Selection :=
  let filters :=
    [filters.bypassRateLimit, filters.hasCustomLimits, filters.customMultiplier]
  if filters.all Option.isNone then .ok (none, ∅)
  else do
    let summaries ← RateLimitService.getOverrideSummaries store
    let differing :=
      [idsWhere (fun summary => summary.bypassRateLimit) summaries,
        idsWhere (fun summary => summary.hasCustomLimits) summaries,
        idsWhere (fun summary => !summary.globalMultiplier.isClose 1) summaries]
    pure ((filters.zip differing).foldl narrow (none, ∅))

/-- A page of the users that a query asks for. -/
def listUsers (finds : String → UserDocument → Bool) (store : RateLimitStore)
    (users : List UserDocument) (limit offset : Nat) (query : UserQuery) :
    Except PyException UserListResult := do
  let (userIds, excludedUserIds) ← rateLimitUserIds store query.rateLimit
  pure (UserRepository.listUsers finds users limit offset query.search
    query.role query.isActive userIds excludedUserIds)

end AdminUserService

end Integr8s
