/-
Module: Integr8s.Db.UserRepository
Purpose: The query of the user repository: the conditions of a list of users,
  and the page of those that pass them with their number.
Trusted boundary: human-reviewed spec
Main exports: UserCondition, UserListResult, UserRepository.conditions,
  UserRepository.listUsers
-/
import Integr8s.Domain.Users
import Integr8s.Lib.Paging
import Mathlib.Data.Finset.Basic

namespace Integr8s

/-- A condition of a query on users. -/
inductive UserCondition where
  | search (text : String)
  | role (role : UserRole)
  | isActive (isActive : Bool)
  | inUserIds (userIds : Finset UserId)
  | notInUserIds (userIds : Finset UserId)
deriving DecidableEq

structure UserListResult where
  users : List UserDocument
  total : Nat
  offset : Nat
  limit : Nat
deriving DecidableEq, Repr

namespace UserRepository

/-- The conditions of `list_users`.  An empty search and no ids to exclude are
no conditions; no ids to keep is one that nobody passes. -/
def conditions (search : Option String) (role : Option UserRole)
    (isActive : Option Bool) (userIds : Option (Finset UserId))
    (excludedUserIds : Finset UserId) : List UserCondition :=
  ((search.filter fun text => text ≠ "").map UserCondition.search).toList ++
  (role.map UserCondition.role).toList ++
  (isActive.map UserCondition.isActive).toList ++
  (userIds.map UserCondition.inUserIds).toList ++
  (if excludedUserIds = ∅ then []
    else [UserCondition.notInUserIds excludedUserIds])

section Queries

-- whether the database finds a text, ignoring case, in the username or the
-- email of a user
variable (finds : String → UserDocument → Bool)

def passes (user : UserDocument) : UserCondition → Bool
  | .search text => finds text user
  | .role role => user.role == role
  | .isActive isActive => user.isActive == isActive
  | .inUserIds userIds => decide (user.userId ∈ userIds)
  | .notInUserIds userIds => !decide (user.userId ∈ userIds)

def listUsers (users : List UserDocument) (limit : Nat := 100)
    (offset : Nat := 0) (search : Option String := none)
    (role : Option UserRole := none) (isActive : Option Bool := none)
    (userIds : Option (Finset UserId) := none)
    (excludedUserIds : Finset UserId := ∅) : UserListResult :=
  let found := users.filter fun user =>
    (conditions search role isActive userIds excludedUserIds).all
      (passes finds user)
  { users := Paging.page offset limit found
    total := found.length
    offset := offset
    limit := limit }

/-- A user passes all conditions who passes each one that is given. -/
theorem all_conditions (user : UserDocument) (search : Option String)
    (role : Option UserRole) (isActive : Option Bool)
    (userIds : Option (Finset UserId)) (excludedUserIds : Finset UserId) :
    (conditions search role isActive userIds excludedUserIds).all
        (passes finds user) =
      ((search.filter fun text => text ≠ "").all (fun text =>
          finds text user) &&
        role.all (fun role => user.role == role) &&
        isActive.all (fun isActive => user.isActive == isActive) &&
        userIds.all (fun userIds => decide (user.userId ∈ userIds)) &&
        !decide (user.userId ∈ excludedUserIds)) := by
  have optional {α : Type} (given : Option α) (condition : α → UserCondition) :
      (given.map condition).toList.all (passes finds user) =
        given.all fun value => passes finds user (condition value) := by
    cases given with
    | none => rfl
    | some value => simp
  simp only [conditions, List.all_append, optional, passes]
  congr 1
  split
  · case isTrue none => simp [none]
  · case isFalse => simp [passes]

end Queries

end UserRepository

end Integr8s
