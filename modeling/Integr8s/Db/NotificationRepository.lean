/-
Module: Integr8s.Db.NotificationRepository
Purpose: The queries of the notification repository: the conditions of a list,
  the notifications that pass them, in pages, and their number.
Trusted boundary: human-reviewed spec
Main exports: NotificationCondition, NotificationRepository.listConditions,
  NotificationRepository.find, NotificationRepository.listNotifications,
  NotificationRepository.countNotifications
-/
import Integr8s.Domain.Exceptions
import Integr8s.Domain.Notifications
import Integr8s.Lib.Paging
import Mathlib.Data.List.Sort

namespace Integr8s

/-- A condition of a query on notifications. -/
inductive NotificationCondition where
  | userId (userId : UserId)
  | status (status : NotificationStatus)
  | inTags (tags : List String)
  | notInTags (tags : List String)
  | elemMatchTags (regex : String)
deriving DecidableEq, Repr

namespace NotificationRepository

/-- `_list_conditions`; an empty filter counts as none. -/
def listConditions (userId : UserId) (status : Option NotificationStatus)
    (includeTags excludeTags : Option (List String))
    (tagPrefix : Option String) : List NotificationCondition :=
  [.userId userId] ++
  (status.map NotificationCondition.status).toList ++
  ((includeTags.filter fun tags => !tags.isEmpty).map
    NotificationCondition.inTags).toList ++
  ((excludeTags.filter fun tags => !tags.isEmpty).map
    NotificationCondition.notInTags).toList ++
  ((tagPrefix.filter fun text => text ≠ "").map fun text =>
    NotificationCondition.elemMatchTags ("^" ++ text)).toList

/-- A test of all conditions of a list. -/
theorem all_listConditions (test : NotificationCondition → Bool)
    (userId : UserId) (status : Option NotificationStatus)
    (includeTags excludeTags : Option (List String))
    (tagPrefix : Option String) :
    (listConditions userId status includeTags excludeTags tagPrefix).all
        test =
      (test (.userId userId) &&
      status.all (fun status => test (.status status)) &&
      (includeTags.filter fun tags => !tags.isEmpty).all (fun tags =>
        test (.inTags tags)) &&
      (excludeTags.filter fun tags => !tags.isEmpty).all (fun tags =>
        test (.notInTags tags)) &&
      (tagPrefix.filter fun text => text ≠ "").all fun text =>
        test (.elemMatchTags ("^" ++ text))) := by
  have optional {α : Type} (given : Option α)
      (condition : α → NotificationCondition) :
      (given.map condition).toList.all test =
        given.all fun value => test (condition value) := by
    cases given with
    | none => rfl
    | some value => simp
  simp only [listConditions, List.all_append, optional, List.all_cons,
    List.all_nil, Bool.and_true]

section Queries

-- what the database makes of a regular expression: nothing when it is invalid,
-- and else the texts in which it finds a match
variable (re : String → Option (String → Bool))

/-- The database refuses a query with an invalid regular expression. -/
def isValid : NotificationCondition → Bool
  | .elemMatchTags regex => (re regex).isSome
  | _ => true

def passes (doc : NotificationDocument) : NotificationCondition → Bool
  | .userId userId => doc.userId == userId
  | .status status => doc.status == status
  | .inTags tags => doc.tags.any tags.contains
  | .notInTags tags => !doc.tags.any tags.contains
  | .elemMatchTags regex => (re regex).any fun accepts => doc.tags.any accepts

/-- The notifications that pass all conditions. -/
def find (docs : List NotificationDocument)
    (conditions : List NotificationCondition) :
    Except PyException (List NotificationDocument) :=
  if conditions.all (isValid re) then
    .ok (docs.filter fun doc => conditions.all (passes re doc))
  else .error .pyMongoError

/-- The newest notifications first, those of one time in the order they are
stored. -/
def newestFirst (docs : List NotificationDocument) :
    List NotificationDocument :=
  docs.insertionSort fun first second => second.createdAt ≤ first.createdAt

def listNotifications (docs : List NotificationDocument) (userId : UserId)
    (status : Option NotificationStatus := none) (skip : Nat := 0)
    (limit : Nat := 20) (includeTags excludeTags : Option (List String) := none)
    (tagPrefix : Option String := none) :
    Except PyException (List NotificationDocument) :=
  (find re docs (listConditions userId status includeTags excludeTags
    tagPrefix)).map fun found => Paging.page skip limit (newestFirst found)

def countNotifications (docs : List NotificationDocument) (userId : UserId)
    (status : Option NotificationStatus := none)
    (includeTags excludeTags : Option (List String) := none)
    (tagPrefix : Option String := none) : Except PyException Nat :=
  (find re docs (listConditions userId status includeTags excludeTags
    tagPrefix)).map List.length

end Queries

end NotificationRepository

end Integr8s
