/-
Module: Integr8s.Proofs.TagFilter
Purpose: When listing and counting notifications by the beginning of a tag find
  the notifications with such a tag, over all beginnings, collections and other
  filters.  The beginning goes into a regular expression as it is, so it must
  have no character with a meaning there.
Trusted boundary: human-reviewed spec (what the database's manual says of its
  regular expressions)
Main exports: TagFilter.NotificationFilter, TagFilter.SelectsByTag,
  TagFilter.selects_iff_agree, TagFilter.Documented, TagFilter.IsPlain,
  TagFilter.selects_by_tag_iff
-/
import Integr8s.Db.NotificationRepository
import Integr8s.Lib.RegexSyntax

namespace Integr8s.TagFilter

open NotificationRepository Paging

/-- The filters of a list besides the beginning of a tag. -/
structure NotificationFilter where
  userId : UserId
  status : Option NotificationStatus := none
  includeTags : Option (List String) := none
  excludeTags : Option (List String) := none

/-- A notification of the user that satisfies the filters: with the status,
with one of the tags to include if there are any, and with none of those to
exclude. -/
def NotificationFilter.Selects (filter : NotificationFilter)
    (doc : NotificationDocument) : Bool :=
  doc.userId == filter.userId &&
  (filter.status.all fun status => doc.status == status) &&
  ((filter.includeTags.getD []).isEmpty ||
    doc.tags.any (filter.includeTags.getD []).contains) &&
  (filter.excludeTags.getD []).all fun tag => !doc.tags.contains tag

/-- A text begins with another one. -/
def BeginsWith (beginning text : String) : Bool :=
  beginning.toList.isPrefixOf text.toList

/-- The notifications that a list should have. -/
def wanted (docs : List NotificationDocument) (filter : NotificationFilter)
    (beginning : String) : List NotificationDocument :=
  docs.filter fun doc =>
    filter.Selects doc && doc.tags.any (BeginsWith beginning)

section Queries

variable (re : String → Option (String → Bool))
  (docs : List NotificationDocument) (filter : NotificationFilter)
  (beginning : String)

/-- A page of the list. -/
def listed (skip limit : Nat) :
    Except PyException (List NotificationDocument) :=
  listNotifications re docs filter.userId filter.status skip limit
    filter.includeTags filter.excludeTags (some beginning)

def counted : Except PyException Nat :=
  countNotifications re docs filter.userId filter.status filter.includeTags
    filter.excludeTags (some beginning)

/-- The first pages of a size, one after the other. -/
def allListed (limit number : Nat) :
    Except PyException (List NotificationDocument) :=
  ((List.range number).mapM fun index =>
    listed re docs filter beginning (index * limit) limit).map List.flatten

/-- The number and the pages of the list, of whatever size, are those of the
notifications that it should have. -/
def SelectsByTag : Prop :=
  counted re docs filter beginning =
      .ok (wanted docs filter beginning).length ∧
    ∀ limit number, 0 < limit →
      (wanted docs filter beginning).length ≤ number * limit →
        ∃ all, allListed re docs filter beginning limit number = .ok all ∧
          all.Perm (wanted docs filter beginning)

end Queries

section Law

variable {re : String → Option (String → Bool)}
  {docs : List NotificationDocument} {filter : NotificationFilter}
  {beginning : String}

/-- The conditions of a list by the beginning of a tag. -/
abbrev conditions (filter : NotificationFilter) (beginning : String) :
    List NotificationCondition :=
  listConditions filter.userId filter.status filter.includeTags
    filter.excludeTags (some beginning)

/-- The only regular expression of the query is the one of the beginning. -/
theorem all_isValid (given : beginning ≠ "") :
    (conditions filter beginning).all (isValid re) =
      (re ("^" ++ beginning)).isSome := by
  rw [all_listConditions]
  simp [isValid, given]

private theorem including_eq (includeTags : Option (List String))
    (doc : NotificationDocument) :
    ((includeTags.filter fun tags => !tags.isEmpty).all fun tags =>
        doc.tags.any tags.contains) =
      ((includeTags.getD []).isEmpty ||
        doc.tags.any (includeTags.getD []).contains) := by
  cases includeTags with
  | none => rfl
  | some tags =>
      cases tags with
      | nil => rfl
      | cons tag tags => simp

private theorem excluding_eq (excludeTags : Option (List String))
    (doc : NotificationDocument) :
    ((excludeTags.filter fun tags => !tags.isEmpty).all fun tags =>
        !doc.tags.any tags.contains) =
      (excludeTags.getD []).all fun tag => !doc.tags.contains tag := by
  have apart (tags : List String) : (!doc.tags.any tags.contains) =
      tags.all fun tag => !doc.tags.contains tag := by
    rw [Bool.eq_iff_iff]
    simp only [Bool.not_eq_true', List.any_eq_false, List.all_eq_true,
      List.contains_eq_mem, decide_eq_true_eq, decide_eq_false_iff_not]
    exact ⟨fun none tag member inside => none tag inside member,
      fun none tag inside member => none tag member inside⟩
  cases excludeTags with
  | none => rfl
  | some tags =>
      cases tags with
      | nil => rfl
      | cons tag tags =>
          rw [← apart]
          rfl

variable (re filter) in
/-- A notification passes the query when it satisfies the other filters and
the regular expression matches one of its tags. -/
theorem all_passes (given : beginning ≠ "") (doc : NotificationDocument) :
    (conditions filter beginning).all (passes re doc) =
      (filter.Selects doc &&
        (re ("^" ++ beginning)).any fun accepts => doc.tags.any accepts) := by
  rw [all_listConditions, NotificationFilter.Selects, ← including_eq,
    ← excluding_eq]
  simp only [passes, Option.filter_some, given, ne_eq, not_false_eq_true,
    decide_true, if_true, Option.all_some]

/-- The notifications that a test of the tags selects among those that satisfy
the other filters. -/
def selected (docs : List NotificationDocument) (filter : NotificationFilter)
    (accepts : String → Bool) : List NotificationDocument :=
  docs.filter fun doc => filter.Selects doc && doc.tags.any accepts

variable (re docs filter) in
/-- The query finds what its regular expression selects, when it is valid. -/
theorem find_eq (given : beginning ≠ "") :
    find re docs (conditions filter beginning) =
      match re ("^" ++ beginning) with
      | some accepts => .ok (selected docs filter accepts)
      | none => .error .pyMongoError := by
  have passed (doc : NotificationDocument) :=
    all_passes re filter given doc
  simp only [find, all_isValid given, passed]
  cases re ("^" ++ beginning) with
  | none => rfl
  | some accepts => rfl

private theorem counted_eq (given : beginning ≠ "") {accepts : String → Bool}
    (valid : re ("^" ++ beginning) = some accepts) :
    counted re docs filter beginning =
      .ok (selected docs filter accepts).length := by
  have found := find_eq re docs filter given
  rw [valid] at found
  rw [counted, countNotifications, found]
  rfl

theorem allListed_eq (given : beginning ≠ "") {accepts : String → Bool}
    (valid : re ("^" ++ beginning) = some accepts) (limit number : Nat) :
    allListed re docs filter beginning limit number =
      .ok (pages limit number (newestFirst (selected docs filter accepts))) := by
  have found := find_eq re docs filter given
  rw [valid] at found
  have each : (fun index => listed re docs filter beginning (index * limit)
      limit) = fun index => pure (page (index * limit) limit
        (newestFirst (selected docs filter accepts))) := by
    funext index
    rw [listed, listNotifications, found]
    rfl
  rw [allListed, each, List.mapM_pure]
  rfl

private theorem invalid_fails (given : beginning ≠ "")
    (invalid : re ("^" ++ beginning) = none) :
    counted re docs filter beginning = .error .pyMongoError := by
  have found := find_eq re docs filter given
  rw [invalid] at found
  rw [counted, countNotifications, found]
  rfl

/-- The order of a list doesn't matter to what is in it. -/
theorem newestFirst_perm (docs : List NotificationDocument) :
    (newestFirst docs).Perm docs :=
  List.perm_insertionSort _ docs

variable (docs filter) in
/-- Two tests select the same when they agree on every notification that
satisfies the other filters. -/
theorem selected_perm_iff (first second : String → Bool) :
    (selected docs filter first).Perm (selected docs filter second) ↔
      ∀ doc ∈ docs, filter.Selects doc = true →
        doc.tags.any first = doc.tags.any second := by
  constructor
  · intro same doc member selects
    have both := same.mem_iff (a := doc)
    simp only [selected, List.mem_filter, member, selects, true_and,
      Bool.true_and] at both
    exact Bool.eq_iff_iff.mpr both
  · intro agree
    have same : selected docs filter first = selected docs filter second := by
      apply List.filter_congr
      intro doc member
      cases selects : filter.Selects doc with
      | false => rfl
      | true => rw [agree doc member selects]
    rw [same]

section Selection

variable {re : String → Option (String → Bool)}
  {docs : List NotificationDocument} {filter : NotificationFilter}
  {beginning : String}

/-- Pages of one notification each show which notifications are listed. -/
theorem agree_of_selects (given : beginning ≠ "")
    (selects : SelectsByTag re docs filter beginning) :
    ∃ accepts, re ("^" ++ beginning) = some accepts ∧
      ∀ doc ∈ docs, filter.Selects doc = true →
        doc.tags.any accepts = doc.tags.any (BeginsWith beginning) := by
  obtain ⟨count, lists⟩ := selects
  cases valid : re ("^" ++ beginning) with
  | none => cases count.symm.trans (invalid_fails given valid)
  | some accepts =>
      refine ⟨accepts, rfl, (selected_perm_iff docs filter _ _).mp ?_⟩
      have lengths : (selected docs filter accepts).length =
          (wanted docs filter beginning).length :=
        Except.ok.inj ((counted_eq given valid).symm.trans count)
      obtain ⟨all, listed, same⟩ := lists 1
        (wanted docs filter beginning).length Nat.one_pos
        (Nat.le_of_eq (Nat.mul_one _).symm)
      cases (allListed_eq given valid _ _).symm.trans listed
      have long : (newestFirst (selected docs filter accepts)).length ≤
          (wanted docs filter beginning).length * 1 := by
        rw [(newestFirst_perm _).length_eq, lengths, Nat.mul_one]
      rw [pages_eq_self Nat.one_pos long] at same
      exact (newestFirst_perm _).symm.trans same

private theorem selects_of_agree (given : beginning ≠ "")
    {accepts : String → Bool} (valid : re ("^" ++ beginning) = some accepts)
    (agree : ∀ doc ∈ docs, filter.Selects doc = true →
      doc.tags.any accepts = doc.tags.any (BeginsWith beginning)) :
    SelectsByTag re docs filter beginning := by
  have same := (selected_perm_iff docs filter _ _).mpr agree
  refine ⟨(counted_eq given valid).trans
    (congrArg Except.ok same.length_eq), ?_⟩
  intro limit number positive enough
  refine ⟨_, allListed_eq given valid limit number, ?_⟩
  have long : (newestFirst (selected docs filter accepts)).length ≤
      number * limit := by
    rw [(newestFirst_perm _).length_eq, same.length_eq]
    exact enough
  rw [pages_eq_self positive long]
  exact (newestFirst_perm _).trans same

end Selection

/-- A list by the beginning of a tag has the notifications that it should
have, in number and on its pages, if and only if the beginning makes a valid
regular expression, which matches a tag of a notification that satisfies the
other filters exactly when a tag of it begins so. -/
theorem selects_iff_agree (re : String → Option (String → Bool))
    (docs : List NotificationDocument) (filter : NotificationFilter)
    (beginning : String) (given : beginning ≠ "") :
    SelectsByTag re docs filter beginning ↔
      ∃ accepts, re ("^" ++ beginning) = some accepts ∧
        ∀ doc ∈ docs, filter.Selects doc = true →
          doc.tags.any accepts = doc.tags.any (BeginsWith beginning) := by
  constructor
  · exact agree_of_selects given
  · rintro ⟨accepts, valid, agree⟩
    exact selects_of_agree given valid agree

/-- A beginning selects what it should from every collection, whatever the
other filters, if and only if its regular expression matches exactly the texts
that begin so. -/
theorem selects_always_iff (re : String → Option (String → Bool))
    (beginning : String) (given : beginning ≠ "") :
    (∀ docs filter, SelectsByTag re docs filter beginning) ↔
      re ("^" ++ beginning) = some (BeginsWith beginning) := by
  constructor
  · intro always
    obtain ⟨accepts, valid, -⟩ :=
      agree_of_selects given (always [] { userId := "" })
    rw [valid]
    congr 1
    funext tag
    -- a notification with this tag alone
    obtain ⟨same, sameValid, agree⟩ := agree_of_selects given (always
      [{ notificationId := "", userId := "", subject := "", body := ""
         tags := [tag] }] { userId := "" })
    cases valid.symm.trans sameValid
    simpa [NotificationFilter.Selects] using agree
  · intro literal docs filter
    exact selects_of_agree given literal fun _ _ _ => rfl

/-! ### Regular expressions as they are documented -/

/-- What is documented of the database's regular expressions: one that the
syntax rules out is refused, one that is taken finds what it says, and one of
`^` and characters without a meaning is taken if it isn't too long.  Nothing is
said of the syntax that `Regex.readFrom` leaves open. -/
structure Documented (re : String → Option (String → Bool)) (longest : Nat) :
    Prop where
  refuses : ∀ pattern, Regex.readFrom pattern.toList [] {} = .invalid →
    re pattern = none
  finds : ∀ pattern accepts expression, re pattern = some accepts →
    Regex.readFrom pattern.toList [] {} = .pattern expression →
      ∀ text, accepts text = expression.finds text.toList
  takes : ∀ text, Regex.isLiteral text.toList = true →
    ((re ("^" ++ text)).isSome = true ↔
      ("^" ++ text).utf8ByteSize ≤ longest)

/-- A beginning that means itself in a regular expression: it has none of the
characters with a meaning, and it makes no regular expression that is longer
than the database takes. -/
def IsPlain (longest : Nat) (beginning : String) : Prop :=
  Regex.isLiteral beginning.toList = true ∧
    ("^" ++ beginning).utf8ByteSize ≤ longest

/-- The syntax that a beginning brings into the regular expression is not left
open. -/
def IsUnderstood (beginning : String) : Prop :=
  Regex.readFrom ('^' :: beginning.toList) [] {} ≠ .reserved

private theorem toList_anchored (beginning : String) :
    ("^" ++ beginning).toList = '^' :: beginning.toList := by
  simp

section Documentation

variable {longest : Nat}

/-- A plain beginning makes a regular expression that matches exactly the texts
that begin so. -/
theorem literal_of_plain (documented : Documented re longest)
    (plain : IsPlain longest beginning) :
    re ("^" ++ beginning) = some (BeginsWith beginning) := by
  obtain ⟨accepts, taken⟩ := Option.isSome_iff_exists.mp
    ((documented.takes beginning plain.1).mpr plain.2)
  obtain ⟨expression, reads, found⟩ := Regex.finds_literal plain.1
  rw [← toList_anchored] at reads
  have means := documented.finds _ _ _ taken reads
  rw [taken]
  congr 1
  funext text
  rw [means, found, BeginsWith]

/-- A regular expression that matches exactly the texts that begin so was made
from a plain beginning. -/
theorem plain_of_literal (documented : Documented re longest)
    (understood : IsUnderstood beginning)
    (literal : re ("^" ++ beginning) = some (BeginsWith beginning)) :
    IsPlain longest beginning := by
  cases reads : Regex.readFrom ('^' :: beginning.toList) [] {} with
  | reserved => exact absurd reads understood
  | invalid =>
      rw [← toList_anchored] at reads
      cases (documented.refuses _ reads).symm.trans literal
  | pattern expression =>
      have means (text : List Char) : expression.finds text =
          beginning.toList.isPrefixOf text := by
        have said := documented.finds _ _ _ literal
          ((congrArg (Regex.readFrom · [] {})
            (toList_anchored beginning)).trans reads) (String.ofList text)
        rw [String.toList_ofList] at said
        rw [← said, BeginsWith, String.toList_ofList]
      have isLiteral := Regex.literal_of_finds reads means
      refine ⟨isLiteral, (documented.takes beginning isLiteral).mp ?_⟩
      rw [literal]
      rfl

end Documentation

/-- The lists and the count by the beginning of a tag have the notifications
that they should have, from every collection and with whatever other filters,
if the beginning is plain.  If it is not, they have them not from every
collection, or fail, where the syntax that the beginning brings in is not left
open. -/
theorem selects_by_tag_iff {re : String → Option (String → Bool)}
    {longest : Nat} (documented : Documented re longest) (beginning : String)
    (given : beginning ≠ "") :
    (IsPlain longest beginning →
      ∀ docs filter, SelectsByTag re docs filter beginning) ∧
    (IsUnderstood beginning →
      (∀ docs filter, SelectsByTag re docs filter beginning) →
        IsPlain longest beginning) := by
  rw [selects_always_iff re beginning given]
  exact ⟨literal_of_plain documented,
    fun understood literal => plain_of_literal documented understood literal⟩

/-- Regular expressions of the syntax that is not left open, of at most 32764
bytes. -/
def regexOf (pattern : String) : Option (String → Bool) :=
  match Regex.readFrom pattern.toList [] {} with
  | .pattern expression =>
      if pattern.utf8ByteSize ≤ 32764 then
        some fun text => expression.finds text.toList
      else none
  | .invalid | .reserved => none

private theorem regexOf_documented : Documented regexOf 32764 where
  refuses pattern invalid := by rw [regexOf, invalid]
  finds pattern accepts expression taken reads := by
    rw [regexOf, reads] at taken
    obtain ⟨-, same⟩ := Option.ite_none_right_eq_some.mp taken
    cases same
    exact fun _ => rfl
  takes text literal := by
    obtain ⟨expression, reads, -⟩ := Regex.finds_literal literal
    rw [← toList_anchored] at reads
    rw [regexOf, reads]
    simp

def taggedDoc (tag : String) : NotificationDocument where
  notificationId := "n1"
  userId := "alice"
  subject := ""
  body := ""
  tags := [tag]

/-- A beginning of letters selects its tags. -/
theorem selects_by_tag_exec :
    SelectsByTag regexOf [taggedDoc "exec:python", taggedDoc "alert"]
      { userId := "alice" } "exec" :=
  (selects_by_tag_iff regexOf_documented "exec" (by decide)).1
    ⟨by decide +kernel, by decide⟩ _ _

/-- A beginning with a dot also selects other tags, and one with an open
parenthesis fails. -/
theorem dot_selects_more :
    Documented regexOf 32764 ∧
    ¬ SelectsByTag regexOf [taggedDoc "ab"] { userId := "alice" } "a." ∧
    ¬ SelectsByTag regexOf [] { userId := "alice" } "(" := by
  refine ⟨regexOf_documented, ?_, ?_⟩
  · rintro ⟨count, -⟩
    have one : counted regexOf [taggedDoc "ab"] { userId := "alice" } "a." =
        .ok 1 := by
      rfl
    cases one.symm.trans count
  · rintro ⟨count, -⟩
    have fails : counted regexOf [] { userId := "alice" } "(" =
        .error .pyMongoError := by
      rfl
    cases fails.symm.trans count

end Law

end Integr8s.TagFilter
