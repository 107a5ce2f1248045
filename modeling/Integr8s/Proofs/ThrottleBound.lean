/-
Module: Integr8s.Proofs.ThrottleBound
Purpose: What the throttle of notifications lets through: a call is throttled
  exactly when as many as the limit were let through in the window before it,
  so no interval of the window's length has more, and what other users and
  severities ask for changes nothing.
Trusted boundary: none
Main exports: ThrottleBound.throttling_bound
-/
import Integr8s.Lib.SlidingLog
import Integr8s.Services.ThrottleCache

namespace Integr8s

namespace ThrottleBound

open SlidingLog ThrottleCache

/-- The calls for a user at a severity. -/
def isFor (userId : UserId) (severity : NotificationSeverity)
    (call : ThrottleCall) : Bool :=
  call.userId = userId ∧ call.severity = severity

/-- The times of the calls for a user at a severity that were let through. -/
def accepted (userId : UserId) (severity : NotificationSeverity)
    (answered : List (ThrottleCall × Bool)) : List ℤ :=
  (answered.filter fun answer =>
    isFor userId severity answer.1 && !answer.2).map fun answer =>
      answer.1.now

section Keys

variable {userId other : UserId} {severity otherSeverity : NotificationSeverity}

/-- A key tells its user and its severity. -/
theorem key_injective
    (same : key userId severity = key other otherSeverity) :
    userId = other ∧ severity = otherSeverity := by
  have texts := congrArg (fun text => text.toList.reverse) same
  simp only [key, String.toList_append, List.reverse_append] at texts
  cases severity <;> cases otherSeverity <;>
    simp_all [NotificationSeverity.value, String.toList_inj]

private theorem isFor_of_key {call : ThrottleCall}
    (same : key userId severity = key call.userId call.severity) :
    isFor userId severity call = true := by
  obtain ⟨users, severities⟩ := key_injective same
  simp [isFor, users, severities]

private theorem isFor_ne_key {call : ThrottleCall}
    (other : isFor userId severity call = false) :
    key userId severity ≠ key call.userId call.severity := by
  intro same
  rw [isFor_of_key same] at other
  cases other

end Keys

/-! ### One call -/

/-- The moments later than a bound. -/
def later (bound : ℤ) (moments : List ℤ) : List ℤ :=
  moments.filter fun moment => decide (bound < moment)

private theorem later_append (bound : ℤ) (first second : List ℤ) :
    later bound (first ++ second) = later bound first ++ later bound second :=
  List.filter_append ..

private theorem later_later {bound further : ℤ} (ordered : bound ≤ further)
    (moments : List ℤ) :
    later further (later bound moments) = later further moments := by
  rw [later, later, List.filter_filter]
  apply List.filter_congr
  intro moment _
  simpa using ordered.trans_lt

section Call

variable (cache : ThrottleCache) (call : ThrottleCall)
  (windowHours maxPerHour : ℤ)

/-- The entries that a call finds in its window. -/
def found : List ℤ :=
  later (call.now - hours windowHours)
    (cache.entries (key call.userId call.severity))

/-- The answer to a call, and the cache after it. -/
def check : Bool × ThrottleCache :=
  cache.checkThrottle call.userId call.severity windowHours maxPerHour call.now

private theorem check_answer :
    (check cache call windowHours maxPerHour).1 =
      decide (maxPerHour ≤ (found cache call windowHours).length) := by
  simp only [check, checkThrottle, found, later]
  split
  · case isTrue full => simp [full]
  · case isFalse room => simp [room]

/-- The entries of the pair a call is for: those in its window, and the call
unless it is throttled. -/
theorem check_entries :
    (check cache call windowHours maxPerHour).2.entries
        (key call.userId call.severity) =
      found cache call windowHours ++
        if (check cache call windowHours maxPerHour).1 then []
        else [call.now] := by
  simp only [check, checkThrottle, found, later]
  split
  · simp
  · simp

/-- A call leaves the other pairs' entries alone. -/
theorem check_other {userId : UserId} {severity : NotificationSeverity}
    (other : isFor userId severity call = false) :
    (check cache call windowHours maxPerHour).2.entries
        (key userId severity) = cache.entries (key userId severity) := by
  simp only [check, checkThrottle]
  split
  · exact Function.update_of_ne (isFor_ne_key other) _ _
  · exact Function.update_of_ne (isFor_ne_key other) _ _

private theorem answers_cons (calls : List ThrottleCall) :
    answers windowHours maxPerHour cache (call :: calls) =
      (call, (check cache call windowHours maxPerHour).1) ::
        answers windowHours maxPerHour
          (check cache call windowHours maxPerHour).2 calls := rfl

end Call

/-! ### What the cache remembers -/

/-- Of each pair's calls that were let through, the entries have those that a
window from now on may still need. -/
def Tended (windowHours clock : ℤ) (past : List (ThrottleCall × Bool))
    (cache : ThrottleCache) : Prop :=
  ∀ userId severity bound, clock - hours windowHours ≤ bound →
    later bound (cache.entries (key userId severity)) =
      later bound (accepted userId severity past)

section Step

variable {cache : ThrottleCache} {call : ThrottleCall}
  {windowHours maxPerHour clock : ℤ} {past : List (ThrottleCall × Bool)}

theorem Tended.start (windowHours clock : ℤ) :
    Tended windowHours clock [] {} :=
  fun _ _ _ _ => rfl

/-- What a call finds is what was let through for its pair in its window. -/
theorem Tended.found (tended : Tended windowHours clock past cache)
    (ordered : clock ≤ call.now) :
    found cache call windowHours =
      later (call.now - hours windowHours)
        (accepted call.userId call.severity past) :=
  tended call.userId call.severity _ (sub_le_sub_right ordered _)

theorem Tended.answer (tended : Tended windowHours clock past cache)
    (ordered : clock ≤ call.now) :
    (check cache call windowHours maxPerHour).1 =
      decide (maxPerHour ≤ countAfter (call.now - hours windowHours)
        (accepted call.userId call.severity past)) := by
  rw [check_answer, tended.found ordered, countAfter, later,
    List.countP_eq_length_filter]

theorem accepted_other {userId : UserId} {severity : NotificationSeverity}
    (other : isFor userId severity call = false) (throttled : Bool) :
    accepted userId severity (past ++ [(call, throttled)]) =
      accepted userId severity past := by
  simp [accepted, other]

theorem accepted_own (past : List (ThrottleCall × Bool)) (throttled : Bool) :
    accepted call.userId call.severity (past ++ [(call, throttled)]) =
      accepted call.userId call.severity past ++
        if throttled then [] else [call.now] := by
  cases throttled <;> simp [accepted, isFor]

/-- A call keeps the cache tended. -/
theorem Tended.step (tended : Tended windowHours clock past cache)
    (ordered : clock ≤ call.now) :
    Tended windowHours call.now
      (past ++ [(call, (check cache call windowHours maxPerHour).1)])
      (check cache call windowHours maxPerHour).2 := by
  intro userId severity bound late
  cases mine : isFor userId severity call with
  | false =>
      rw [check_other _ _ _ _ mine, accepted_other mine]
      exact tended _ _ _ ((sub_le_sub_right ordered _).trans late)
  | true =>
      obtain ⟨rfl, rfl⟩ : call.userId = userId ∧ call.severity = severity := by
        simpa [isFor] using mine
      rw [check_entries, accepted_own, later_append, later_append,
        tended.found ordered, later_later late]

/-- A call that is let through had room in its window. -/
theorem Tended.room (tended : Tended windowHours clock past cache)
    (ordered : clock ≤ call.now)
    (admitted : (check cache call windowHours maxPerHour).1 = false) :
    countAfter (call.now - hours windowHours)
      (accepted call.userId call.severity past) + 1 ≤ maxPerHour.toNat := by
  rw [tended.answer ordered, decide_eq_false_iff_not, not_le] at admitted
  omega

/-- A call keeps the bound on what was let through for each pair. -/
theorem Tended.bounded (tended : Tended windowHours clock past cache)
    (ordered : clock ≤ call.now) {userId : UserId}
    {severity : NotificationSeverity}
    (bounded : Bounded (hours windowHours) maxPerHour.toNat
      (accepted userId severity past)) :
    Bounded (hours windowHours) maxPerHour.toNat
      (accepted userId severity
        (past ++ [(call, (check cache call windowHours maxPerHour).1)])) := by
  cases mine : isFor userId severity call with
  | false => rwa [accepted_other mine]
  | true =>
      obtain ⟨rfl, rfl⟩ : call.userId = userId ∧ call.severity = severity := by
        simpa [isFor] using mine
      cases throttled : (check cache call windowHours maxPerHour).1 with
      | true => simpa [accepted_own] using bounded
      | false =>
          have more := bounded.accept (fun _ _ => le_rfl)
            (tended.room ordered throttled)
          rw [accepted_own]
          exact more.perm (List.perm_append_singleton _ _).symm

end Step

/-! ### Every run of calls -/

/-- Calls that don't go back in time. -/
def InOrder (calls : List ThrottleCall) : Prop :=
  calls.Pairwise fun call next => call.now ≤ next.now

instance (calls : List ThrottleCall) : Decidable (InOrder calls) :=
  inferInstanceAs (Decidable (calls.Pairwise _))

theorem InOrder.start {calls : List ThrottleCall} (inOrder : InOrder calls) :
    ∃ clock, ∀ call ∈ calls, clock ≤ call.now := by
  cases calls with
  | nil => exact ⟨0, fun _ member => absurd member List.not_mem_nil⟩
  | cons call calls =>
      refine ⟨call.now, fun next member => ?_⟩
      cases member with
      | head => exact le_rfl
      | tail _ member => exact (List.pairwise_cons.mp inOrder).1 next member

/-- Every call is answered, in the order of the calls. -/
theorem answers_calls (windowHours maxPerHour : ℤ) (cache : ThrottleCache)
    (calls : List ThrottleCall) :
    (answers windowHours maxPerHour cache calls).map Prod.fst = calls := by
  induction calls generalizing cache with
  | nil => rfl
  | cons call calls ih => rw [answers_cons, List.map_cons, ih]

/-- What was let through before a call was let through no later than it. -/
theorem accepted_earlier {windowHours maxPerHour : ℤ} {cache : ThrottleCache}
    {calls : List ThrottleCall} {before after : List (ThrottleCall × Bool)}
    {call : ThrottleCall} {throttled : Bool} (inOrder : InOrder calls)
    (run : answers windowHours maxPerHour cache calls =
      before ++ (call, throttled) :: after)
    (userId : UserId) (severity : NotificationSeverity) :
    ∀ moment ∈ accepted userId severity before, moment ≤ call.now := by
  have order := answers_calls windowHours maxPerHour cache calls
  rw [run, List.map_append, List.map_cons] at order
  rw [InOrder, ← order, List.pairwise_append] at inOrder
  intro moment member
  obtain ⟨answer, kept, rfl⟩ := List.mem_map.mp member
  exact inOrder.2.2 _ (List.mem_map_of_mem (List.mem_of_mem_filter kept)) _
    List.mem_cons_self

section Run

variable {windowHours maxPerHour : ℤ} {userId : UserId}
  {severity : NotificationSeverity}

/-- A run keeps the bound, from any tended cache. -/
theorem Tended.run_bounded {calls : List ThrottleCall} {clock : ℤ}
    {past : List (ThrottleCall × Bool)} {cache : ThrottleCache}
    (tended : Tended windowHours clock past cache)
    (inOrder : InOrder calls) (after : ∀ call ∈ calls, clock ≤ call.now)
    (bounded : Bounded (hours windowHours) maxPerHour.toNat
      (accepted userId severity past)) :
    Bounded (hours windowHours) maxPerHour.toNat (accepted userId severity
      (past ++ answers windowHours maxPerHour cache calls)) := by
  induction calls generalizing clock past cache with
  | nil => simpa [answers] using bounded
  | cons call calls ih =>
      have ordered := after call List.mem_cons_self
      obtain ⟨first, rest⟩ := List.pairwise_cons.mp inOrder
      rw [answers_cons, List.append_cons]
      exact ih (tended.step ordered) rest first (tended.bounded ordered bounded)

/-- A call in a run is throttled exactly when as many as the limit were let
through for its pair in the window before it. -/
theorem Tended.run_answer {calls : List ThrottleCall} {clock : ℤ}
    {past before after : List (ThrottleCall × Bool)} {cache : ThrottleCache}
    {call : ThrottleCall} {throttled : Bool}
    (tended : Tended windowHours clock past cache)
    (inOrder : InOrder calls) (late : ∀ call ∈ calls, clock ≤ call.now)
    (run : answers windowHours maxPerHour cache calls =
      before ++ (call, throttled) :: after) :
    throttled = decide (maxPerHour ≤
      countAfter (call.now - hours windowHours)
        (accepted call.userId call.severity (past ++ before))) := by
  induction calls generalizing clock past before cache with
  | nil => simp [answers] at run
  | cons next calls ih =>
      have ordered := late next List.mem_cons_self
      obtain ⟨first, rest⟩ := List.pairwise_cons.mp inOrder
      rw [answers_cons] at run
      cases before with
      | nil =>
          simp only [List.nil_append, List.cons.injEq, Prod.mk.injEq] at run
          obtain ⟨⟨rfl, rfl⟩, -⟩ := run
          rw [List.append_nil]
          exact tended.answer ordered
      | cons answered before =>
          simp only [List.cons_append, List.cons.injEq] at run
          obtain ⟨rfl, run⟩ := run
          rw [List.append_cons]
          exact ih (tended.step ordered) rest first run

/-- What a pair's calls are answered is what its calls alone would be answered,
from any cache with the pair's entries. -/
theorem answers_of_pair {calls : List ThrottleCall}
    {cache alone : ThrottleCache}
    (same : cache.entries (key userId severity) =
      alone.entries (key userId severity)) :
    (answers windowHours maxPerHour cache calls).filter
        (fun answer => isFor userId severity answer.1) =
      answers windowHours maxPerHour alone
        (calls.filter (isFor userId severity)) := by
  induction calls generalizing cache alone with
  | nil => rfl
  | cons call calls ih =>
      rw [answers_cons]
      cases mine : isFor userId severity call with
      | false =>
          have kept := check_other cache call windowHours maxPerHour mine
          simpa [mine] using ih (kept.trans same)
      | true =>
          obtain ⟨rfl, rfl⟩ :
              call.userId = userId ∧ call.severity = severity := by
            simpa [isFor] using mine
          have finds : found cache call windowHours =
              found alone call windowHours := by
            rw [found, same, found]
          have answer : (check cache call windowHours maxPerHour).1 =
              (check alone call windowHours maxPerHour).1 := by
            rw [check_answer, finds, check_answer]
          have entries :
              (check cache call windowHours maxPerHour).2.entries
                  (key call.userId call.severity) =
                (check alone call windowHours maxPerHour).2.entries
                  (key call.userId call.severity) := by
            rw [check_entries, finds, answer, check_entries]
          simp only [mine, List.filter_cons_of_pos, answers_cons, answer]
          rw [ih entries]

end Run

/-- Whatever the window and the limit, and whoever calls in between: no
half-open interval of the window's length has more calls of a pair let through
than the limit; a call is throttled exactly when that many calls of its pair
were let through in the window before it, whatever was throttled; and a pair's
answers are those that its calls alone would get. -/
theorem throttling_bound (windowHours maxPerHour : ℤ)
    (calls : List ThrottleCall) (inOrder : InOrder calls) (userId : UserId)
    (severity : NotificationSeverity) :
    Bounded (hours windowHours) maxPerHour.toNat
        (accepted userId severity (answers windowHours maxPerHour {} calls)) ∧
      (∀ before call throttled after,
        answers windowHours maxPerHour {} calls =
            before ++ (call, throttled) :: after →
          isFor userId severity call = true →
          (throttled = true ↔ maxPerHour ≤
            countUpTo (call.now - hours windowHours) (hours windowHours)
              (accepted userId severity before))) ∧
      (answers windowHours maxPerHour {} calls).filter
          (fun answer => isFor userId severity answer.1) =
        answers windowHours maxPerHour {}
          (calls.filter (isFor userId severity)) := by
  obtain ⟨clock, late⟩ := inOrder.start
  have tended := Tended.start windowHours clock
  refine ⟨?_, ?_, answers_of_pair rfl⟩
  · exact tended.run_bounded inOrder late (Bounded.start _ _)
  · intro before call throttled after run mine
    obtain ⟨rfl, rfl⟩ : call.userId = userId ∧ call.severity = severity := by
      simpa [isFor] using mine
    have earlier := accepted_earlier inOrder run call.userId call.severity
    rw [tended.run_answer inOrder late run, List.nil_append,
      decide_eq_true_iff, countUpTo_eq_countAfter]
    simpa using earlier

/-- With a limit of two an hour: the third call in an hour is throttled, a call
for another severity isn't, and the sender is let through again when an hour
has passed since the first call. -/
theorem throttling_bound_third_call :
    accepted "u" .high (answers 1 2 {}
      [⟨"u", .high, 0⟩, ⟨"u", .high, 10⟩, ⟨"u", .high, 20⟩, ⟨"u", .low, 30⟩,
        ⟨"u", .high, 3600000000⟩]) = [0, 10, 3600000000] ∧
    Bounded (hours 1) 2 (accepted "u" .high (answers 1 2 {}
      [⟨"u", .high, 0⟩, ⟨"u", .high, 10⟩, ⟨"u", .high, 20⟩, ⟨"u", .low, 30⟩,
        ⟨"u", .high, 3600000000⟩])) :=
  ⟨by decide, (throttling_bound 1 2 _ (by decide) "u" .high).1⟩

end ThrottleBound

end Integr8s
