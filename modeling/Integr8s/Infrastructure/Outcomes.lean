/-
Module: Integr8s.Infrastructure.Outcomes
Purpose: What becomes of a command of a store that can go wrong.
Trusted boundary: human-reviewed spec
Main exports: Outcome.perform, Outcome.perform_cases
-/
import Integr8s.Infrastructure.World

namespace Integr8s

namespace Outcome

variable {Answer : Type} {Store : Type}

/-- What becomes of a command: it goes through, fails without an effect, or
takes effect without its answer. -/
def perform (outcome : Outcome) (mayRaise : PyException → Bool)
    (store : Store) (went : Except PyException Answer × Store) :
    Option (Except PyException Answer × Store) :=
  match outcome with
  | .succeeds => some went
  | .fails error =>
      if mayRaise error then some (.error error, store) else none
  | .unacknowledged error =>
      if mayRaise error then some (.error error, went.2) else none

/-- The three ways in which a command can go. -/
theorem perform_cases {outcome : Outcome} {mayRaise : PyException → Bool}
    {store next : Store} {went : Except PyException Answer × Store}
    {reply : Except PyException Answer}
    (performed : outcome.perform mayRaise store went = some (reply, next)) :
    (outcome = .succeeds ∧ went = (reply, next)) ∨
    ∃ error, reply = .error error ∧ mayRaise error = true ∧
      (outcome = .fails error ∧ next = store ∨
        outcome = .unacknowledged error ∧ next = went.2) := by
  unfold perform at performed
  cases outcome with
  | succeeds => exact .inl ⟨rfl, Option.some.inj performed⟩
  | fails error =>
      simp only [Option.ite_none_right_eq_some, Option.some.injEq,
        Prod.mk.injEq] at performed
      obtain ⟨may, rfl, rfl⟩ := performed
      exact .inr ⟨error, rfl, may, .inl ⟨rfl, rfl⟩⟩
  | unacknowledged error =>
      simp only [Option.ite_none_right_eq_some, Option.some.injEq,
        Prod.mk.injEq] at performed
      obtain ⟨may, rfl, rfl⟩ := performed
      exact .inr ⟨error, rfl, may, .inr ⟨rfl, rfl⟩⟩

end Outcome

end Integr8s
