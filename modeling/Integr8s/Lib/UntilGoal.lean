/-
Module: Integr8s.Lib.UntilGoal
Purpose: Contracts that bind their callers only until a goal is reached: once
  a lasting goal holds, nothing more is asked of a run and nothing more is
  promised.
Trusted boundary: none
Main exports: System.Keeps, Contract.untilGoal, Contract.wp_untilGoal,
  Contract.Sound.untilGoal, Contract.Stable.untilGoal
-/
import Integr8s.Lib.RelyGuarantee

universe u v x y

variable {Caller : Type u} {Shared : Type v} {Command : Type}
  {Reply : Command → Type} {Error Value : Type} {Choice : Type x}
  {Event : Type y}

/-- No step of a system takes a goal back. -/
structure System.Keeps
    (system : System Caller Shared Command Reply Error Choice Event)
    (goal : Shared → Prop) : Prop where
  perform : ∀ caller shared command choice reply next, goal shared →
    system.perform caller shared command choice = some (reply, next) →
      goal next
  environment : ∀ shared event next, goal shared →
    system.environment shared event = some next → goal next
  kill : ∀ shared caller next, goal shared →
    system.kill shared caller = some next → goal next

namespace Contract

/-- The contract until the goal is reached. -/
def untilGoal (contract : Contract Caller Shared Command Choice Event)
    (goal : Shared → Prop) : Contract Caller Shared Command Choice Event where
  invariant shared := goal shared ∨ contract.invariant shared
  guarantee caller before after :=
    (goal before → goal after) ∧
      (goal after ∨ contract.guarantee caller before after)
  rely caller before after :=
    (goal before → goal after) ∧
      (goal after ∨ contract.rely caller before after)
  progress before after :=
    (goal before → goal after) ∧
      (goal after ∨ contract.progress before after)
  claims caller command shared :=
    goal shared ∨ contract.claims caller command shared
  gone caller shared := goal shared ∨ contract.gone caller shared
  allows caller shared command choice :=
    goal shared ∨ contract.allows caller shared command choice
  permits atWork shared event :=
    goal shared ∨ contract.permits atWork shared event
  mayKill shared caller := goal shared ∨ contract.mayKill shared caller

variable {contract : Contract Caller Shared Command Choice Event}
  {system : System Caller Shared Command Reply Error Choice Event}
  {goal : Shared → Prop} {caller : Caller} {α : Type}

/-- A coroutine that keeps a contract keeps it until the goal, and one that
starts with the goal reached has nothing to keep. -/
theorem wp_untilGoal (keeps : system.Keeps goal)
    {coroutine : Coroutine Command Reply Error α}
    {post : Except Error α → Shared → Prop} {shared : Shared}
    (holds : goal shared ∨
      contract.wp system caller coroutine post shared) :
    (contract.untilGoal goal).wp system caller coroutine
      (fun result after => goal after ∨ post result after) shared := by
  induction coroutine generalizing shared with
  | done result => exact holds
  | await command resume inductionHypothesis =>
      refine ⟨holds.imp_right fun here => here.1, ?_⟩
      intro choice reply next allowed performed
      have reachedAlready (reached : goal next) :
          ∀ later, (contract.untilGoal goal).Later caller next later →
            (contract.untilGoal goal).wp system caller (resume reply)
              (fun result after => goal after ∨ post result after) later :=
        fun later follows =>
          inductionHypothesis reply (.inl (follows.1.1 reached))
      by_cases before : goal shared
      · have reached := keeps.perform _ _ _ _ _ _ before performed
        exact ⟨.inl reached, ⟨fun _ => reached, .inl reached⟩,
          reachedAlready reached⟩
      · obtain ⟨kept, promised, resumes⟩ :=
          (holds.resolve_left before).2 choice reply next
            (allowed.resolve_left before) performed
        refine ⟨.inr kept, ⟨fun here => absurd here before, .inr promised⟩, ?_⟩
        intro later follows
        apply inductionHypothesis reply
        rcases follows.2 with reached | keptLater
        · exact .inl reached
        · rcases follows.1.2 with reached | relied
          · exact .inl reached
          · exact .inr (resumes later ⟨relied, keptLater⟩)
  | loop body resume bodyHypothesis resumeHypothesis =>
      -- Once the goal is reached, no round of the loop has to keep anything
      have afterGoal (again : Shared → Prop)
          (covers : ∀ after, goal after → again after) {head : Shared}
          (reached : goal head) :
          (contract.untilGoal goal).wp system caller body
            (AfterRound again fun ending =>
              (contract.untilGoal goal).wp system caller (resume ending)
                fun result after => goal after ∨ post result after) head := by
        have unbound : goal head ∨
            contract.wp system caller body (fun _ _ => False) head :=
          .inl reached
        have kept : (contract.untilGoal goal).invariant head := .inl reached
        apply wp_mono _ kept (bodyHypothesis unbound)
        intro answer after _ follows
        have reachedAfter : goal after := follows.resolve_right id
        match answer with
        | .ok true => exact covers after reachedAfter
        | .ok false => exact resumeHypothesis _ (.inl reachedAfter)
        | .error error => exact resumeHypothesis _ (.inl reachedAfter)
      by_cases before : goal shared
      · exact ⟨goal, before, fun head reached _ =>
          afterGoal goal (fun _ reached => reached) reached⟩
      · obtain ⟨again, here, rounds⟩ := holds.resolve_left before
        refine ⟨fun head => goal head ∨ again head, .inr here, ?_⟩
        intro head loops kept
        by_cases reached : goal head
        · exact afterGoal _ (fun _ reached => .inl reached) reached
        · apply wp_mono _ kept (bodyHypothesis (.inr (rounds head
            (loops.resolve_left reached) (kept.resolve_left reached))))
          intro answer after _ follows
          match answer with
          | .ok true => exact follows
          | .ok false => exact resumeHypothesis _ follows
          | .error error => exact resumeHypothesis _ follows

/-- What others do within the contract until the goal is what a caller relies
on until the goal. -/
theorem Sound.untilGoal (sound : contract.Sound system)
    (keeps : system.Keeps goal) : (contract.untilGoal goal).Sound system := by
  constructor
  · intro caller shared
    exact ⟨id, .inr (sound.rely_refl caller shared)⟩
  · intro caller first second third earlier later
    refine ⟨later.1 ∘ earlier.1, ?_⟩
    rcases later.2 with reached | relied
    · exact .inl reached
    · rcases earlier.2 with reached | reliedBefore
      · exact .inl (later.1 reached)
      · exact .inr (sound.rely_trans caller _ _ _ reliedBefore relied)
  · intro shared
    exact ⟨id, .inr (sound.progress_refl shared)⟩
  · intro caller other before after different kept keptAfter promised
    refine ⟨promised.1, ?_⟩
    by_cases reached : goal after
    · exact .inl reached
    · right
      exact sound.interference caller other before after different
        (kept.resolve_left (reached ∘ promised.1))
        (keptAfter.resolve_left reached) (promised.2.resolve_left reached)
  · intro caller before after kept promised
    refine ⟨promised.1, ?_⟩
    by_cases reached : goal after
    · exact .inl reached
    · right
      exact sound.progresses caller before after
        (kept.resolve_left (reached ∘ promised.1))
        (promised.2.resolve_left reached)
  · intro atWork shared event next kept permitted happened
    by_cases before : goal shared
    · have reached := keeps.environment _ _ _ before happened
      exact ⟨.inl reached, ⟨fun _ => reached, .inl reached⟩,
        fun _ _ => ⟨fun _ => reached, .inl reached⟩,
        fun _ _ => .inl reached⟩
    · obtain ⟨keptNext, progressed, relied, gone⟩ :=
        sound.environment atWork shared event next
          (kept.resolve_left before) (permitted.resolve_left before) happened
      refine ⟨.inr keptNext,
        ⟨fun reached => absurd reached before, .inr progressed⟩, ?_, ?_⟩
      · intro caller works
        exact ⟨fun reached => absurd reached before,
          .inr (relied caller works)⟩
      · intro caller dead
        exact .inr (gone caller (dead.resolve_left before))
  · intro shared caller next kept may killed
    by_cases before : goal shared
    · have reached := keeps.kill _ _ _ before killed
      exact ⟨.inl reached, ⟨fun _ => reached, .inl reached⟩, .inl reached,
        fun _ _ => ⟨fun _ => reached, .inl reached⟩⟩
    · obtain ⟨keptNext, progressed, gone, relied⟩ :=
        sound.kill shared caller next (kept.resolve_left before)
          (may.resolve_left before) killed
      refine ⟨.inr keptNext,
        ⟨fun reached => absurd reached before, .inr progressed⟩, .inr gone,
        ?_⟩
      intro other different
      exact ⟨fun reached => absurd reached before,
        .inr (relied other different)⟩
  · intro caller before after relied dead
    rcases relied.2 with reached | follows
    · exact .inl reached
    · exact dead.imp relied.1 (sound.gone caller before after follows)

/-- A stable postcondition is stable until the goal. -/
theorem Stable.untilGoal
    {post : Caller → Except Error Value → Shared → Prop}
    (stable : contract.Stable system post) (keeps : system.Keeps goal) :
    (contract.untilGoal goal).Stable system
      (fun caller result shared => goal shared ∨ post caller result shared) := by
  constructor
  · intro caller result before after kept keptAfter relied holds
    by_cases reached : goal after
    · exact .inl reached
    · have unreached : ¬ goal before := reached ∘ relied.1
      right
      exact stable.others caller result before after
        (kept.resolve_left unreached) (keptAfter.resolve_left reached)
        (relied.2.resolve_left reached) (holds.resolve_left unreached)
  · intro atWork shared event next kept permitted happened caller result holds
    by_cases before : goal shared
    · exact .inl (keeps.environment _ _ _ before happened)
    · right
      exact stable.environment atWork shared event next
        (kept.resolve_left before) (permitted.resolve_left before) happened
        caller result (holds.resolve_left before)

end Contract
