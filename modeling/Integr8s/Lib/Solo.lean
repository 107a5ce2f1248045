/-
Module: Integr8s.Lib.Solo
Purpose: A coroutine that runs while no other caller is at work: between its
  commands only the environment acts.  What it comes to whatever its commands
  answer is decided along its structure, with a variant for every loop.
Trusted boundary: none
Main exports: System.solo, System.run_solo, System.watched, Setting,
  Setting.Ends, Setting.ends_bind, Setting.ends_attempt, Setting.ends_call,
  Setting.ends_repeatWhile, Setting.Ends.run, Setting.Ends.inevitable,
  Setting.Ends.run_watched
-/
import Integr8s.Lib.RelyGuarantee

universe u v w x y

namespace System

variable {Caller : Type u} {Shared : Type v} {Command : Type}
  {Reply : Command → Type} {Error Value : Type} {Choice : Type x}
  {Event : Type y}
  (system : System Caller Shared Command Reply Error Choice Event)
  (caller : Caller)

/-! ### A call that runs alone -/

/-- The shared state after the environment acted, if it did. -/
def meanwhile (shared : Shared) : Option Event → Option Shared
  | none => some shared
  | some event => system.environment shared event

/-- A lone caller: before each of its commands the environment may act. -/
def solo : Machine (Shared × Coroutine Command Reply Error Value)
    (Option Event × Choice) where
  step state label :=
    match state.2 with
    | .done _ => none
    | .await command resume =>
        (system.meanwhile state.1 label.1).bind fun between =>
          (system.perform caller between command label.2).map fun after =>
            (after.2, resume after.1)
    | .loop body resume => some (state.1, Coroutine.unroll body resume)

/-- A system that remembers whether all its commands went as they should. -/
def watched (meets : Shared → Command → Choice → Prop) :
    System Caller (Shared × Prop) Command Reply Error Choice Event where
  perform caller state command choice :=
    (system.perform caller state.1 command choice).map fun after =>
      (after.1, after.2, state.2 ∧ meets state.1 command choice)
  environment state event :=
    (system.environment state.1 event).map fun next => (next, state.2)
  kill state caller :=
    (system.kill state.1 caller).map fun next => (next, state.2)

/-- The guard that a lone caller's commands go as they should. -/
def Meets (meets : Shared → Command → Choice → Prop)
    (state : Shared × Coroutine Command Reply Error Value)
    (label : Option Event × Choice) : Prop :=
  ∀ command resume between, state.2 = .await command resume →
    system.meanwhile state.1 label.1 = some between →
      meets between command label.2

/-- What is remembered of one step. -/
theorem step_watched {meets : Shared → Command → Choice → Prop}
    (kept : Prop) {state next : Shared × Coroutine Command Reply Error Value}
    {label : Option Event × Choice}
    (stepped : (system.solo caller).step state label = some next) :
    ∃ now, ((system.watched meets).solo caller).step
        ((state.1, kept), state.2) label = some ((next.1, now), next.2) ∧
      (now ↔ kept ∧ system.Meets meets state label) := by
  obtain ⟨shared, coroutine⟩ := state
  cases coroutine with
  | done result => cases stepped
  | loop body resume =>
      cases stepped
      refine ⟨kept, rfl, (and_iff_left ?_).symm⟩
      rintro command resume between ⟨⟩
  | await command resume =>
      obtain ⟨between, happened, moved⟩ := Option.bind_eq_some_iff.mp stepped
      obtain ⟨after, performed, rfl⟩ := Option.map_eq_some_iff.mp moved
      have acted : (system.watched meets).meanwhile (shared, kept) label.1 =
          some (between, kept) := by
        obtain ⟨event, choice⟩ := label
        cases event with
        | none =>
            cases happened
            rfl
        | some event =>
            simp only [meanwhile] at happened
            simp [meanwhile, watched, happened]
      refine ⟨kept ∧ meets between command label.2, ?_,
        and_congr_right fun _ => ?_⟩
      · show ((system.watched meets).meanwhile (shared, kept) label.1).bind
          _ = _
        rw [acted]
        simp [watched, performed]
      · constructor
        · rintro holds _ _ other ⟨⟩ also
          cases happened.symm.trans also
          exact holds
        · exact fun holds => holds command resume between rfl happened

end System

/-! ### What may happen around a call -/

/-- What may happen around a lone caller: which events of the environment, and
which ways for a command to go. -/
structure Setting (Shared : Type v) (Command : Type) (Choice : Type x)
    (Event : Type y) where
  event : Shared → Event → Prop
  choice : Shared → Command → Choice → Prop

namespace Setting

variable {Caller : Type u} {Shared : Type v} {Command : Type}
  {Reply : Command → Type} {Error α β Value : Type} {Choice : Type x}
  {Event : Type y}

/-- The shared state may be this one when the next command runs. -/
def Later (setting : Setting Shared Command Choice Event)
    (system : System Caller Shared Command Reply Error Choice Event)
    (shared between : Shared) : Prop :=
  between = shared ∨ ∃ event, setting.event shared event ∧
    system.environment shared event = some between

/-- What a round of a loop comes to: a state in which the loop goes on with a
smaller variant, or what follows the loop. -/
def AfterRound (again : Nat → Shared → Prop)
    (ends : Except Error Unit → Shared → Prop) (variant : Nat)
    (answer : Except Error Bool) (after : Shared) : Prop :=
  match answer with
  | .ok true => ∃ smaller < variant, again smaller after
  | .ok false => ends (.ok ()) after
  | .error error => ends (.error error) after

/-- In this setting a lone caller ends, and its result satisfies the
postcondition.  A loop has an assertion of its own, with a variant. -/
def Ends (setting : Setting Shared Command Choice Event)
    (system : System Caller Shared Command Reply Error Choice Event)
    (caller : Caller) :
    {α : Type} → Coroutine Command Reply Error α →
      (Except Error α → Shared → Prop) → Shared → Prop
  | _, .done result, post, shared => post result shared
  | _, .await command resume, post, shared =>
      ∀ between, setting.Later system shared between →
        ∀ choice reply next, setting.choice between command choice →
          system.perform caller between command choice = some (reply, next) →
            setting.Ends system caller (resume reply) post next
  | _, .loop body resume, post, shared =>
      ∃ again : Nat → Shared → Prop, (∃ variant, again variant shared) ∧
        ∀ variant head, again variant head →
          setting.Ends system caller body
            (AfterRound again
              (fun result => setting.Ends system caller (resume result) post)
              variant) head

/-- The setting of a system that remembers. -/
def watching (setting : Setting Shared Command Choice Event) :
    Setting (Shared × Prop) Command Choice Event where
  event state event := setting.event state.1 event
  choice state command choice := setting.choice state.1 command choice

/-- What a setting allows of a lone caller's step. -/
def allows (setting : Setting Shared Command Choice Event)
    (system : System Caller Shared Command Reply Error Choice Event)
    (state : Shared × Coroutine Command Reply Error Value)
    (label : Option Event × Choice) : Prop :=
  ∀ command resume, state.2 = .await command resume →
    (∀ event, label.1 = some event → setting.event state.1 event) ∧
      ∀ between, system.meanwhile state.1 label.1 = some between →
        setting.choice between command label.2

/-! ### The rules for a lone call -/

section Rules

variable {setting : Setting Shared Command Choice Event}
  {system : System Caller Shared Command Reply Error Choice Event}
  {caller : Caller} {shared : Shared}

theorem Later.refl : setting.Later system shared shared :=
  .inl rfl

private theorem ends_andThen (first : Coroutine Command Reply Error α)
    (next : Except Error α → Coroutine Command Reply Error β)
    (post : Except Error β → Shared → Prop) :
    setting.Ends system caller (first.andThen next) post =
      setting.Ends system caller first
        (fun result => setting.Ends system caller (next result) post) := by
  induction first with
  | done result => rfl
  | await command resume inductionHypothesis =>
      funext shared
      simp only [Coroutine.andThen, Ends, inductionHypothesis]
  | loop body resume _ inductionHypothesis =>
      funext shared
      simp only [Coroutine.andThen, Ends, inductionHypothesis]

/-- What ends with a postcondition ends with a weaker one. -/
theorem ends_mono {coroutine : Coroutine Command Reply Error α}
    {strong weak : Except Error α → Shared → Prop}
    (weaken : ∀ result after, strong result after → weak result after)
    (ends : setting.Ends system caller coroutine strong shared) :
    setting.Ends system caller coroutine weak shared := by
  induction coroutine generalizing shared with
  | done result => exact weaken result shared ends
  | await command resume inductionHypothesis =>
      intro between later choice reply next may performed
      exact inductionHypothesis reply weaken
        (ends between later choice reply next may performed)
  | loop body resume bodyHypothesis resumeHypothesis =>
      obtain ⟨again, begins, rounds⟩ := ends
      refine ⟨again, begins, fun variant head goesOn => ?_⟩
      apply bodyHypothesis _ (rounds variant head goesOn)
      intro answer after reached
      rcases answer with error | more
      · exact resumeHypothesis _ weaken reached
      · cases more with
        | true => exact reached
        | false => exact resumeHypothesis _ weaken reached

@[simp] theorem ends_pure (value : α)
    (post : Except Error α → Shared → Prop) :
    setting.Ends system caller (pure value) post shared =
      post (.ok value) shared :=
  rfl

@[simp] theorem ends_raise (error : Error)
    (post : Except Error α → Shared → Prop) :
    setting.Ends system caller (Coroutine.raise error) post shared =
      post (.error error) shared :=
  rfl

/-- Sequencing: what follows starts where the first part ends, and an error of
the first part is the result. -/
theorem ends_bind (first : Coroutine Command Reply Error α)
    (next : α → Coroutine Command Reply Error β)
    (post : Except Error β → Shared → Prop) :
    setting.Ends system caller (first >>= next) post shared =
      setting.Ends system caller first
        (fun result after => match result with
          | .ok value => setting.Ends system caller (next value) post after
          | .error error => post (.error error) after) shared := by
  rw [Coroutine.bind_eq, Coroutine.bind, ends_andThen]
  congr 1
  funext result
  cases result <;> rfl

/-- `try`: the handler starts where the error was raised. -/
theorem ends_attempt (first : Coroutine Command Reply Error α)
    (handler : Error → Coroutine Command Reply Error α)
    (post : Except Error α → Shared → Prop) :
    setting.Ends system caller (first.attempt handler) post shared =
      setting.Ends system caller first
        (fun result after => match result with
          | .ok value => post (.ok value) after
          | .error error =>
              setting.Ends system caller (handler error) post after)
        shared := by
  rw [Coroutine.attempt, ends_andThen]
  congr 1
  funext result
  cases result <;> rfl

/-- One command: however it may go, it leads to the postcondition. -/
theorem ends_call {command : Command}
    {post : Except Error (Reply command) → Shared → Prop}
    (leads : ∀ between, setting.Later system shared between →
      ∀ choice reply next, setting.choice between command choice →
        system.perform caller between command choice = some (reply, next) →
          post reply next) :
    setting.Ends system caller (Coroutine.call command) post shared :=
  leads

/-- A loop, from an assertion of its own with a variant. -/
theorem ends_repeatWhile {body : Coroutine Command Reply Error Bool}
    {post : Except Error Unit → Shared → Prop} (again : Nat → Shared → Prop)
    {variant : Nat} (begins : again variant shared)
    (rounds : ∀ variant head, again variant head →
      setting.Ends system caller body (AfterRound again post variant) head) :
    setting.Ends system caller (Coroutine.repeatWhile body) post shared :=
  ⟨again, ⟨variant, begins⟩, rounds⟩

/-- What may happen to a system that remembers happens to the system. -/
theorem Later.watched {meets : Shared → Command → Choice → Prop}
    {state between : Shared × Prop}
    (later : setting.watching.Later (system.watched meets) state between) :
    setting.Later system state.1 between.1 ∧ between.2 = state.2 := by
  rcases later with rfl | ⟨event, allowed, happened⟩
  · exact ⟨.inl rfl, rfl⟩
  · obtain ⟨next, came, rfl⟩ := Option.map_eq_some_iff.mp happened
    exact ⟨.inr ⟨event, allowed, came⟩, rfl⟩

/-- One command of a system that remembers. -/
theorem ends_watched_call {meets : Shared → Command → Choice → Prop}
    {kept : Prop} {command : Command}
    {post : Except Error (Reply command) → Shared × Prop → Prop}
    (leads : ∀ between, setting.Later system shared between →
      ∀ choice reply next, setting.choice between command choice →
        system.perform caller between command choice = some (reply, next) →
          post reply (next, kept ∧ meets between command choice)) :
    setting.watching.Ends (system.watched meets) caller
      (Coroutine.call command) post (shared, kept) := by
  rintro ⟨between, now⟩ later choice reply ⟨next, still⟩ may performed
  obtain ⟨came, same⟩ := later.watched
  obtain ⟨after, went, same'⟩ := Option.map_eq_some_iff.mp performed
  cases same
  cases same'
  exact leads between came choice _ _ may went

/-- A coroutine that asks only for commands which go as they should, however
they go, leaves what is remembered. -/
theorem ends_watching {meets : Shared → Command → Choice → Prop}
    {allowed : Command → Prop}
    (always : ∀ command, allowed command →
      ∀ shared choice, meets shared command choice)
    {coroutine : Coroutine Command Reply Error α}
    {post : Except Error α → Shared → Prop} {state : Shared × Prop}
    (asks : coroutine.Asks allowed)
    (ends : setting.Ends system caller coroutine post state.1) :
    setting.watching.Ends (system.watched meets) caller coroutine
      (fun result after => post result after.1 ∧ (after.2 ↔ state.2))
      state := by
  induction coroutine generalizing state with
  | done result => exact ⟨ends, Iff.rfl⟩
  | await command resume inductionHypothesis =>
      rintro between later choice reply next may performed
      obtain ⟨came, same⟩ := later.watched
      obtain ⟨after, went, same'⟩ := Option.map_eq_some_iff.mp performed
      cases same'
      apply ends_mono _ (inductionHypothesis after.1 (asks.2 _)
        (ends between.1 came choice _ _ may went))
      rintro result last ⟨reached, still⟩
      refine ⟨reached, still.trans ?_⟩
      rw [← same]
      exact and_iff_left (always command asks.1 _ _)
  | loop body resume bodyHypothesis resumeHypothesis =>
      obtain ⟨again, ⟨variant, begins⟩, rounds⟩ := ends
      refine ⟨fun variant head => again variant head.1 ∧
        (head.2 ↔ state.2), ⟨variant, begins, Iff.rfl⟩, ?_⟩
      rintro variant head ⟨goesOn, same⟩
      apply ends_mono _ (bodyHypothesis asks.1 (rounds variant head.1 goesOn))
      rintro answer after ⟨reached, still⟩
      have ends : ∀ result,
          setting.Ends system caller (resume result) post after.1 →
            setting.watching.Ends (system.watched meets) caller
              (resume result) (fun result after => post result after.1 ∧
                (after.2 ↔ state.2)) after := by
        intro result there
        apply ends_mono _ (resumeHypothesis result (asks.2 _) there)
        rintro _ last ⟨done, stays⟩
        exact ⟨done, stays.trans (still.trans same)⟩
      rcases answer with error | more
      · exact ends _ reached
      · cases more with
        | true =>
            obtain ⟨smaller, less, there⟩ := reached
            exact ⟨smaller, less, there, still.trans same⟩
        | false => exact ends _ reached

/-- Unrolling one round of a loop ends as the loop does. -/
theorem ends_unroll {body : Coroutine Command Reply Error Bool}
    {resume : Except Error Unit → Coroutine Command Reply Error α}
    {post : Except Error α → Shared → Prop}
    (ends : setting.Ends system caller (.loop body resume) post shared) :
    setting.Ends system caller (Coroutine.unroll body resume) post
      shared := by
  obtain ⟨again, ⟨variant, begins⟩, rounds⟩ := ends
  rw [Coroutine.unroll, ends_andThen]
  apply ends_mono _ (rounds variant shared begins)
  intro answer after reached
  rcases answer with error | more
  · exact reached
  · cases more with
    | true =>
        obtain ⟨smaller, -, there⟩ := reached
        exact ⟨again, ⟨smaller, there⟩, rounds⟩
    | false => exact reached

end Rules

/-! ### From rules to runs

What the rules say of a coroutine holds of every run of it alone, and such a
run is one of the machine in which the other callers stand still. -/

section Runs

variable {setting : Setting Shared Command Choice Event}
  {system : System Caller Shared Command Reply Error Choice Event}
  {caller : Caller} {shared final : Shared}
  {post : Except Error Value → Shared → Prop}

/-- An allowed step goes on to the same postcondition. -/
theorem Ends.step {state next : Shared × Coroutine Command Reply Error Value}
    {label : Option Event × Choice}
    (ends : setting.Ends system caller state.2 post state.1)
    (allowed : setting.allows system state label)
    (stepped : (system.solo caller).step state label = some next) :
    setting.Ends system caller next.2 post next.1 := by
  obtain ⟨shared, coroutine⟩ := state
  cases coroutine with
  | done result => cases stepped
  | loop body resume =>
      cases stepped
      exact ends_unroll ends
  | await command resume =>
      obtain ⟨between, happened, moved⟩ := Option.bind_eq_some_iff.mp stepped
      obtain ⟨⟨reply, after⟩, performed, rfl⟩ :=
        Option.map_eq_some_iff.mp moved
      obtain ⟨events, choices⟩ := allowed command resume rfl
      apply ends between _ label.2 reply after (choices between happened)
        performed
      obtain ⟨event, choice⟩ := label
      cases event with
      | none => exact .inl (Option.some.inj happened).symm
      | some event => exact .inr ⟨event, events event rfl, happened⟩

/-- What an allowed run of a lone caller ends in. -/
theorem Ends.run {coroutine : Coroutine Command Reply Error Value}
    {labels : List (Option Event × Choice)} {result : Except Error Value}
    (ends : setting.Ends system caller coroutine post shared)
    (along : (system.solo caller).Along (setting.allows system)
      (shared, coroutine) labels)
    (reached : (system.solo caller).run (shared, coroutine) labels =
      some (final, .done result)) : post result final := by
  have kept := (system.solo caller).run_invariant (setting.allows system)
    (fun state => setting.Ends system caller state.2 post state.1)
    (fun state label next holds allowed stepped =>
      Ends.step holds allowed stepped) ends along reached
  exact kept

/-- In a setting in which every command can go some way, every allowed run of
a lone caller comes to an end. -/
theorem Ends.inevitable_andThen [Nonempty Choice]
    (goes : ∀ shared command, ∃ choice reply next,
      setting.choice shared command choice ∧
        system.perform caller shared command choice = some (reply, next))
    (goal : Shared × Coroutine Command Reply Error Value → Prop)
    {coroutine : Coroutine Command Reply Error α}
    {reaches : Except Error α → Shared → Prop}
    (next : Except Error α → Coroutine Command Reply Error Value)
    (ends : setting.Ends system caller coroutine reaches shared)
    (goesOn : ∀ result after, reaches result after →
      (system.solo caller).Inevitable (setting.allows system) goal
        (after, next result)) :
    (system.solo caller).Inevitable (setting.allows system) goal
      (shared, coroutine.andThen next) := by
  induction coroutine generalizing shared with
  | done result => exact goesOn result shared ends
  | await command resume inductionHypothesis =>
      apply Machine.Inevitable.goesOn
      · obtain ⟨choice, reply, after, may, performed⟩ := goes shared command
        refine ⟨(none, choice), (after, (resume reply).andThen next), ?_, ?_⟩
        · rintro _ _ ⟨⟩
          refine ⟨fun event never => ?_, fun between same => ?_⟩
          · cases never
          · cases same
            exact may
        · simp [System.solo, System.meanwhile, Coroutine.andThen, performed]
      · intro label state allowed stepped
        obtain ⟨between, happened, moved⟩ :=
          Option.bind_eq_some_iff.mp stepped
        obtain ⟨⟨reply, after⟩, performed, rfl⟩ :=
          Option.map_eq_some_iff.mp moved
        obtain ⟨events, choices⟩ := allowed command _ rfl
        apply inductionHypothesis reply next _ goesOn
        apply ends between _ label.2 reply after (choices between happened)
          performed
        obtain ⟨event, choice⟩ := label
        cases event with
        | none => exact .inl (Option.some.inj happened).symm
        | some event => exact .inr ⟨event, events event rfl, happened⟩
  | loop body resume bodyHypothesis resumeHypothesis =>
      obtain ⟨again, ⟨variant, begins⟩, rounds⟩ := ends
      -- The rounds come to an end by the variant
      induction variant using Nat.strongRecOn generalizing shared with
      | ind variant smallerHypothesis =>
          apply Machine.Inevitable.goesOn
          · obtain ⟨choice⟩ := ‹Nonempty Choice›
            refine ⟨(none, choice), _, ?_, rfl⟩
            intro command rest same
            cases same
          · intro label state allowed stepped
            cases stepped
            apply bodyHypothesis _ (rounds variant shared begins)
            intro answer after reached
            rcases answer with error | more
            · exact resumeHypothesis _ next reached goesOn
            · cases more with
              | true =>
                  obtain ⟨smaller, less, there⟩ := reached
                  exact smallerHypothesis smaller less there
              | false => exact resumeHypothesis _ next reached goesOn

/-- In such a setting every allowed run of a lone caller comes to a result
that satisfies the postcondition. -/
theorem Ends.inevitable [Nonempty Choice]
    (goes : ∀ shared command, ∃ choice reply next,
      setting.choice shared command choice ∧
        system.perform caller shared command choice = some (reply, next))
    {coroutine : Coroutine Command Reply Error Value}
    (ends : setting.Ends system caller coroutine post shared) :
    (system.solo caller).Inevitable (setting.allows system)
      (fun state => ∃ result, state.2 = .done result ∧ post result state.1)
      (shared, coroutine) := by
  have whole := Ends.inevitable_andThen goes
    (fun state => ∃ result, state.2 = .done result ∧ post result state.1)
    (fun result => .done result) ends
    fun result after reached => .reached _ ⟨result, rfl, reached⟩
  rwa [Coroutine.andThen_done] at whole

/-- What a setting allows, it allows of a system that remembers. -/
theorem allows_watched {meets : Shared → Command → Choice → Prop}
    {state : Shared × Coroutine Command Reply Error Value} {kept : Prop}
    {label : Option Event × Choice}
    (allowed : setting.allows system state label) :
    setting.watching.allows (system.watched meets)
      ((state.1, kept), state.2) label := by
  intro command resume awaits
  obtain ⟨events, choices⟩ := allowed command resume awaits
  refine ⟨events, fun between happened => choices between.1 ?_⟩
  obtain ⟨event, choice⟩ := label
  cases event with
  | none =>
      cases happened
      rfl
  | some event =>
      obtain ⟨next, came, rfl⟩ := Option.map_eq_some_iff.mp happened
      exact came

/-- What an allowed run of a lone caller ends in, and what is remembered of
it: whether all its commands went as they should. -/
theorem Ends.run_watched {meets : Shared → Command → Choice → Prop}
    {kept : Prop} {ended : Except Error Value → Shared × Prop → Prop}
    {coroutine : Coroutine Command Reply Error Value}
    {labels : List (Option Event × Choice)} {result : Except Error Value}
    (ends : setting.watching.Ends (system.watched meets) caller coroutine
      ended (shared, kept))
    (along : (system.solo caller).Along (setting.allows system)
      (shared, coroutine) labels)
    (reached : (system.solo caller).run (shared, coroutine) labels =
      some (final, .done result)) :
    ∃ stays, ended result (final, stays) ∧
      (stays ↔ kept ∧ (system.solo caller).Along (system.Meets meets)
        (shared, coroutine) labels) := by
  induction labels generalizing shared kept coroutine with
  | nil =>
      cases reached
      exact ⟨kept, ends, (and_iff_left trivial).symm⟩
  | cons label labels inductionHypothesis =>
      obtain ⟨⟨between, middle⟩, stepped, goesOn⟩ :=
        Option.bind_eq_some_iff.mp reached
      obtain ⟨now, watched, counts⟩ :=
        @System.step_watched _ _ _ _ _ _ _ _ system caller meets kept _ _ _
          stepped
      obtain ⟨stays, holds, same⟩ := inductionHypothesis
        (Ends.step ends (allows_watched along.1) watched)
        (along.2 _ stepped) goesOn
      refine ⟨stays, holds, same.trans ?_⟩
      rw [counts, and_assoc]
      refine and_congr_right fun _ => and_congr_right fun _ => ?_
      constructor
      · intro meetsRest next also
        cases stepped.symm.trans also
        exact meetsRest
      · exact fun meetsRest => meetsRest _ stepped

end Runs

end Setting
