/-
Module: Integr8s.Proofs.ScriptIsolation
Purpose: Users do not notice each other through their saved scripts: whatever
  the requests of all users do and in whatever order, each user's requests go
  as if nobody else had made any, and the user's scripts are the same.
Trusted boundary: none
Main exports: ScriptIsolation.Own, ScriptIsolation.isolates,
  ScriptIsolation.scripts_isolated
-/
import Integr8s.Lib.Isolation
import Integr8s.Services.SavedScripts

namespace Integr8s

namespace ScriptIsolation

open ScriptStore (names)

/-! ### What a call may touch -/

section Claims

variable (calls : Caller → SavedScriptCall)

/-- A call names no owner but its own user, and stores a script under an id
that it drew itself. -/
def Own (caller : Caller) (store : ScriptStore) : ScriptCommand → Prop
  | .now | .uuid => True
  | .insert doc => doc.userId = (calls caller).userId ∧
      store.drawn doc.scriptId = some caller
  | .findOne _ userId | .find userId | .set _ userId _ _
  | .delete _ userId => userId = (calls caller).userId

/-- The id of every script was drawn by a call of the script's owner. -/
def Drawn (store : ScriptStore) : Prop :=
  ∀ doc ∈ store.scripts, ∃ caller,
    store.drawn doc.scriptId = some caller ∧
      (calls caller).userId = doc.userId

/-- The ids that were drawn stay drawn. -/
def Remembers (before after : ScriptStore) : Prop :=
  ∀ scriptId caller, before.drawn scriptId = some caller →
    after.drawn scriptId = some caller

/-- The contract of the calls. -/
def contract : Contract Caller ScriptStore ScriptCommand ScriptChoice
    ScriptEvent where
  invariant := Drawn calls
  guarantee _ := Remembers
  rely _ := Remembers
  claims caller command store := Own calls caller store command

variable {calls} {caller : Caller} {store next : ScriptStore}
  {command : ScriptCommand} {choice : ScriptChoice}

/-- An id that is drawn was not drawn before. -/
theorem fresh_of_performed
    {reply : Except PyException (ScriptReply command)}
    (performed : scriptBackend.perform caller store command choice =
      some (reply, next)) (draws : command.draws = true) :
    store.drawn choice.uuid = none := by
  simp only [scriptBackend, draws, Bool.true_and,
    Option.ite_none_left_eq_some] at performed
  simpa using performed.1

/-- A command goes wrong without an effect, or it has its effect. -/
theorem performed_cases
    {reply : Except PyException (ScriptReply command)}
    (performed : scriptBackend.perform caller store command choice =
      some (reply, next)) :
    next = store ∧ (∃ error, reply = .error error) ∨
      next = (store.effect caller choice.uuid command).2 ∧
        ((∃ error, reply = .error error) ∨
          reply = (store.effect caller choice.uuid command).1) := by
  simp only [scriptBackend, Option.ite_none_left_eq_some] at performed
  rcases Outcome.perform_cases performed.2 with
    ⟨-, went⟩ | ⟨error, raised, -, ⟨-, same⟩ | ⟨-, same⟩⟩
  · exact .inr ⟨by rw [went], .inr (by rw [went])⟩
  · exact .inl ⟨same, error, raised⟩
  · exact .inr ⟨same, .inl ⟨error, raised⟩⟩

/-- An effect of a call's own command keeps the ids in order. -/
theorem drawn_effect (choice : ScriptChoice) (drawn : Drawn calls store)
    (own : Own calls caller store command)
    (fresh : command.draws = true → store.drawn choice.uuid = none) :
    Drawn calls (store.effect caller choice.uuid command).2 ∧
      Remembers store (store.effect caller choice.uuid command).2 := by
  cases command with
  | now => exact ⟨drawn, fun _ _ => id⟩
  | uuid =>
      have remembers : Remembers store
          (store.effect caller choice.uuid .uuid).2 := by
        intro scriptId drawer known
        have different : scriptId ≠ choice.uuid := by
          intro same
          rw [same, fresh rfl] at known
          cases known
        simpa [ScriptStore.effect, Function.update_of_ne different] using known
      refine ⟨fun doc member => ?_, remembers⟩
      obtain ⟨drawer, known, owner⟩ := drawn doc member
      exact ⟨drawer, remembers _ _ known, owner⟩
  | insert doc =>
      simp only [ScriptStore.effect]
      split
      · exact ⟨drawn, fun _ _ => id⟩
      · refine ⟨fun other member => ?_, fun _ _ => id⟩
        rcases List.mem_append.mp member with earlier | new
        · exact drawn other earlier
        · cases List.mem_singleton.mp new
          exact ⟨caller, own.2, own.1.symm⟩
  | findOne scriptId userId => exact ⟨drawn, fun _ _ => id⟩
  | find userId => exact ⟨drawn, fun _ _ => id⟩
  | set scriptId userId changes updatedAt =>
      simp only [ScriptStore.effect]
      split
      · exact ⟨drawn, fun _ _ => id⟩
      · refine ⟨fun other member => ?_, fun _ _ => id⟩
        obtain ⟨doc, among, rfl⟩ := List.mem_map.mp member
        obtain ⟨drawer, known, owner⟩ := drawn doc among
        refine ⟨drawer, ?_, ?_⟩
        · split <;> exact known
        · split <;> exact owner
  | delete scriptId userId =>
      exact ⟨fun doc member => drawn doc (List.mem_filter.mp member).1,
        fun _ _ => id⟩

/-- A step of a call keeps the ids in order. -/
theorem drawn_performed {reply : Except PyException (ScriptReply command)}
    (drawn : Drawn calls store) (own : Own calls caller store command)
    (performed : scriptBackend.perform caller store command choice =
      some (reply, next)) : Drawn calls next ∧ Remembers store next := by
  rcases performed_cases performed with ⟨rfl, -⟩ | ⟨rfl, -⟩
  · exact ⟨drawn, fun _ _ => id⟩
  · exact drawn_effect choice drawn own (fresh_of_performed performed)

/-- One command of a call that keeps the contract. -/
theorem wp_scripts
    {post : Except PyException (ScriptReply command) → ScriptStore → Prop}
    (drawn : Drawn calls store) (own : Own calls caller store command)
    (leads : ∀ choice reply next later,
      scriptBackend.perform caller store command choice =
        some (reply, next) → Remembers next later →
          Remembers store later → Drawn calls later → post reply later) :
    (contract calls).wp scriptBackend caller (scripts command) post store := by
  apply Contract.wp_call own
  intro choice reply next _ performed
  obtain ⟨kept, remembers⟩ := drawn_performed drawn own performed
  exact ⟨kept, remembers, fun later reached =>
    leads choice reply next later performed reached.1
      (fun scriptId drawer known =>
        reached.1 scriptId drawer (remembers scriptId drawer known))
      reached.2⟩

/-- The commands other than `insert` with which a call keeps to its user. -/
def Keeping (userId : UserId) : ScriptCommand → Prop
  | .now | .uuid => True
  | .insert _ => False
  | .findOne _ owner | .find owner | .set _ owner _ _ | .delete _ owner =>
      owner = userId

/-- A call that stores no script keeps the contract whatever it is
answered. -/
theorem wp_keeping {coroutine : ScriptProgram SavedScriptAnswer}
    (drawn : Drawn calls store)
    (asks : coroutine.Asks (Keeping (calls caller).userId)) :
    (contract calls).wp scriptBackend caller coroutine (fun _ _ => True)
      store := by
  apply Contract.wp_asks _ asks drawn trivial
  intro command before keeping kept _
  have own : Own calls caller before command := by
    cases command with
    | insert doc => exact keeping.elim
    | now => trivial
    | uuid => trivial
    | findOne scriptId userId => exact keeping
    | find userId => exact keeping
    | set scriptId userId changes updatedAt => exact keeping
    | delete scriptId userId => exact keeping
  refine ⟨own, fun choice reply after _ performed => ?_⟩
  obtain ⟨still, remembers⟩ := drawn_performed kept own performed
  exact ⟨still, remembers, fun _ _ => trivial⟩

private theorem asks_ensureRuntimeOffered {allowed : ScriptCommand → Prop}
    (lang langVersion : String) :
    (SavedScriptService.ensureRuntimeOffered lang langVersion).Asks
      allowed := by
  unfold SavedScriptService.ensureRuntimeOffered
  split <;> trivial

private theorem asks_getSavedScript (scriptId : ScriptId) (userId : UserId) :
    (SavedScriptService.getSavedScript scriptId userId).Asks
      (Keeping userId) := by
  apply Coroutine.Asks.bind
  · exact Coroutine.Asks.call rfl
  intro found
  cases found <;> trivial

private theorem asks_updateSavedScript (scriptId : ScriptId) (userId : UserId)
    (changes : SavedScriptChanges) :
    (SavedScriptService.updateSavedScript scriptId userId changes).Asks
      (Keeping userId) := by
  have updates : (SavedScriptRepository.updateSavedScript scriptId userId
      changes).Asks (Keeping userId) := by
    apply Coroutine.Asks.bind
    · exact Coroutine.Asks.call trivial
    intro updatedAt
    exact Coroutine.Asks.call rfl
  apply Coroutine.Asks.bind
  · exact Coroutine.Asks.call rfl
  intro found
  cases found with
  | none => trivial
  | some stored =>
      dsimp only
      split
      · apply Coroutine.Asks.bind (asks_ensureRuntimeOffered _ _)
        intro _
        exact updates
      · exact updates

private theorem asks_deleteSavedScript (scriptId : ScriptId) (userId : UserId) :
    (SavedScriptService.deleteSavedScript scriptId userId).Asks
      (Keeping userId) := by
  apply Coroutine.Asks.bind
  · apply Coroutine.Asks.bind
    · exact Coroutine.Asks.call rfl
    intro found
    cases found with
    | none => trivial
    | some doc =>
        apply Coroutine.Asks.bind
        · exact Coroutine.Asks.call rfl
        intro _
        trivial
  · intro deleted
    cases deleted <;> trivial

/-- A call that stores a script draws its id first. -/
theorem wp_createSavedScript (name script lang langVersion : String)
    (description : Option String) (drawn : Drawn calls store) :
    (contract calls).wp scriptBackend caller
      (SavedScriptService.createSavedScript (calls caller).userId name script
        lang langVersion description) (fun _ _ => True) store := by
  unfold SavedScriptService.createSavedScript
    SavedScriptService.ensureRuntimeOffered
  rw [Contract.wp_bind]
  split
  swap
  · trivial
  rw [Contract.wp_pure, Contract.wp_bind]
  apply wp_scripts drawn
  · trivial
  intro choice reply next afterDraw performed remembers _ drawnThen
  cases reply with
  | error error => trivial
  | ok scriptId =>
      have mine : next.drawn scriptId = some caller := by
        rcases performed_cases performed with
          ⟨-, error, raised⟩ | ⟨rfl, ⟨error, raised⟩ | answered⟩
        · cases raised
        · cases raised
        · cases answered
          simp [ScriptStore.effect]
      dsimp only
      rw [Contract.wp_bind]
      apply wp_scripts drawnThen
      · trivial
      intro _ createdAt _ afterFirst _ _ remembersFirst drawnFirst
      cases createdAt with
      | error error => trivial
      | ok createdAt =>
          dsimp only
          rw [Contract.wp_bind]
          apply wp_scripts drawnFirst
          · trivial
          intro _ updatedAt _ afterSecond _ _ remembersSecond drawnSecond
          cases updatedAt with
          | error error => trivial
          | ok updatedAt =>
              dsimp only
              rw [Contract.wp_bind]
              apply wp_scripts drawnSecond
              · exact ⟨rfl, remembersSecond _ _ (remembersFirst _ _
                  (remembers _ _ mine))⟩
              intro _ stored _ _ _ _ _ _
              cases stored <;> trivial

/-- Every call keeps the contract. -/
theorem wp_run (drawn : Drawn calls store) :
    (contract calls).wp scriptBackend caller (calls caller).run
      (fun _ _ => True) store := by
  unfold SavedScriptCall.run
  cases (calls caller).request with
  | create name script lang langVersion description =>
      rw [Contract.wp_bind]
      apply Contract.wp_mono _ drawn
        (wp_createSavedScript name script lang langVersion description drawn)
      intro answer after _ _
      cases answer <;> trivial
  | get scriptId =>
      apply wp_keeping drawn
      apply Coroutine.Asks.bind (asks_getSavedScript _ _)
      intro _
      trivial
  | update scriptId changes =>
      apply wp_keeping drawn
      apply Coroutine.Asks.bind (asks_updateSavedScript _ _ _)
      intro _
      trivial
  | delete scriptId =>
      apply wp_keeping drawn
      apply Coroutine.Asks.bind (asks_deleteSavedScript _ _)
      intro _
      trivial
  | list =>
      apply wp_keeping drawn
      apply Coroutine.Asks.bind
      · exact Coroutine.Asks.call rfl
      intro _
      trivial

variable (calls) in
theorem sound : (contract calls).Sound scriptBackend where
  rely_refl _ _ _ _ := id
  rely_trans _ _ _ _ first second scriptId drawer known :=
    second scriptId drawer (first scriptId drawer known)
  progress_refl _ := trivial
  interference _ _ _ _ _ _ _ := id
  progresses _ _ _ _ _ := trivial
  environment _ store event next drawn _ happened := by
    cases event with
    | tick duration =>
        cases happened
        exact ⟨drawn, trivial, fun _ _ _ _ => id, fun _ => id⟩
    | deleteUser userId =>
        cases happened
        exact ⟨fun doc member => drawn doc (List.mem_filter.mp member).1,
          trivial, fun _ _ _ _ => id, fun _ => id⟩
  kill store _ next drawn _ killed := by
    cases killed
    exact ⟨drawn, trivial, trivial, fun _ _ _ _ => id⟩
  gone _ _ _ _ _ := trivial

/-- In every run from an empty store the calls keep to their own. -/
theorem along_own (moves : List (Move Caller ScriptChoice ScriptEvent)) :
    scriptBackend.machine.Along (System.KeepsTo (Own calls))
      (SavedScriptCall.start {} calls) moves := by
  have start : (contract calls).Safe scriptBackend (fun _ _ _ => True)
      (SavedScriptCall.start {} calls) := by
    apply Contract.Safe.start (sound calls)
    · intro doc member
      cases member
    · intro caller dead
      cases dead
    · intro caller coroutine runs later reached
      cases runs
      exact wp_run reached.2
  apply (sound calls).along_claims Contract.stable_true start
  apply scriptBackend.machine.along_of_forall
  intro state move
  cases move with
  | caller caller choice => exact fun _ _ => trivial
  | environment event => trivial
  | kill killed => trivial

/-! ### One user and the others

The scripts of one user, and what that user is told, are the same in the whole
run and in the run of that user's calls alone. -/

/-- A call of the user. -/
def mine (calls : Caller → SavedScriptCall) (userId : UserId)
    (caller : Caller) : Bool :=
  (calls caller).userId == userId

/-- The events that a user sees: the clock, and the user's own deletion. -/
def seen (userId : UserId) : ScriptEvent → Bool
  | .tick _ => true
  | .deleteUser other => other == userId

/-- The scripts of a user. -/
def ownedBy (userId : UserId) (doc : SavedScriptDocument) : Bool :=
  doc.userId == userId

variable (calls) in
/-- The second store has the user's part of the first. -/
structure Like (userId : UserId) (whole part : ScriptStore) : Prop where
  drawn : Drawn calls whole
  clock : part.clock = whole.clock
  scripts : part.scripts = whole.scripts.filter (ownedBy userId)
  fresh : ∀ scriptId, whole.drawn scriptId = none →
    part.drawn scriptId = none

variable {userId : UserId} {whole part : ScriptStore}

/-- The scripts that a name of the user's fits are the user's. -/
theorem owned_of_names {scriptId : ScriptId} {doc : SavedScriptDocument}
    (named : names scriptId userId doc = true) :
    ownedBy userId doc = true := by
  simp only [names, Bool.and_eq_true] at named
  exact named.2

/-- No name of another user's fits a script of the user's. -/
theorem not_names_of_owned {scriptId : ScriptId} {other : UserId}
    {doc : SavedScriptDocument} (different : other ≠ userId)
    (owned : ownedBy userId doc = true) :
    names scriptId other doc = false := by
  simp only [ownedBy, beq_iff_eq] at owned
  simp only [names, Bool.and_eq_false_iff, beq_eq_false_iff_ne]
  exact .inr fun same => different (same.symm.trans owned)

@[simp] theorem ownedBy_set (doc : SavedScriptDocument)
    (changes : SavedScriptChanges) (updatedAt : Nat) :
    ownedBy userId (doc.set changes updatedAt) = ownedBy userId doc := rfl

/-- A name of the user's finds the same script in the user's part. -/
theorem find?_part (like : Like calls userId whole part)
    (scriptId : ScriptId) :
    part.scripts.find? (names scriptId userId) =
      whole.scripts.find? (names scriptId userId) := by
  rw [like.scripts, List.find?_filter]
  congr 1
  funext doc
  cases named : names scriptId userId doc with
  | false => simp
  | true => simp [owned_of_names named]

/-- An update under a user's name leaves everybody's scripts with their
owners. -/
theorem filter_update (scripts : List SavedScriptDocument)
    (scriptId : ScriptId) (owner : UserId) (changes : SavedScriptChanges)
    (updatedAt : Nat) :
    (scripts.map fun doc =>
        if names scriptId owner doc then doc.set changes updatedAt
        else doc).filter (ownedBy userId) =
      (scripts.filter (ownedBy userId)).map fun doc =>
        if names scriptId owner doc then doc.set changes updatedAt
        else doc := by
  rw [List.filter_map]
  congr 2
  funext doc
  simp only [Function.comp_apply]
  split <;> simp

/-- A script's id is taken in the user's part already, if it was drawn by a
call of the user. -/
theorem taken_part (like : Like calls userId whole part)
    (own : mine calls userId caller = true) {scriptId : ScriptId}
    (drew : whole.drawn scriptId = some caller) :
    (part.scripts.any fun doc => doc.scriptId == scriptId) =
      whole.scripts.any fun doc => doc.scriptId == scriptId := by
  rw [like.scripts, List.any_filter, Bool.eq_iff_iff, List.any_eq_true,
    List.any_eq_true]
  refine exists_congr fun doc => and_congr_right fun member => ?_
  rw [Bool.and_eq_true, and_iff_right_iff_imp]
  intro taken
  obtain ⟨drawer, known, owner⟩ := like.drawn doc member
  rw [beq_iff_eq.mp taken, drew] at known
  cases known
  exact beq_iff_eq.mpr (owner.symm.trans (beq_iff_eq.mp own))

/-- A command of the user's has the same answer in both stores, and leaves
them alike. -/
theorem effect_own (like : Like calls userId whole part)
    (own : mine calls userId caller = true)
    (allowed : Own calls caller whole command)
    (fresh : command.draws = true → whole.drawn choice.uuid = none) :
    (part.effect caller choice.uuid command).1 =
        (whole.effect caller choice.uuid command).1 ∧
      Like calls userId (whole.effect caller choice.uuid command).2
        (part.effect caller choice.uuid command).2 := by
  have kept := (drawn_effect choice like.drawn allowed fresh).1
  have user : (calls caller).userId = userId := beq_iff_eq.mp own
  cases command with
  | now => exact ⟨congrArg Except.ok like.clock, like⟩
  | uuid =>
      refine ⟨rfl, kept, like.clock, like.scripts, fun scriptId unknown => ?_⟩
      by_cases same : scriptId = choice.uuid
      · simp [ScriptStore.effect, same] at unknown
      · simp only [ScriptStore.effect, Function.update_of_ne same]
          at unknown ⊢
        exact like.fresh scriptId unknown
  | insert doc =>
      have taken := taken_part like own allowed.2
      have owned : ownedBy userId doc = true := by
        simp [ownedBy, allowed.1, user]
      simp only [ScriptStore.effect, taken] at kept ⊢
      split at kept
      · rename_i already
        rw [if_pos already, if_pos already]
        exact ⟨rfl, like⟩
      · rename_i free
        rw [if_neg free, if_neg free]
        exact ⟨rfl, kept, like.clock,
          by simp [like.scripts, List.filter_append, owned], like.fresh⟩
  | findOne scriptId owner =>
      cases allowed
      rw [user]
      exact ⟨congrArg Except.ok (find?_part like scriptId), like⟩
  | find owner =>
      cases allowed
      rw [user]
      refine ⟨congrArg Except.ok ?_, like⟩
      rw [like.scripts]
      exact List.filter_filter.trans (by simp [ownedBy])
  | set scriptId owner changes updatedAt =>
      cases allowed
      rw [user] at kept ⊢
      simp only [ScriptStore.effect, find?_part like scriptId] at kept ⊢
      split at kept
      · exact ⟨rfl, like⟩
      · refine ⟨rfl, kept, like.clock, ?_, like.fresh⟩
        simp only [filter_update, like.scripts]
  | delete scriptId owner =>
      cases allowed
      rw [user] at kept ⊢
      refine ⟨rfl, kept, like.clock, ?_, like.fresh⟩
      simp only [ScriptStore.effect, like.scripts]
      exact List.filter_comm ..

/-- A command of another user's leaves the stores alike. -/
theorem effect_other (like : Like calls userId whole part)
    (foreign : mine calls userId caller = false)
    (allowed : Own calls caller whole command)
    (fresh : command.draws = true → whole.drawn choice.uuid = none) :
    Like calls userId (whole.effect caller choice.uuid command).2 part := by
  obtain ⟨kept, remembers⟩ :=
    drawn_effect choice like.drawn allowed fresh
  have different : (calls caller).userId ≠ userId :=
    beq_eq_false_iff_ne.mp foreign
  cases command with
  | now => exact like
  | uuid =>
      refine ⟨kept, like.clock, like.scripts, fun scriptId unknown => ?_⟩
      cases known : whole.drawn scriptId with
      | none => exact like.fresh scriptId known
      | some drawer =>
          rw [remembers scriptId drawer known] at unknown
          cases unknown
  | insert doc =>
      have foreignDoc : ownedBy userId doc = false := by
        simpa [ownedBy, allowed.1] using different
      by_cases taken :
          (whole.scripts.any fun other => other.scriptId == doc.scriptId) =
            true
      · simp only [ScriptStore.effect, if_pos taken]
        exact like
      · simp only [ScriptStore.effect, if_neg taken] at kept ⊢
        refine ⟨kept, like.clock, ?_, like.fresh⟩
        rw [like.scripts, List.filter_append, List.filter_singleton,
          foreignDoc]
        exact (List.append_nil _).symm
  | findOne scriptId owner => exact like
  | find owner => exact like
  | set scriptId owner changes updatedAt =>
      cases allowed
      simp only [ScriptStore.effect] at kept ⊢
      split at kept
      · exact like
      · refine ⟨kept, like.clock, ?_, like.fresh⟩
        rw [like.scripts, filter_update]
        refine ((List.map_congr_left fun doc among => ?_).trans
          (List.map_id _)).symm
        rw [not_names_of_owned different (List.mem_filter.mp among).2]
        rfl
  | delete scriptId owner =>
      cases allowed
      refine ⟨kept, like.clock, ?_, like.fresh⟩
      simp only [ScriptStore.effect]
      rw [like.scripts, List.filter_comm]
      refine (List.filter_eq_self.mpr fun doc among => ?_).symm
      rw [not_names_of_owned different (List.mem_filter.mp among).2]
      rfl

/-- A command that goes wrong does so alike in both stores. -/
theorem perform_alike {Answer : Type} {outcome : Outcome}
    {mayRaise : PyException → Bool} {reply : Except PyException Answer}
    {went wentPart : Except PyException Answer × ScriptStore}
    (like : Like calls userId whole part) (answers : wentPart.1 = went.1)
    (alike : Like calls userId went.2 wentPart.2)
    (performed : outcome.perform mayRaise whole went = some (reply, next)) :
    ∃ after, outcome.perform mayRaise part wentPart = some (reply, after) ∧
      Like calls userId next after := by
  rcases Outcome.perform_cases performed with
    ⟨rfl, rfl⟩ | ⟨error, rfl, may, ⟨rfl, rfl⟩ | ⟨rfl, rfl⟩⟩
  · exact ⟨wentPart.2, congrArg Option.some (Prod.ext answers rfl), alike⟩
  · exact ⟨part, by simp [Outcome.perform, may], like⟩
  · exact ⟨wentPart.2, by simp [Outcome.perform, may], alike⟩

/-- Users are isolated from each other. -/
theorem isolates (calls : Caller → SavedScriptCall) (userId : UserId) :
    scriptBackend.Isolates (mine calls userId) (seen userId) (Own calls)
      (Like calls userId) where
  own {whole part caller command choice reply next} like own allowed
      performed := by
    have fresh := fresh_of_performed performed
    obtain ⟨answers, alike⟩ := effect_own like own allowed fresh
    simp only [scriptBackend, Option.ite_none_left_eq_some] at performed
    obtain ⟨after, went, stays⟩ :=
      perform_alike like answers alike performed.2
    refine ⟨after, ?_, stays⟩
    have freshPart : ¬((command.draws && (part.drawn choice.uuid).isSome) =
        true) := by
      intro drawn
      rw [Bool.and_eq_true] at drawn
      rw [like.fresh _ (fresh drawn.1)] at drawn
      cases drawn.2
    simp only [scriptBackend, if_neg freshPart]
    exact went
  other like foreign allowed performed := by
    rcases performed_cases performed with ⟨rfl, -⟩ | ⟨rfl, -⟩
    · exact like
    · exact effect_other like foreign allowed (fresh_of_performed performed)
  event {whole part event next} like sees happened := by
    cases event with
    | tick duration =>
        cases happened
        exact ⟨_, rfl, like.drawn, congrArg (· + duration) like.clock,
          like.scripts, like.fresh⟩
    | deleteUser other =>
        cases happened
        refine ⟨_, rfl, ?_, like.clock, ?_, like.fresh⟩
        · exact fun doc member =>
            like.drawn doc (List.mem_filter.mp member).1
        · rw [like.scripts]
          exact List.filter_comm ..
  unseen {whole part event next} like unseen happened := by
    cases event with
    | tick duration => cases unseen
    | deleteUser other =>
        cases happened
        refine ⟨?_, like.clock, ?_, like.fresh⟩
        · exact fun doc member =>
            like.drawn doc (List.mem_filter.mp member).1
        · rw [like.scripts, List.filter_comm]
          refine (List.filter_eq_self.mpr fun doc among => ?_).symm
          have owned := (List.mem_filter.mp among).2
          simp only [ownedBy, beq_iff_eq] at owned
          rw [owned, bne_iff_ne]
          exact Ne.symm (beq_eq_false_iff_ne.mp unseen)
  kill like _ killed := by
    cases killed
    exact ⟨_, rfl, like⟩
  killOther like _ killed := by
    cases killed
    exact like

/-- Whatever the requests of all users do, in whatever order and however they
go wrong: a user's requests do in the same moves what they would do if nobody
else had made any, and leave the same scripts. -/
theorem scripts_isolated {calls : Caller → SavedScriptCall}
    {moves : List (Move Caller ScriptChoice ScriptEvent)}
    {final : SavedScripts}
    (reached : scriptBackend.machine.run (SavedScriptCall.start {} calls)
      moves = some final) (userId : UserId) :
    ∃ own,
      scriptBackend.machine.run (SavedScriptCall.start {} calls)
        (moves.filter (Move.concerning (mine calls userId) (seen userId))) =
          some own ∧
      own.shared.scripts = final.shared.scripts.filter (ownedBy userId) ∧
      ∀ caller, (calls caller).userId = userId →
        own.running caller = final.running caller := by
  have alike : System.Alike (mine calls userId) (Like calls userId)
      (SavedScriptCall.start {} calls) (SavedScriptCall.start {} calls) := by
    refine ⟨⟨?_, rfl, rfl, fun _ => id⟩, fun _ _ => rfl⟩
    intro doc member
    cases member
  obtain ⟨own, ran, stays⟩ :=
    System.run_isolated (isolates calls userId) alike (along_own moves)
      reached
  exact ⟨own, ran, stays.shared.scripts, fun caller user =>
    stays.running caller (beq_iff_eq.mpr user)⟩

/-- A user saves a script, and another one asks to delete it. -/
def savedAndCoveted (caller : Caller) : SavedScriptCall :=
  if caller = 0 then
    { userId := "u", request := .create "hi" "print(1)" "python" "3.11" none }
  else { userId := "v", request := .delete "s" }

theorem scripts_isolated_coveted :
    ∃ final,
      scriptBackend.machine.run (SavedScriptCall.start {} savedAndCoveted)
        [.environment (.tick 5), .caller 0 { uuid := "s" }, .caller 0 {},
          .environment (.tick 1), .caller 0 {}, .caller 0 {}, .caller 1 {},
          .environment (.deleteUser "v")] = some final ∧
      (final.shared.scripts.filter (ownedBy "u")).length = 1 ∧
      ∃ own,
        scriptBackend.machine.run (SavedScriptCall.start {} savedAndCoveted)
          [.environment (.tick 5), .caller 0 { uuid := "s" }, .caller 0 {},
            .environment (.tick 1), .caller 0 {}, .caller 0 {}] = some own ∧
        own.shared.scripts = final.shared.scripts.filter (ownedBy "u") ∧
        ∀ caller, (savedAndCoveted caller).userId = "u" →
          own.running caller = final.running caller := by
  have stored : (scriptBackend.machine.run
      (SavedScriptCall.start {} savedAndCoveted)
      [.environment (.tick 5), .caller 0 { uuid := "s" }, .caller 0 {},
        .environment (.tick 1), .caller 0 {}, .caller 0 {}, .caller 1 {},
        .environment (.deleteUser "v")]).map
        (fun final => (final.shared.scripts.filter (ownedBy "u")).length) =
      some 1 := by
    decide +kernel
  obtain ⟨final, reached, count⟩ := Option.map_eq_some_iff.mp stored
  exact ⟨final, reached, count, scripts_isolated reached "u"⟩

end Claims

end ScriptIsolation

end Integr8s
