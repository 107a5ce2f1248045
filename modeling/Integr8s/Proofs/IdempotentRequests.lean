/-
Module: Integr8s.Proofs.IdempotentRequests
Purpose: When all requests under one idempotency key that answer successfully
  answer with the same execution: over all runs of any number of them, with
  a request that outlasts its reservation as counterexample.
Trusted boundary: none
Main exports: IdempotentRequests.results, IdempotentRequests.Answered,
  IdempotentRequests.Orderly, IdempotentRequests.same_execution,
  IdempotentRequests.two_executions
-/
import Integr8s.Lib.Isolation
import Integr8s.Proofs.AwaitedCommands
import Integr8s.Proofs.FailedSubmissions
import Integr8s.Proofs.KeyExclusion
import Integr8s.Services.IdempotentExecutions

namespace Integr8s

namespace IdempotentRequests

open KeyExclusion (Holds Completed SameKeys Outside)
open FailedSubmissions (printOne)

/-- The commands that have nothing to do with idempotency keys. -/
def isKeyless : Command → Bool
  | .findKey _ | .insertProcessing _ | .updateRecord .. | .deleteKey _
  | .letThrough _ | .work | .delivery _ => false
  | _ => true

/-! ### Commands without a key -/

section Keyless

variable {caller : Caller} {world : World} {command : Command}

private theorem sameKeys_effect (keyless : isKeyless command = true)
    (choice : Choice) :
    SameKeys world (world.effect caller choice command).2 := by
  cases command with
  | advanceStatus executionId status =>
      simp only [World.effect]
      split <;> exact ⟨rfl, rfl, rfl, rfl⟩
  | findKey key => cases keyless
  | insertProcessing record => cases keyless
  | updateRecord loaded record => cases keyless
  | deleteKey key => cases keyless
  | letThrough key => cases keyless
  | work => cases keyless
  | delivery command => cases keyless
  | _ => exact ⟨rfl, rfl, rfl, rfl⟩

private theorem sameKeys_failure (keyless : isKeyless command = true) :
    SameKeys world (world.failure caller command) := by
  cases command with
  | work => cases keyless
  | delivery command => cases keyless
  | _ => exact ⟨rfl, rfl, rfl, rfl⟩

private theorem sameKeys_performed {choice : Choice} {next : World}
    {reply : Except PyException (Reply command)}
    (keyless : isKeyless command = true)
    (performed : world.perform caller command choice = some (reply, next)) :
    SameKeys world next :=
  World.perform_world performed (sameKeys_effect keyless choice)
    (sameKeys_failure keyless)

/-- A submission has nothing to do with idempotency keys. -/
theorem asks_executeScript (deployment : Deployment)
    (submission : Submission) :
    (ExecutionService.executeScript deployment submission).Asks
      (fun command => isKeyless command = true) := by
  apply Integr8s.asks_executeScript
  · intro command passive
    cases command <;> first | rfl | cases passive
  · intro command _
    rfl
  · intro result
    rfl
  · intro userId executionId now limit
    rfl
  · intro doc
    rfl
  · intro event
    rfl

end Keyless

/-! ### The key -/

/-! ### Requests keep the contract of the key -/

section Key

variable {config : IdempotencyConfig} {key : String} {caller : Caller}
  {world before after : World}

private theorem holds_of_same (holds : Holds config key caller before)
    (same : SameKeys before after) : Holds config key caller after := by
  obtain ⟨entry, reserved⟩ := holds
  obtain ⟨clock, keys, -, -⟩ := same
  exact ⟨entry, reserved.later (by rw [keys]) (by
    rw [clock]
    exact reserved.inTime)⟩

/-- A submission leaves the key to the caller that holds it. -/
theorem wp_executeScript (deployment : Deployment) (submission : Submission)
    (invariant : (KeyExclusion.contract config key).invariant world)
    (holds : Holds config key caller world) :
    (KeyExclusion.contract config key).wp backend caller
      (ExecutionService.executeScript deployment submission)
      (fun _ => Holds config key caller) world := by
  apply Contract.wp_asks _ (asks_executeScript deployment submission)
    invariant holds
  intro command stood keyless kept held
  refine ⟨fun _ => held, fun choice reply next _ performed => ?_⟩
  have same := sameKeys_performed keyless performed
  refine ⟨?_, KeyExclusion.Guarantee.of_same same, fun later reached =>
    (holds_of_same held same).stable reached.1⟩
  intro other entry present
  rw [same.2.1] at present
  exact kept other entry present

/-- A duplicate only reads the key. -/
theorem wp_answerDuplicate (adapter : ExecutionAdapter)
    (idempotencyKey : String) (reservation : IdempotencyResult)
    (invariant : (KeyExclusion.contract config key).invariant world)
    (outside : Outside key caller world) :
    (KeyExclusion.contract config key).wp backend caller
      (ExecutionService.answerDuplicate adapter key idempotencyKey
        reservation) (fun _ _ => True) world := by
  unfold ExecutionService.answerDuplicate
  split
  · trivial
  rw [Contract.wp_bind, IdempotencyManager.getCachedJson, Contract.wp_bind]
  apply KeyExclusion.wp_findKey invariant (outside.claim _)
  · intro record later _ _
    dsimp only
    rw [Contract.wp_pure]
    cases record.resultJson with
    | none => trivial
    | some json =>
        dsimp only
        split
        · trivial
        · split <;> trivial
  · intro later _ _
    trivial
  · intro error later _
    trivial

/-- A request is not let through by its check, and holds the key unless it is
a duplicate. -/
def Reserving (config : IdempotencyConfig) (key : String) (caller : Caller)
    (result : Except PyException IdempotencyResult) (world : World) : Prop :=
  match result with
  | .ok result => Outside key caller world ∧
      (result.isDuplicate = false → Holds config key caller world)
  | .error _ => True

/-- A request under a key keeps the contract of the key. -/
theorem wp_request_key (deployment : Deployment) (adapter : ExecutionAdapter)
    (submission : Submission) {idempotencyKey : String}
    (given : idempotencyKey ≠ "")
    (longLived : config.processingTimeoutSeconds <
      ExecutionService.httpTtlSeconds)
    (own : ExecutionService.httpKey config submission.userId
      idempotencyKey = key)
    (invariant : (KeyExclusion.contract config key).invariant world)
    (outside : Outside key caller world) :
    (KeyExclusion.contract config key).wp backend caller
      (ExecutionService.executeScriptIdempotent deployment config adapter
        submission (some idempotencyKey)) (fun _ _ => True) world := by
  simp only [ExecutionService.executeScriptIdempotent, if_neg given]
  rw [own, Contract.wp_bind]
  apply KeyExclusion.wp_read invariant (outside.claim _)
    (fun _ => ⟨rfl, rfl, rfl, rfl⟩) ⟨rfl, rfl, rfl, rfl⟩
  swap
  · intro error later _ _
    trivial
  intro choice drawn reached _
  simp only [World.effect]
  have outsideDrawn := outside.stable reached.1
  rw [underKey, Contract.wp_bind]
  have checks : KeyExclusion.Checks config key caller
      (Reserving config key caller) :=
    ⟨fun _ _ outside holds => ⟨outside, holds⟩, fun _ _ _ => trivial⟩
  apply Contract.wp_mono _ reached.2
    ((KeyExclusion.checkRules longLived checks).wp_checkAndReserve reached.2
      outsideDrawn)
  intro result later kept reserving
  cases result with
  | error error => trivial
  | ok result =>
      obtain ⟨outsideChecked, admitted⟩ := reserving
      dsimp only
      split
      · exact wp_answerDuplicate adapter idempotencyKey result kept
          outsideChecked
      · next fresh =>
          rw [Contract.wp_bind]
          apply KeyExclusion.wp_letThrough kept (admitted (by simpa using fresh))
          intro started keptStarted holds
          dsimp only
          rw [Contract.wp_bind, Contract.wp_attempt]
          apply Contract.wp_mono _ keptStarted
            (wp_executeScript deployment submission keptStarted holds)
          intro answer worked keptWorked holdsWorked
          cases answer with
          | ok doc =>
              dsimp only
              rw [ExecutionService.cacheResult, Contract.wp_bind]
              apply Contract.wp_mono _ keptWorked
                ((KeyExclusion.markRules fun _ _ =>
                  trivial).wp_markCompletedWithJson keptWorked holdsWorked)
              intro reply final _ _
              cases reply <;> trivial
          | error error =>
              dsimp only
              rw [Contract.wp_bind]
              apply KeyExclusion.wp_release keptWorked holdsWorked
              intro reply final
              cases reply <;> trivial

end Key

/-! ### What the key is completed with -/

/-- Whoever finds the key completed, does so from then on. -/
def Lasting (key : String) (before after : World) : Prop :=
  ∀ entry, Completed key before entry → Completed key after entry

/-- The caller was let through. -/
def Admitted (key : String) (caller : Caller) (world : World) : Prop :=
  ⟨caller, key⟩ ∈ world.admissions

/-- A record of the key is a reservation without a result, or completed. -/
def IsClean (key : String) (record : IdempotencyRecord) : Prop :=
  record.key = key ∧
    (record.status = .processing ∧ record.resultJson = none ∨
      record.status = .completed)

/-- The contract of the requests about what the key is completed with: it
lasts while the key lives.  What a caller is allowed is what it claims under
the contract of the key. -/
def results (config : IdempotencyConfig) (key : String) : BackendContract where
  invariant world := ∀ entry, world.keys key = some entry →
    IsClean key entry.value.record
  guarantee caller before after := Lasting key before after ∧
    ∀ other, other ≠ caller →
      (Admitted key other after ↔ Admitted key other before)
  rely caller before after := Lasting key before after ∧
    (Admitted key caller after ↔ Admitted key caller before)
  allows caller world command choice :=
    (KeyExclusion.contract config key).claims caller command world ∧
      (KeyExclusion.contract config key).allows caller world command choice
  permits _ world event :=
    match event with
    | .tick duration => ∀ entry, world.keys key = some entry →
        world.clock + duration ≤ entry.expiresAt
    | _ => True

/-! ### A completed result lasts

The contract of the key says who holds it.  This second contract says what it
comes to: a completed record is the same in every later state in which the key
lives. -/

section Results

variable {config : IdempotencyConfig} {key : String} {caller : Caller}
  {world before after : World}

theorem Lasting.of_keys (clock : after.clock = before.clock)
    (keys : after.keys = before.keys) : Lasting key before after := by
  intro entry completed
  apply completed.later (by rw [keys])
  rw [clock]
  exact (ExpiringStore.live_eq_some.mp completed.found).2

/-- Nothing lasts of a key that is not completed. -/
theorem Lasting.of_unfinished (unfinished : ∀ entry, ¬ Completed key before entry) :
    Lasting key before after :=
  fun entry completed => absurd completed (unfinished entry)

private theorem results_sound : (results config key).Sound backend := by
  constructor
  · intro caller world
    exact ⟨fun _ completed => completed, Iff.rfl⟩
  · intro caller first second third earlier later
    exact ⟨fun entry completed => later.1 entry (earlier.1 entry completed),
      later.2.trans earlier.2⟩
  · intro world
    trivial
  · intro caller other before after different _ _ promised
    exact ⟨promised.1, promised.2 other different⟩
  · intros
    trivial
  · intro atWork world event next invariant permitted happened
    rcases World.happen_cases happened with
      ⟨duration, rfl, rfl⟩ | ⟨executions, rfl⟩
    · refine ⟨invariant, trivial, fun caller _ => ⟨?_, Iff.rfl⟩,
        fun _ _ => trivial⟩
      intro entry completed
      refine completed.later ?_ ?_
      · rfl
      · exact permitted entry
          (ExpiringStore.live_eq_some.mp completed.found).1
    · exact ⟨invariant, trivial,
        fun caller _ => ⟨Lasting.of_keys rfl rfl, Iff.rfl⟩,
        fun _ _ => trivial⟩
  · intro world caller next invariant _ killed
    cases killed
    exact ⟨invariant, trivial, trivial,
      fun other _ => ⟨Lasting.of_keys rfl rfl, Iff.rfl⟩⟩
  · intros
    trivial

private theorem completed_unique {first second : Expiring HeldRecord}
    (firstCompleted : Completed key world first)
    (secondCompleted : Completed key world second) : first = second := by
  simpa using firstCompleted.found.symm.trans secondCompleted.found

section Commands

variable {command : Command}
  {post : Except PyException (Reply command) → World → Prop}

/-- A step after which the clock, the key and who was let through are as they
were. -/
theorem leads_of_keys {continues : World → Prop}
    (invariant : (results config key).invariant world)
    (clock : after.clock = world.clock) (keys : after.keys = world.keys)
    (admissions : after.admissions = world.admissions)
    (continued : ∀ later, (results config key).Later caller world later →
      continues later) :
    Leads (results config key) caller world after continues := by
  have alike : ∀ other, Admitted key other after ↔ Admitted key other world := by
    intro other
    rw [Admitted, admissions]
    rfl
  refine ⟨fun entry present => invariant entry (keys ▸ present),
    ⟨Lasting.of_keys clock keys, fun other _ => alike other⟩,
    fun later reached => continued later ⟨?_, reached.2⟩⟩
  exact results_sound.rely_trans caller _ _ _
    ⟨Lasting.of_keys clock keys, alike caller⟩ reached.1

/-- A command that leaves the keys alone: its answer is what it read, unless it
raised. -/
theorem wp_aside (invariant : (results config key).invariant world)
    (effects : ∀ choice, SameKeys world (world.effect caller choice command).2)
    (failures : SameKeys world (world.failure caller command))
    (answers : ∀ choice later, (results config key).Later caller world later →
      (results config key).allows caller world command choice →
      post (world.effect caller choice command).1 later)
    (raises : ∀ error later, (results config key).Later caller world later →
      post (.error error) later) :
    (results config key).wp backend caller (request command) post world := by
  have leads : ∀ after (continues : World → Prop), SameKeys world after →
      (∀ later, (results config key).Later caller world later →
        continues later) →
      Leads (results config key) caller world after continues :=
    fun after continues same continued =>
      leads_of_keys invariant same.1 same.2.1 same.2.2.1 continued
  apply wp_request trivial
  · intro choice _ allowed
    exact leads _ _ (effects choice) fun later reached =>
      answers choice later reached allowed
  · intro choice error _ _ _
    exact leads _ _ failures fun later reached => raises error later reached
  · intro choice error _ _ _ _
    exact leads _ _ (effects choice) fun later reached =>
      raises error later reached

/-- A write of a key that is not completed. -/
theorem leads_writeKey {record : IdempotencyRecord} {expiresAt : Nat}
    {continues : World → Prop} (clean : IsClean key record)
    (unfinished : ∀ entry, ¬ Completed key world entry)
    (continued : ∀ later, (results config key).Later caller
      (world.writeKey key ⟨record, caller⟩ expiresAt) later →
      continues later) :
    Leads (results config key) caller world
      (world.writeKey key ⟨record, caller⟩ expiresAt) continues := by
  refine ⟨?_, ⟨Lasting.of_unfinished unfinished, fun _ _ => Iff.rfl⟩,
    continued⟩
  intro entry present
  simp only [World.writeKey, Function.update_self,
    Option.some.injEq] at present
  rw [← present]
  exact clean

end Commands

end Results

/-! ### A request looks at the key -/

section Requests

variable {config : IdempotencyConfig} {key : String} {caller : Caller}
  {world before after : World}

private theorem outside_kept (outside : Outside key caller before)
    (relied : (results config key).rely caller before after) :
    Outside key caller after :=
  fun admitted => outside (relied.2.mp admitted)

theorem Admitted.kept (admitted : Admitted key caller before)
    (relied : (results config key).rely caller before after) :
    Admitted key caller after :=
  relied.2.mpr admitted

/-- A record that was read under the key: a reservation without a result, or
what the key is completed with. -/
def Sighted (key : String) (record : IdempotencyRecord) (world : World) :
    Prop :=
  record.key = key ∧
    (record.status = .processing ∧ record.resultJson = none ∨
      record.status = .completed ∧
        ∃ entry, Completed key world entry ∧ entry.value.record = record)

theorem Sighted.kept {record : IdempotencyRecord}
    (sighted : Sighted key record before)
    (relied : (results config key).rely caller before after) :
    Sighted key record after := by
  obtain ⟨own, reserved | ⟨completed, entry, stands, same⟩⟩ := sighted
  · exact ⟨own, .inl reserved⟩
  · exact ⟨own, .inr ⟨completed, entry, relied.1 entry stands, same⟩⟩

/-- What lives under the key is sighted. -/
theorem sighted_of_live {entry : Expiring HeldRecord}
    (invariant : (results config key).invariant world)
    (found : world.keys.live world.clock key = some entry) :
    Sighted key entry.value.record world := by
  obtain ⟨own, reserved | completed⟩ :=
    invariant entry (ExpiringStore.live_eq_some.mp found).1
  · exact ⟨own, .inl reserved⟩
  · exact ⟨own, .inr ⟨completed, entry, ⟨found, completed⟩, rfl⟩⟩

/-- Reading the key. -/
theorem wp_sight
    {post : Except PyException (Reply (.findKey key)) → World → Prop}
    (invariant : (results config key).invariant world)
    (finds : ∀ entry later, (results config key).Later caller world later →
      world.keys.live world.clock key = some entry →
      Sighted key entry.value.record later →
      (KeyExclusion.contract config key).claims caller (.findKey key) world →
      post (.ok (some entry.value.record)) later)
    (misses : ∀ later, (results config key).Later caller world later →
      world.keys.live world.clock key = none →
      (KeyExclusion.contract config key).claims caller (.findKey key) world →
      post (.ok none) later)
    (raises : ∀ error later, (results config key).Later caller world later →
      post (.error error) later) :
    (results config key).wp backend caller (request (.findKey key)) post
      world := by
  apply wp_aside invariant (fun _ => ⟨rfl, rfl, rfl, rfl⟩)
    ⟨rfl, rfl, rfl, rfl⟩
  · intro choice later reached allowed
    cases found : world.keys.live world.clock key with
    | some entry =>
        simp only [World.effect, ExpiringStore.get, found, Option.map_some]
        exact finds entry later reached found
          ((sighted_of_live invariant found).kept reached.1) allowed.1
    | none =>
        simp only [World.effect, ExpiringStore.get, found, Option.map_none]
        exact misses later reached found allowed.1
  · exact raises

/-- Reserving the key. -/
theorem wp_reserve {record : IdempotencyRecord}
    {post : Except PyException (Reply (.insertProcessing record)) →
      World → Prop}
    (invariant : (results config key).invariant world)
    (own : record.key = key) (processing : record.status = .processing)
    (empty : record.resultJson = none)
    (continues : ∀ reply later, (results config key).rely caller world later →
      post reply later) :
    (results config key).wp backend caller
      (request (.insertProcessing record)) post world := by
  subst own
  have stays : ∀ (continues : World → Prop),
      (∀ later, (results config record.key).rely caller world later →
        continues later) → ∀ choice,
      Leads (results config record.key) caller world
        (world.effect caller choice (.insertProcessing record)).2
        continues := by
    intro continues continued choice
    cases found : world.keys.live world.clock record.key with
    | some taken =>
        rw [World.effect_insertProcessing_taken found]
        exact leads_of_keys invariant rfl rfl rfl fun later reached =>
          continued later reached.1
    | none =>
        have unfinished : ∀ entry, ¬ Completed record.key world entry := by
          intro entry completed
          cases found.symm.trans completed.found
        rw [World.effect_insertProcessing_free found]
        apply leads_writeKey ⟨rfl, .inl ⟨processing, empty⟩⟩ unfinished
        intro later reached
        exact continued later
          ⟨Lasting.of_unfinished unfinished, reached.1.2⟩
  apply wp_request trivial
  · intro choice _ _
    exact stays _ (continues _) choice
  · intro choice error _ _ _
    exact leads_of_keys invariant rfl rfl rfl fun later reached =>
      continues _ later reached.1
  · intro choice error _ _ _ _
    exact stays _ (continues _) choice

/-- Taking a stale record over: it is still the one under the key, so the key
is not completed. -/
theorem wp_replace {loaded record : IdempotencyRecord}
    {post : Except PyException (Reply (.updateRecord loaded record)) →
      World → Prop}
    (invariant : (results config key).invariant world)
    (own : record.key = key) (processing : record.status = .processing)
    (empty : record.resultJson = none)
    (loadedProcessing : loaded.status = .processing)
    (continues : ∀ reply later, (results config key).rely caller world later →
      post reply later) :
    (results config key).wp backend caller
      (request (.updateRecord loaded record)) post world := by
  subst own
  have stays : ∀ (continues : World → Prop),
      (∀ later, (results config record.key).rely caller world later →
        continues later) → ∀ choice,
      (results config record.key).allows caller world
        (.updateRecord loaded record) choice →
      Leads (results config record.key) caller world
        (world.effect caller choice (.updateRecord loaded record)).2
        continues := by
    intro continues continued choice allowed
    obtain ⟨-, entry, found, same, -⟩ := allowed.2 processing
    have unfinished : ∀ held, ¬ Completed record.key world held := by
      intro held completed
      have status := completed.completed
      cases found.symm.trans completed.found
      rw [same, loadedProcessing] at status
      cases status
    rw [World.effect_updateRecord_found found]
    apply leads_writeKey ⟨rfl, .inl ⟨processing, empty⟩⟩ unfinished
    intro later reached
    exact continued later ⟨Lasting.of_unfinished unfinished, reached.1.2⟩
  apply wp_request trivial
  · intro choice _ allowed
    exact stays _ (continues _) choice allowed
  · intro choice error _ _ _
    exact leads_of_keys invariant rfl rfl rfl fun later reached =>
      continues _ later reached.1
  · intro choice error _ allowed _ _
    exact stays _ (continues _) choice allowed

/-- A check leaves its caller outside; a duplicate that was told of a cached
result was told of the one that the key is completed with. -/
def Looked (key : String) (caller : Caller)
    (result : Except PyException IdempotencyResult) (world : World) : Prop :=
  match result with
  | .ok result => Outside key caller world ∧
      (result.isDuplicate = true → result.hasCachedResult = true →
        ∃ entry, Completed key world entry)
  | .error _ => True

/-- Who is no duplicate was told of no cached result. -/
theorem looked_fresh {result : IdempotencyResult}
    (outside : Outside key caller world)
    (fresh : result.isDuplicate = false) :
    Looked key caller (.ok result) world := by
  refine ⟨outside, fun duplicate => ?_⟩
  rw [fresh] at duplicate
  cases duplicate

/-- What a request asserts while it checks the key. -/
def lookRules {ttl : Nat} :
    CheckRules (results config key) caller config key ttl
      (Looked key caller) where
  outside := Outside key caller
  stamped _ := Outside key caller
  beaten := Outside key caller
  seen existing world := Outside key caller world ∧ Sighted key existing world
  aged existing _ world := Outside key caller world ∧
    Sighted key existing world
  find world invariant outside := by
    apply wp_sight invariant
    · intro entry later reached _ sighted _
      exact ⟨outside_kept outside reached.1, sighted⟩
    · intro later reached _ _
      exact outside_kept outside reached.1
    · intro error later reached
      trivial
  stamp world invariant outside := by
    apply wp_aside invariant (fun _ => ⟨rfl, rfl, rfl, rfl⟩)
      ⟨rfl, rfl, rfl, rfl⟩
    · intro choice later reached _
      exact outside_kept outside reached.1
    · intro error later reached
      trivial
  insert world record invariant outside own processing empty _ := by
    apply wp_reserve invariant own processing empty
    intro reply later relied
    cases reply with
    | ok _ =>
        intro result fresh
        exact looked_fresh (outside_kept outside relied) fresh
    | error error =>
        dsimp only
        split
        · exact outside_kept outside relied
        · trivial
  findAgain world invariant outside := by
    apply wp_sight invariant
    · intro entry later reached _ sighted _
      exact ⟨outside_kept outside reached.1, sighted⟩
    · intro later reached _ _ result fresh
      exact looked_fresh (outside_kept outside reached.1) fresh
    · intro error later reached
      trivial
  age world existing invariant seen _ := by
    apply wp_aside invariant (fun _ => ⟨rfl, rfl, rfl, rfl⟩)
      ⟨rfl, rfl, rfl, rfl⟩
    · intro choice later reached _
      exact ⟨outside_kept seen.1 reached.1, seen.2.kept reached.1⟩
    · intro error later reached
      trivial
  takeOver world existing now invariant aged _ processing := by
    obtain ⟨outside, own, ⟨-, empty⟩ | ⟨completed, -⟩⟩ := aged
    · refine wp_replace invariant own rfl empty processing ?_
      intro reply later relied
      cases reply with
      | ok _ =>
          intro result fresh
          exact looked_fresh (outside_kept outside relied) fresh
      | error error => trivial
    · rw [processing] at completed
      cases completed
  young world existing now _ aged _ processing result _ cached := by
    obtain ⟨outside, own, ⟨-, empty⟩ | ⟨completed, -⟩⟩ := aged
    · refine ⟨outside, fun _ told => ?_⟩
      simp [cached, empty] at told
    · rw [processing] at completed
      cases completed
  finished world existing _ seen unfinished result _ cached := by
    obtain ⟨outside, own, ⟨processing, -⟩ | ⟨-, entry, stands, -⟩⟩ := seen
    · exact absurd processing unfinished
    · exact ⟨outside, fun _ _ => ⟨entry, stands⟩⟩

end Requests

/-- A request that answers successfully submitted the execution that the key is
completed with, or was given the one that is cached with it. -/
def Answered (adapter : ExecutionAdapter) (key : String) (caller : Caller)
    (answer : Except PyException ExecutionDocument) (world : World) : Prop :=
  match answer with
  | .ok doc => ∃ entry, Completed key world entry ∧
      (Admitted key caller world ∧ entry.value.writtenBy = caller ∧
          (entry.value.record.resultJson = none ∨
            entry.value.record.resultJson = some (adapter.dumpJson doc)) ∨
        Outside key caller world ∧ ∃ json,
          entry.value.record.resultJson = some json ∧
            adapter.validateJson json = .ok doc)
  | .error _ => True

/-! ### What a request answers -/

section Answers

variable {config : IdempotencyConfig} {key : String} {caller : Caller}
  {world before after : World}

private theorem answered_stable (adapter : ExecutionAdapter) :
    (results config key).Stable backend (Answered adapter key) := by
  have later : ∀ caller answer before after,
      (results config key).rely caller before after →
      Answered adapter key caller answer before →
      Answered adapter key caller answer after := by
    intro caller answer before after relied answered
    cases answer with
    | error error => trivial
    | ok doc =>
        obtain ⟨entry, completed, ⟨admitted, own⟩ | ⟨outside, cached⟩⟩ :=
          answered
        · exact ⟨entry, relied.1 entry completed,
            .inl ⟨admitted.kept relied, own⟩⟩
        · exact ⟨entry, relied.1 entry completed,
            .inr ⟨outside_kept outside relied, cached⟩⟩
  constructor
  · intro caller answer before after _ _ relied answered
    exact later caller answer before after relied answered
  · intro atWork world event next invariant permitted happened caller answer
      answered
    -- Whether the caller is still at work makes no difference to the key
    obtain ⟨-, -, relied, -⟩ := results_sound.environment (fun _ => True) world
      event next invariant permitted happened
    exact later caller answer world next (relied caller trivial) answered

/-- A duplicate is given what the key is completed with. -/
theorem wp_answers (adapter : ExecutionAdapter) (idempotencyKey : String)
    {reservation : IdempotencyResult}
    (invariant : (results config key).invariant world)
    (looked : Looked key caller (.ok reservation) world)
    (duplicate : reservation.isDuplicate = true) :
    (results config key).wp backend caller
      (ExecutionService.answerDuplicate adapter key idempotencyKey
        reservation) (Answered adapter key caller) world := by
  unfold ExecutionService.answerDuplicate
  split
  · trivial
  next told =>
  obtain ⟨outside, cached⟩ := looked
  obtain ⟨entry, completed⟩ := cached duplicate (by simpa using told)
  rw [Contract.wp_bind, IdempotencyManager.getCachedJson, Contract.wp_bind]
  apply wp_sight invariant
  · intro found later reached live _ _
    have same : found = entry := by
      simpa using live.symm.trans completed.found
    subst same
    dsimp only
    rw [Contract.wp_pure]
    cases result : found.value.record.resultJson with
    | none => trivial
    | some json =>
        dsimp only
        split
        · trivial
        · split
          · next doc valid =>
              exact ⟨found, reached.1.1 found completed, .inr
                ⟨outside_kept outside reached.1, json, result, valid⟩⟩
          · trivial
  · intro later reached missing _
    cases missing.symm.trans completed.found
  · intro error later _
    trivial

/-- Completing the key: only a holder gets there, so it was not completed
before. -/
theorem wp_finish {loaded record : IdempotencyRecord}
    {post : Except PyException (Reply (.updateRecord loaded record)) →
      World → Prop}
    (invariant : (results config key).invariant world)
    (admitted : Admitted key caller world)
    (own : record.key = key) (completed : record.status = .completed)
    (finishes : ∀ reply entry later, Admitted key caller later →
      Completed key later entry → entry.value = ⟨record, caller⟩ →
      post reply later)
    (raises : ∀ error later, post (.error error) later) :
    (results config key).wp backend caller
      (request (.updateRecord loaded record)) post world := by
  subst own
  have leads : ∀ (continues : World → Prop),
      (∀ entry later, Admitted record.key caller later →
        Completed record.key later entry → entry.value = ⟨record, caller⟩ →
        continues later) → ∀ choice,
      (results config record.key).allows caller world
        (.updateRecord loaded record) choice →
      Leads (results config record.key) caller world
        (world.effect caller choice (.updateRecord loaded record)).2
        continues := by
    intro continues continued choice allowed
    have holds : Holds config record.key caller world := allowed.1 admitted
    obtain ⟨mine, reserved⟩ := id holds
    rw [World.effect_updateRecord_found reserved.alive]
    apply leads_writeKey ⟨rfl, .inr completed⟩ holds.alone.2
    intro later reached
    apply continued ⟨⟨record, caller⟩, mine.expiresAt⟩ later _ _ rfl
    · have written : Admitted record.key caller (world.writeKey record.key
          ⟨record, caller⟩ mine.expiresAt) := admitted
      exact written.kept reached.1
    · apply reached.1.1
      refine ⟨ExpiringStore.live_eq_some.mpr ⟨?_, ?_⟩, completed⟩
      · simp [World.writeKey]
      · exact (ExpiringStore.live_eq_some.mp reserved.alive).2
  apply wp_request trivial
  · intro choice _ allowed
    have found : ∃ entry, world.keys.live world.clock record.key =
        some entry := by
      obtain ⟨mine, reserved⟩ : Holds config record.key caller world :=
        allowed.1 admitted
      exact ⟨mine, reserved.alive⟩
    obtain ⟨entry, live⟩ := found
    have led := leads (post (.ok 1)) (fun entry later =>
      finishes (.ok 1) entry later) choice allowed
    rw [World.effect_updateRecord_found live] at led ⊢
    exact led
  · intro choice error _ _ _
    exact leads_of_keys invariant rfl rfl rfl fun later _ =>
      raises error later
  · intro choice error _ allowed _ _
    exact leads _ (fun _ later _ _ _ => raises error later) choice allowed

/-- Completing the key with a submission. -/
theorem wp_completes (adapter : ExecutionAdapter) {doc : ExecutionDocument}
    (invariant : (results config key).invariant world)
    (admitted : Admitted key caller world) :
    (results config key).wp backend caller
      (ExecutionService.cacheResult config adapter key doc)
      (Answered adapter key caller) world := by
  rw [ExecutionService.cacheResult, Contract.wp_bind,
    IdempotencyManager.markCompletedWithJson, Contract.wp_bind]
  apply wp_sight invariant
  · intro found later reached live sighted claims
    obtain ⟨mine, reserved⟩ : Holds config key caller world := claims admitted
    have same : found = mine := by
      simpa using live.symm.trans reserved.alive
    subst same
    obtain ⟨own, ⟨-, empty⟩ | ⟨completed, -⟩⟩ := sighted
    · dsimp only
      unfold IdempotencyManager.updateKeyStatus
      rw [Contract.wp_bind]
      apply wp_aside reached.2 (fun _ => ⟨rfl, rfl, rfl, rfl⟩)
        ⟨rfl, rfl, rfl, rfl⟩
      · intro choice stamped reachedStamped _
        simp only [World.effect]
        rw [Contract.wp_bind]
        refine wp_finish reachedStamped.2
          ((admitted.kept reached.1).kept reachedStamped.1) own rfl ?_ ?_
        · intro reply entry last admittedLast completedLast value
          cases reply with
          | error error => trivial
          | ok written =>
              refine ⟨entry, completedLast, .inl ⟨admittedLast, ?_, ?_⟩⟩
              · rw [value]
              · rw [value]
                simp only [IdempotencyManager.cachedResult]
                split
                · exact .inr rfl
                · exact .inl empty
        · intro error last
          trivial
      · intro error last _
        trivial
    · rw [reserved.processing] at completed
      cases completed
  · intro later _ missing claims
    obtain ⟨mine, reserved⟩ : Holds config key caller world := claims admitted
    cases missing.symm.trans reserved.alive
  · intro error later _
    trivial

/-- A submission leaves the key and who was let through alone. -/
theorem wp_submits (deployment : Deployment) (submission : Submission)
    (invariant : (results config key).invariant world)
    (admitted : Admitted key caller world) :
    (results config key).wp backend caller
      (ExecutionService.executeScript deployment submission)
      (fun _ => Admitted key caller) world := by
  apply Contract.wp_asks _ (asks_executeScript deployment submission)
    invariant admitted
  intro command stood keyless kept admittedStood
  refine ⟨trivial, fun choice reply next _ performed => ?_⟩
  obtain ⟨clock, keys, admissions, -⟩ := sameKeys_performed keyless performed
  apply leads_of_keys kept clock keys admissions
  intro later reached
  exact admittedStood.kept reached.1

/-- Releasing the key: only a holder gets there. -/
theorem wp_releases {post : Except PyException Bool → World → Prop}
    (invariant : (results config key).invariant world)
    (admitted : Admitted key caller world)
    (continues : ∀ reply later, post reply later) :
    (results config key).wp backend caller (IdempotencyManager.release key)
      post world := by
  rw [IdempotencyManager.release, Contract.wp_bind]
  have leads : ∀ (continues : World → Prop), (∀ later, continues later) →
      ∀ choice, (results config key).allows caller world (.deleteKey key)
        choice →
      Leads (results config key) caller world (world.dropKey key)
        continues := by
    intro continues continued choice allowed
    have holds : Holds config key caller world := allowed.1 admitted
    refine ⟨fun entry present => ?_,
      ⟨Lasting.of_unfinished holds.alone.2, fun _ _ => Iff.rfl⟩,
      fun later _ => continued later⟩
    simp [World.dropKey] at present
  apply wp_request trivial
  · intro choice _ allowed
    exact leads _ (fun later => continues _ later) choice allowed
  · intro choice error _ _ _
    exact leads_of_keys invariant rfl rfl rfl fun later _ => continues _ later
  · intro choice error _ allowed _ _
    exact leads _ (fun later => continues _ later) choice allowed

/-- A request that answers successfully is answered with what the key is
completed with. -/
theorem wp_request_answer (deployment : Deployment)
    (adapter : ExecutionAdapter) (submission : Submission)
    {idempotencyKey : String} (given : idempotencyKey ≠ "")
    (own : ExecutionService.httpKey config submission.userId
      idempotencyKey = key)
    (invariant : (results config key).invariant world)
    (outside : Outside key caller world) :
    (results config key).wp backend caller
      (ExecutionService.executeScriptIdempotent deployment config adapter
        submission (some idempotencyKey)) (Answered adapter key caller)
      world := by
  simp only [ExecutionService.executeScriptIdempotent, if_neg given]
  rw [own, Contract.wp_bind]
  apply wp_aside invariant (fun _ => ⟨rfl, rfl, rfl, rfl⟩)
    ⟨rfl, rfl, rfl, rfl⟩
  swap
  · intro error later _
    trivial
  intro choice drawn reached _
  simp only [World.effect]
  rw [underKey, Contract.wp_bind]
  apply Contract.wp_mono _ reached.2
    (lookRules.wp_checkAndReserve reached.2 (outside_kept outside reached.1))
  intro result later kept looked
  cases result with
  | error error => trivial
  | ok result =>
      dsimp only
      split
      · next duplicate =>
          exact wp_answers adapter idempotencyKey kept looked duplicate
      · rw [Contract.wp_bind]
        apply wp_request trivial
        · intro letThrough _ _
          refine ⟨kept, ⟨Lasting.of_keys rfl rfl, fun other different => ?_⟩,
            fun started reachedStarted => ?_⟩
          · simp [Admitted, World.effect, different]
          have admitted : Admitted key caller started :=
            reachedStarted.1.2.mpr (by simp [Admitted, World.effect])
          simp only [World.effect]
          rw [Contract.wp_bind, Contract.wp_attempt]
          apply Contract.wp_mono _ reachedStarted.2
            (wp_submits deployment submission reachedStarted.2 admitted)
          intro answer worked keptWorked admittedWorked
          cases answer with
          | ok doc => exact wp_completes adapter keptWorked admittedWorked
          | error error =>
              dsimp only
              rw [Contract.wp_bind]
              apply wp_releases keptWorked admittedWorked
              intro reply final
              cases reply <;> trivial
        · intro letThrough error _ _ may
          cases may
        · intro letThrough error _ _ may _
          cases may

end Answers

/-- The state of a run of requests. -/
abbrev Requests :=
  Callers Caller World Command Reply PyException ExecutionDocument

/-- Any requests under one idempotency key. -/
def start (deployment : Deployment) (config : IdempotencyConfig)
    (adapter : ExecutionAdapter) (idempotencyKey : String)
    (submissions : Caller → Submission) (world : World) : Requests where
  shared := world
  running caller := some (ExecutionService.executeScriptIdempotent deployment
    config adapter (submissions caller) (some idempotencyKey))

/-- Nobody has used the key yet. -/
structure Unused (key : String) (world : World) : Prop where
  free : world.keys key = none
  nobody : ∀ caller, Outside key caller world
  filed : ∀ other entry, world.keys other = some entry →
    entry.value.record.key = other

/-- Time passes only while the record under the key lives. -/
def WithinLife (key : String) (state : Requests) :
    Move Caller Choice WorldEvent → Prop
  | .environment (.tick duration) =>
      ∀ entry, state.shared.keys key = some entry →
        state.shared.clock + duration ≤ entry.expiresAt
  | _ => True

/-- The runs under which the law holds: they stay within the life of the key,
and in them the contract of the key speaks about every step.  A reservation is
written within the processing timeout of its stamp, and an admitted request
that still runs finishes within it; a request that lost its reservation still
finds the key when it reads it again; and a stale record is overwritten only
while it is the one under its key and lives longer than the timeout. -/
def Orderly (config : IdempotencyConfig) (key : String) (state : Requests)
    (move : Move Caller Choice WorldEvent) : Prop :=
  (KeyExclusion.contract config key).guard state move ∧
    WithinLife key state move

/-- The request answered successfully with an execution. -/
def AnsweredWith (state : Requests) (caller : Caller)
    (doc : ExecutionDocument) : Prop :=
  state.running caller = some (.done (.ok doc))

section Runs

variable {deployment : Deployment} {config : IdempotencyConfig}
  {adapter : ExecutionAdapter} {key idempotencyKey : String}
  {submissions : Caller → Submission} {world : World}
  {moves : List (Move Caller Choice WorldEvent)} {final : Requests}

private theorem start_key (given : idempotencyKey ≠ "")
    (longLived : config.processingTimeoutSeconds <
      ExecutionService.httpTtlSeconds)
    (own : ∀ caller, ExecutionService.httpKey config
      (submissions caller).userId idempotencyKey = key)
    (unused : Unused key world) :
    (KeyExclusion.contract config key).Safe backend (fun _ _ _ => True)
      (start deployment config adapter idempotencyKey submissions world) := by
  apply Contract.Safe.start KeyExclusion.sound
  · exact unused.filed
  · intro caller dead
    cases dead
  · intro caller coroutine runs later reached
    cases runs
    exact wp_request_key deployment adapter (submissions caller) given
      longLived (own caller) reached.2
      ((unused.nobody caller).stable reached.1)

private theorem start_results (given : idempotencyKey ≠ "")
    (own : ∀ caller, ExecutionService.httpKey config
      (submissions caller).userId idempotencyKey = key)
    (unused : Unused key world) :
    (results config key).Safe backend (Answered adapter key)
      (start deployment config adapter idempotencyKey submissions world) := by
  apply Contract.Safe.start results_sound
  · intro entry present
    cases unused.free.symm.trans present
  · intro caller dead
    cases dead
  · intro caller coroutine runs later reached
    cases runs
    exact wp_request_answer deployment adapter (submissions caller) given
      (own caller) reached.2 (outside_kept (unused.nobody caller) reached.1)

/-- The second contract speaks about the orderly runs: what it allows is what
callers claim under the first. -/
theorem guard_results (state : Requests)
    (move : Move Caller Choice WorldEvent)
    (orderly : Orderly config key state move ∧
      System.KeepsTo (fun caller shared command =>
        (KeyExclusion.contract config key).claims caller command shared)
        state move) :
    (results config key).guard state move := by
  obtain ⟨⟨guarded, within⟩, claims⟩ := orderly
  cases move with
  | caller caller choice =>
      intro command awaits
      exact ⟨claims caller choice command rfl awaits, guarded command awaits⟩
  | environment event =>
      cases event with
      | tick duration => exact within
      | _ => trivial
  | kill caller => trivial

/-- In every orderly run all requests that answer successfully answer with the
same execution, and only one of them submitted it.  What is asked of the key's
lifetime, of the adapter and of the key itself are the three facts that the
caller of the manager brings along. -/
theorem same_execution (given : idempotencyKey ≠ "")
    (longLived : config.processingTimeoutSeconds <
      ExecutionService.httpTtlSeconds)
    (reads : ∀ doc read, adapter.validateJson (adapter.dumpJson doc) =
      .ok read → read.executionId = doc.executionId)
    (own : ∀ caller, ExecutionService.httpKey config
      (submissions caller).userId idempotencyKey = key)
    (unused : Unused key world)
    (along : backend.machine.Along (Orderly config key)
      (start deployment config adapter idempotencyKey submissions world)
      moves)
    (reached : backend.machine.run
      (start deployment config adapter idempotencyKey submissions world)
      moves = some final)
    {first second : Caller} {firstDoc secondDoc : ExecutionDocument}
    (firstAnswered : AnsweredWith final first firstDoc)
    (secondAnswered : AnsweredWith final second secondDoc) :
    firstDoc.executionId = secondDoc.executionId ∧
      (Admitted key first final.shared → Admitted key second final.shared →
        first = second) := by
  have keySafe : (KeyExclusion.contract config key).Safe backend
      (fun _ _ _ => True) (start deployment config adapter idempotencyKey
        submissions world) := start_key given longLived own unused
  have claims := KeyExclusion.sound.along_claims Contract.stable_true keySafe
    (along.mono fun _ _ orderly => orderly.1)
  have safe := results_sound.run (answered_stable adapter)
    (start_results given own unused) ((along.and claims).mono guard_results)
    reached
  obtain ⟨entry, completed, firstWay⟩ := safe.ended first _ firstAnswered
  obtain ⟨other, otherCompleted, secondWay⟩ :=
    safe.ended second _ secondAnswered
  cases completed_unique completed otherCompleted
  rcases firstWay with ⟨firstIn, firstWrote, firstJson⟩ |
      ⟨firstOut, json, cached, firstRead⟩ <;>
    rcases secondWay with ⟨secondIn, secondWrote, secondJson⟩ |
      ⟨secondOut, otherJson, otherCached, secondRead⟩
  · have same : first = second := firstWrote.symm.trans secondWrote
    subst same
    cases firstAnswered.symm.trans secondAnswered
    exact ⟨rfl, fun _ _ => rfl⟩
  · refine ⟨?_, fun _ admitted => absurd admitted secondOut⟩
    rcases firstJson with empty | json
    · cases empty.symm.trans otherCached
    · cases json.symm.trans otherCached
      exact (reads firstDoc secondDoc secondRead).symm
  · refine ⟨?_, fun admitted => absurd admitted firstOut⟩
    rcases secondJson with empty | json
    · cases empty.symm.trans cached
    · cases json.symm.trans cached
      exact reads secondDoc firstDoc firstRead
  · cases cached.symm.trans otherCached
    cases firstRead.symm.trans secondRead
    exact ⟨rfl, fun admitted => absurd admitted firstOut⟩

end Runs

section Concrete

/-- A check by evaluation that a step is orderly: the clock stands still, a
reservation is made at the time it is stamped with, nothing is taken over, and
a request that lost its reservation still finds the key. -/
def orderlyCheck (state : Requests) : Move Caller Choice WorldEvent → Bool
  | .caller caller _ =>
      match state.awaited caller with
      | some (.findKey found) =>
          !state.shared.beatenInserts.contains ⟨caller, found⟩ ||
            (state.shared.keys.live state.shared.clock found).isSome
      | some (.insertProcessing record) =>
          decide (state.shared.clock ≤ record.createdAt)
      | some (.updateRecord _ record) => record.status != .processing
      | _ => true
  | .environment (.tick _) => false
  | _ => true

theorem orderly_of_check {config : IdempotencyConfig} {key : String}
    (state : Requests) (move : Move Caller Choice WorldEvent)
    (checked : orderlyCheck state move = true) :
    Orderly config key state move := by
  cases move with
  | caller caller choice =>
      refine ⟨fun command awaits => ?_, trivial⟩
      simp only [orderlyCheck, awaits] at checked
      cases command with
      | findKey found =>
          intro beaten
          simpa [beaten] using checked
      | insertProcessing record =>
          have stamped : state.shared.clock ≤ record.createdAt := by
            simpa using checked
          exact Nat.le_trans stamped (Nat.le_add_right _ _)
      | updateRecord loaded record =>
          intro processing
          simp [processing] at checked
      | _ => trivial
  | environment event =>
      cases event with
      | tick duration => cases checked
      | _ => exact ⟨trivial, trivial⟩
  | kill caller => exact ⟨trivial, trivial⟩

/-- The execution that a request answered with. -/
def answer? (state : Requests) (caller : Caller) : Option ExecutionDocument :=
  match state.running caller with
  | some (.done (.ok doc)) => some doc
  | _ => none

private theorem answeredWith_of_answer {state : Requests} {caller : Caller}
    {doc : ExecutionDocument} (answered : answer? state caller = some doc) :
    AnsweredWith state caller doc := by
  unfold answer? at answered
  split at answered
  · next other runs =>
      cases answered
      exact runs
  · cases answered

/-- The execution of a request that went through. -/
def printed (executionId : ExecutionId) (now : Nat) : ExecutionDocument :=
  ExecutionService.newExecution printOne executionId now

def printedJson (executionId createdAt : String) : String :=
  "\x7b\"script\":\"print(1)\",\"status\":\"queued\",\"stdout\":null," ++
    "\"stderr\":null,\"lang\":\"python\",\"lang_version\":\"3.14\"," ++
    "\"execution_id\":\"" ++ executionId ++ "\",\"created_at\":\"" ++
    createdAt ++ "\",\"updated_at\":\"" ++ createdAt ++
    "\",\"resource_usage\":null,\"user_id\":\"u\",\"exit_code\":null," ++
    "\"error_type\":null,\"priority\":\"normal\"\x7d"

/-- The adapter on the two executions of the runs below. -/
def printedAdapter : ExecutionAdapter where
  dumpJson doc :=
    if doc = printed "x" 0 then printedJson "x" "1970-01-01T00:00:00Z"
    else if doc = printed "y" (seconds 301) then
      printedJson "y" "1970-01-01T00:05:01Z"
    else ""
  validateJson json :=
    if json = printedJson "x" "1970-01-01T00:00:00Z" then
      .ok (printed "x" 0)
    else if json = printedJson "y" "1970-01-01T00:05:01Z" then
      .ok (printed "y" (seconds 301))
    else .error .validationError

private theorem printedAdapter_reads (doc read : ExecutionDocument)
    (reads : printedAdapter.validateJson (printedAdapter.dumpJson doc) =
      .ok read) : read.executionId = doc.executionId := by
  simp only [printedAdapter] at reads
  by_cases first : doc = printed "x" 0
  · subst first
    rw [if_pos rfl, if_pos rfl] at reads
    cases reads
    rfl
  by_cases second : doc = printed "y" (seconds 301)
  · subst second
    rw [if_neg first, if_pos rfl, if_neg (by decide), if_pos rfl] at reads
    cases reads
    rfl
  · rw [if_neg first, if_neg second, if_neg (by decide), if_neg (by decide)]
      at reads
    cases reads

/-- Any number of requests under one key of one user. -/
def printRequests : Requests :=
  start {} {} printedAdapter "retry" (fun _ => printOne) {}

/-- The key of these requests. -/
def retryKey : String := ExecutionService.httpKey {} "u" "retry"

private theorem unused_nothing (key : String) : Unused key {} where
  free := rfl
  nobody caller admitted := by cases admitted
  filed other entry present := by cases present

/-- Commands of a request that go through. -/
def goes (caller : Caller) (count : Nat) :
    List (Move Caller Choice WorldEvent) :=
  List.replicate count (.caller caller {})

/-- A submission that goes through and gets this id. -/
def submits (caller : Caller) (executionId : ExecutionId) :
    List (Move Caller Choice WorldEvent) :=
  goes caller 1 ++ [.caller caller { fresh := executionId }] ++ goes caller 7

/-- The third request reserves the key, fails and releases it.  The second
finds the key free and loses its reservation against the first, which
submits and completes the key before the second reads it again. -/
def repeatedRequest : List (Move Caller Choice WorldEvent) :=
  goes 2 5 ++
    [.caller 2 { outcome := .fails .pyMongoError }] ++ goes 2 1 ++
    goes 1 2 ++ goes 0 5 ++ submits 0 "x" ++ goes 0 3 ++ goes 1 4

theorem same_execution_repeated :
    ∃ final, backend.machine.run printRequests repeatedRequest = some final ∧
      AnsweredWith final 0 (printed "x" 0) ∧
      AnsweredWith final 1 (printed "x" 0) ∧
      ∀ caller doc, AnsweredWith final caller doc →
        doc.executionId = "x" := by
  have ends : (backend.machine.run printRequests repeatedRequest).map
      (fun final => (answer? final 0, answer? final 1)) =
      some (some (printed "x" 0), some (printed "x" 0)) := by
    decide +kernel
  obtain ⟨final, reached, shown⟩ := Option.map_eq_some_iff.mp ends
  simp only [Prod.mk.injEq] at shown
  have submitted := answeredWith_of_answer shown.1
  have along : backend.machine.Along (Orderly {} retryKey) printRequests
      repeatedRequest :=
    backend.machine.along_of_check orderly_of_check (by decide +kernel)
  have given : "retry" ≠ "" := by decide
  have longLived : ({} : IdempotencyConfig).processingTimeoutSeconds <
      ExecutionService.httpTtlSeconds := by decide
  have own : ∀ _caller : Caller,
      ExecutionService.httpKey {} printOne.userId "retry" = retryKey :=
    fun _ => rfl
  refine ⟨final, reached, submitted, answeredWith_of_answer shown.2,
    fun caller doc answered => ?_⟩
  exact (same_execution given longLived printedAdapter_reads own
    (unused_nothing retryKey) along reached answered submitted).1

/-- The first request submits its execution and takes longer than the
processing timeout until it stores it in the cache.  The second takes the key
over meanwhile. -/
def slowRequest : List (Move Caller Choice WorldEvent) :=
  goes 0 5 ++ submits 0 "x" ++ [.environment (.tick (seconds 301))] ++
    goes 1 5 ++ submits 1 "y" ++ goes 1 3 ++ goes 0 3

/-- Both answer successfully, within the life of the key and with every command
going through, and with different executions. -/
theorem two_executions :
    ∃ final, backend.machine.run printRequests slowRequest = some final ∧
      final.shared.clock < seconds ExecutionService.httpTtlSeconds ∧
      AnsweredWith final 0 (printed "x" 0) ∧
      AnsweredWith final 1 (printed "y" (seconds 301)) ∧
      (printed "x" 0).executionId ≠ (printed "y" (seconds 301)).executionId := by
  have ends : (backend.machine.run printRequests slowRequest).map
      (fun final =>
        (answer? final 0, answer? final 1, final.shared.clock)) =
      some (some (printed "x" 0), some (printed "y" (seconds 301)),
        seconds 301) := by
    decide +kernel
  obtain ⟨final, reached, shown⟩ := Option.map_eq_some_iff.mp ends
  simp only [Prod.mk.injEq] at shown
  obtain ⟨first, second, clock⟩ := shown
  refine ⟨final, reached, ?_, answeredWith_of_answer first,
    answeredWith_of_answer second, by decide⟩
  rw [clock]
  decide

end Concrete

end IdempotentRequests

end Integr8s
