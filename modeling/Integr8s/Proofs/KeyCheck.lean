/-
Module: Integr8s.Proofs.KeyCheck
Purpose: Rules for the backend's commands and for the idempotency manager under
  any contract: what a caller asserts at each step of a check of its key, and
  what follows for the whole check.
Trusted boundary: none
Main exports: BackendContract.stable, wp_request, wp_unchanged, CheckRules,
  CheckRules.wp_checkAndReserve, MarkRules, MarkRules.wp_markCompleted,
  MarkRules.wp_markCompletedWithJson
-/
import Integr8s.Services.Idempotency

namespace Integr8s

/-- A contract between the backend's calls. -/
abbrev BackendContract := Contract Caller World Command Choice WorldEvent

/-- What the other callers leave alone is stable if it says nothing of the clock
and the executions, which are all that other writers change. -/
theorem BackendContract.stable {contract : BackendContract}
    {ended : Caller → World → Prop}
    (others : ∀ caller before after, contract.rely caller before after →
      ended caller before → ended caller after)
    (later : ∀ caller world clock, ended caller world →
      ended caller { world with clock := clock })
    (written : ∀ caller world executions, ended caller world →
      ended caller { world with executions := executions }) :
    contract.Stable backend
      (fun caller (_ : Except PyException Unit) => ended caller) where
  others caller _ before after _ _ := others caller before after
  environment := by
    intro atWork world event next _ _ happened caller result holds
    rcases World.happen_cases happened with
      ⟨duration, -, rfl⟩ | ⟨executions, rfl⟩
    · exact later caller world _ holds
    · exact written caller world _ holds

section Commands

variable {contract : BackendContract} {caller : Caller} {world : World}
  {command : Command}
  {post : Except PyException (Reply command) → World → Prop}

/-- What a contract asks of a command that left the world so. -/
def Leads (contract : BackendContract) (caller : Caller) (before after : World)
    (continues : World → Prop) : Prop :=
  contract.invariant after ∧ contract.guarantee caller before after ∧
    ∀ later, contract.Later caller after later → continues later

/-- A command keeps a contract when it does in each of the three ways in which
it can go. -/
theorem wp_request (claim : contract.claims caller command world)
    (succeeds : ∀ choice, choice.outcome = .succeeds →
      contract.allows caller world command choice →
      Leads contract caller world (world.effect caller choice command).2
        (post (world.effect caller choice command).1))
    (fails : ∀ choice error, choice.outcome = .fails error →
      contract.allows caller world command choice →
      command.mayRaise error = true →
      Leads contract caller world (world.failure caller command)
        (post (.error error)))
    (loses : ∀ choice error, choice.outcome = .unacknowledged error →
      contract.allows caller world command choice →
      command.mayRaise error = true → command.mayLoseAnswer = true →
      Leads contract caller world (world.effect caller choice command).2
        (post (.error error))) :
    contract.wp backend caller (request command) post world := by
  apply Contract.wp_call claim
  intro choice reply next allowed performed
  rcases World.perform_cases performed with
    ⟨outcome, went⟩ |
      ⟨error, rfl, may, ⟨outcome, rfl⟩ | ⟨outcome, lost, rfl⟩⟩
  · have led := succeeds choice outcome allowed
    rw [went] at led
    exact led
  · exact fails choice error outcome allowed may
  · exact loses choice error outcome allowed may lost

/-- A command that leaves the world alone. -/
theorem wp_unchanged (claim : contract.claims caller command world)
    (invariant : contract.invariant world)
    (stutters : contract.guarantee caller world world)
    (effects : ∀ choice, (world.effect caller choice command).2 = world)
    (failures : world.failure caller command = world)
    (answers : ∀ choice later, contract.Later caller world later →
      contract.allows caller world command choice →
      post (world.effect caller choice command).1 later)
    (raises : ∀ error later, contract.Later caller world later →
      command.mayRaise error = true → post (.error error) later) :
    contract.wp backend caller (request command) post world := by
  apply wp_request claim
  · intro choice _ allowed
    rw [effects choice]
    exact ⟨invariant, stutters, fun later reached =>
      answers choice later reached allowed⟩
  · intro choice error _ _ may
    rw [failures]
    exact ⟨invariant, stutters, fun later reached =>
      raises error later reached may⟩
  · intro choice error _ _ may _
    rw [effects choice]
    exact ⟨invariant, stutters, fun later reached =>
      raises error later reached may⟩

/-- Reading the clock. -/
theorem wp_now {post : Except PyException Nat → World → Prop}
    (claim : contract.claims caller .now world)
    (invariant : contract.invariant world)
    (stutters : contract.guarantee caller world world)
    (answers : ∀ later, contract.Later caller world later →
      post (.ok world.clock) later) :
    contract.wp backend caller (request .now) post world := by
  apply wp_unchanged claim invariant stutters (fun _ => rfl) rfl
  · intro _ later reached _
    exact answers later reached
  · intro error later _ may
    cases may

end Commands

/-! ### The check of a key -/

/-- What a caller asserts while it checks its key, from before the check to its
result, and the rule for each command of the check. -/
structure CheckRules (contract : BackendContract) (caller : Caller)
    (config : IdempotencyConfig) (key : String) (ttl : Nat)
    (post : Except PyException IdempotencyResult → World → Prop) where
  outside : World → Prop
  stamped : Nat → World → Prop
  beaten : World → Prop
  seen : IdempotencyRecord → World → Prop
  aged : IdempotencyRecord → Nat → World → Prop
  find : ∀ world, contract.invariant world → outside world →
    contract.wp backend caller (request (.findKey key))
      (fun reply later => match reply with
        | .ok none => outside later
        | .ok (some existing) => seen existing later
        | .error error => post (.error error) later) world
  stamp : ∀ world, contract.invariant world → outside world →
    contract.wp backend caller (request .now)
      (fun reply later => match reply with
        | .ok now => stamped now later
        | .error error => post (.error error) later) world
  insert : ∀ world (record : IdempotencyRecord), contract.invariant world →
    stamped record.createdAt world → record.key = key →
    record.status = .processing → record.resultJson = none →
    record.ttlSeconds = ttl →
    contract.wp backend caller (request (.insertProcessing record))
      (fun reply later => match reply with
        | .ok _ => ∀ result : IdempotencyResult, result.isDuplicate = false →
            post (.ok result) later
        | .error error =>
            if error = .duplicateKeyError then beaten later
            else post (.error error) later) world
  findAgain : ∀ world, contract.invariant world → beaten world →
    contract.wp backend caller (request (.findKey key))
      (fun reply later => match reply with
        | .ok none => ∀ result : IdempotencyResult,
            result.isDuplicate = false → post (.ok result) later
        | .ok (some existing) => seen existing later
        | .error error => post (.error error) later) world
  age : ∀ world existing, contract.invariant world → seen existing world →
    existing.status = .processing →
    contract.wp backend caller (request .now)
      (fun reply later => match reply with
        | .ok now => aged existing now later
        | .error error => post (.error error) later) world
  takeOver : ∀ world existing now, contract.invariant world →
    aged existing now world →
    seconds config.processingTimeoutSeconds < now - existing.createdAt →
    existing.status = .processing →
    contract.wp backend caller
      (request (.updateRecord existing
        { existing with createdAt := now, status := .processing }))
      (fun reply later => match reply with
        | .ok _ => ∀ result : IdempotencyResult, result.isDuplicate = false →
            post (.ok result) later
        | .error error => post (.error error) later) world
  young : ∀ world existing now, contract.invariant world →
    aged existing now world →
    ¬ seconds config.processingTimeoutSeconds < now - existing.createdAt →
    existing.status = .processing →
    ∀ result : IdempotencyResult, result.isDuplicate = true →
      result.hasCachedResult = existing.resultJson.isSome →
      post (.ok result) world
  finished : ∀ world existing, contract.invariant world →
    seen existing world → existing.status ≠ .processing →
    ∀ result : IdempotencyResult, result.isDuplicate = true →
      result.hasCachedResult = existing.resultJson.isSome →
      post (.ok result) world

namespace CheckRules

variable {contract : BackendContract} {caller : Caller}
  {config : IdempotencyConfig} {key : String} {ttl : Nat} {world : World}
  {post : Except PyException IdempotencyResult → World → Prop}
  (rules : CheckRules contract caller config key ttl post)

private theorem wp_handleExistingKey {existing : IdempotencyRecord}
    (invariant : contract.invariant world)
    (seen : rules.seen existing world) :
    contract.wp backend caller
      (IdempotencyManager.handleExistingKey config existing key) post
      world := by
  unfold IdempotencyManager.handleExistingKey
  cases status : existing.status with
  | completed =>
      exact rules.finished world existing invariant seen (by simp [status])
        _ rfl rfl
  | failed =>
      exact rules.finished world existing invariant seen (by simp [status])
        _ rfl rfl
  | processing =>
      dsimp only
      rw [IdempotencyManager.handleProcessingKey, Contract.wp_bind]
      apply Contract.wp_mono _ invariant
        (rules.age world existing invariant seen status)
      intro reply later kept reached
      cases reply with
      | error error => exact reached
      | ok now =>
          dsimp only
          split
          · next stale =>
              rw [Contract.wp_bind]
              apply Contract.wp_mono _ kept
                (rules.takeOver later existing now kept reached stale status)
              intro answer final _ taken
              cases answer with
              | error error => exact taken
              | ok written => exact taken _ rfl
          · next fresh =>
              exact rules.young later existing now kept reached fresh status
                _ rfl rfl

private theorem wp_createNewKey {eventType : EventType} {eventId : EventId}
    (invariant : contract.invariant world) (outside : rules.outside world) :
    contract.wp backend caller
      (IdempotencyManager.createNewKey config key eventType eventId ttl) post
      world := by
  rw [IdempotencyManager.createNewKey, Contract.wp_bind]
  apply Contract.wp_mono _ invariant (rules.stamp world invariant outside)
  intro reply later kept reached
  cases reply with
  | error error => exact reached
  | ok createdAt =>
      dsimp only
      rw [Contract.wp_attempt, Contract.wp_bind]
      apply Contract.wp_mono _ kept
        (rules.insert later _ kept reached rfl rfl rfl rfl)
      intro answer final keptFinal inserted
      cases answer with
      | ok _ => exact inserted _ rfl
      | error error =>
          dsimp only at inserted ⊢
          split at inserted
          · next beaten =>
              rw [if_pos beaten, Contract.wp_bind]
              apply Contract.wp_mono _ keptFinal
                (rules.findAgain final keptFinal inserted)
              intro found last keptLast again
              match found with
              | .error error => exact again
              | .ok none => exact again _ rfl
              | .ok (some existing) =>
                  exact rules.wp_handleExistingKey keptLast again
          · next other =>
              rw [if_neg other]
              exact inserted

/-- The check as a whole. -/
theorem wp_checkAndReserve {eventType : EventType} {eventId : EventId}
    (invariant : contract.invariant world) (outside : rules.outside world) :
    contract.wp backend caller
      (IdempotencyManager.checkAndReserve config key eventType eventId ttl)
      post world := by
  rw [IdempotencyManager.checkAndReserve, Contract.wp_bind]
  apply Contract.wp_mono _ invariant (rules.find world invariant outside)
  intro reply later kept reached
  match reply with
  | .error error => exact reached
  | .ok none => exact rules.wp_createNewKey kept reached
  | .ok (some existing) => exact rules.wp_handleExistingKey kept reached

end CheckRules

/-! ### Marking a key -/

/-- What a caller asserts while it marks its key with a final status. -/
structure MarkRules (contract : BackendContract) (caller : Caller)
    (config : IdempotencyConfig) (key : String) (cachedJson : Option String)
    (post : Except PyException Bool → World → Prop) where
  holding : World → Prop
  marking : IdempotencyRecord → World → Prop
  find : ∀ world, contract.invariant world → holding world →
    contract.wp backend caller (request (.findKey key))
      (fun reply later => match reply with
        | .ok none => post (.ok false) later
        | .ok (some existing) => marking existing later
        | .error error => post (.error error) later ∧ post (.ok false) later)
      world
  read : ∀ world existing, contract.invariant world →
    marking existing world →
    contract.wp backend caller (request .now)
      (fun reply later => match reply with
        | .ok _ => marking existing later
        | .error error => post (.error error) later) world
  update : ∀ world existing (record : IdempotencyRecord),
    contract.invariant world → marking existing world →
    record.key = existing.key → record.status = .completed →
    record.resultJson =
      IdempotencyManager.cachedResult config existing cachedJson →
    contract.wp backend caller (request (.updateRecord existing record))
      (fun reply later => match reply with
        | .ok written => post (.ok (decide (0 < written))) later
        | .error error => post (.error error) later) world

namespace MarkRules

variable {contract : BackendContract} {caller : Caller}
  {config : IdempotencyConfig} {key : String} {world : World}
  {post : Except PyException Bool → World → Prop}

private theorem wp_updateKeyStatus {cachedJson error : Option String}
    (rules : MarkRules contract caller config key cachedJson post)
    {existing : IdempotencyRecord} (invariant : contract.invariant world)
    (marking : rules.marking existing world) :
    contract.wp backend caller
      (IdempotencyManager.updateKeyStatus config existing .completed cachedJson
        error) post world := by
  unfold IdempotencyManager.updateKeyStatus
  rw [Contract.wp_bind]
  apply Contract.wp_mono _ invariant
    (rules.read world existing invariant marking)
  intro reply later kept reached
  cases reply with
  | error error => exact reached
  | ok completedAt =>
      dsimp only
      rw [Contract.wp_bind]
      refine Contract.wp_mono ?_ kept
        (rules.update later existing _ kept reached ?_ ?_ ?_)
      · intro answer final _ written
        cases answer <;> exact written
      · rfl
      · rfl
      · rfl

theorem wp_markCompleted
    (rules : MarkRules contract caller config key none post)
    (invariant : contract.invariant world) (holding : rules.holding world) :
    contract.wp backend caller (IdempotencyManager.markCompleted config key)
      post world := by
  rw [IdempotencyManager.markCompleted, Contract.wp_bind,
    Contract.wp_attempt]
  apply Contract.wp_mono _ invariant (rules.find world invariant holding)
  intro reply later kept reached
  match reply with
  | .ok none => exact reached
  | .ok (some existing) => exact rules.wp_updateKeyStatus kept reached
  | .error error =>
      dsimp only
      split
      · exact reached.2
      · exact reached.1

theorem wp_markCompletedWithJson {cachedJson : String}
    (rules : MarkRules contract caller config key (some cachedJson) post)
    (invariant : contract.invariant world) (holding : rules.holding world) :
    contract.wp backend caller
      (IdempotencyManager.markCompletedWithJson config key cachedJson) post
      world := by
  rw [IdempotencyManager.markCompletedWithJson, Contract.wp_bind]
  apply Contract.wp_mono _ invariant (rules.find world invariant holding)
  intro reply later kept reached
  match reply with
  | .ok none => exact reached
  | .ok (some existing) => exact rules.wp_updateKeyStatus kept reached
  | .error error => exact reached.1

end MarkRules

end Integr8s
