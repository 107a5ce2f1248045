/-
Module: Integr8s.Proofs.LoneCalls
Purpose: What the backend's calls come to when no other caller is at work and
  only time passes: which stores a command leaves alone, who counts against a
  user's limit, and the release of a user's slot.
Trusted boundary: none
Main exports: World.Passes, QueueStore.counted, OnlyTime, anyhow, ends_quiet,
  ends_produce, ends_produceOrLog, ends_releaseUserSlot
-/
import Integr8s.Lib.Solo
import Integr8s.Proofs.AwaitedCommands

namespace Integr8s

open Setting

/-- The executions that count against a user's limit. -/
def QueueStore.counted (queue : QueueStore) (clock : Nat) (userId : UserId) :
    SortedSet ExecutionId :=
  (queue.userSet clock userId).prune clock

/-- The stores are as they were, but time went by. -/
structure World.Passes (world later : World) : Prop where
  clock : world.clock ≤ later.clock
  executions : later.executions = world.executions
  queue : later.queue = world.queue
  pods : later.cluster.pods = world.cluster.pods

/-- The error of a command that goes wrong. -/
def Outcome.error? : Outcome → Option PyException
  | .succeeds => none
  | .fails error | .unacknowledged error => some error

namespace World

variable {world next later : World} {caller : Caller} {command : Command}
  {choice : Choice} {reply : Except PyException (Reply command)}

theorem Passes.refl (world : World) : world.Passes world :=
  ⟨Nat.le_refl _, rfl, rfl, rfl⟩

theorem Passes.trans (first : world.Passes next) (second : next.Passes later) :
    world.Passes later :=
  ⟨Nat.le_trans first.clock second.clock,
    second.executions.trans first.executions,
    second.queue.trans first.queue, second.pods.trans first.pods⟩

/-- A command that fails leaves the stores as they were. -/
theorem passes_failure (caller : Caller) (world : World) (command : Command) :
    world.Passes (world.failure caller command) := by
  obtain ⟨holding, owing, attempts, sightings, same⟩ :=
    failure_eq caller world command
  rw [same]
  exact ⟨Nat.le_refl _, rfl, rfl, rfl⟩

/-- The commands that change nothing which the scheduling of executions
depends on. -/
def isQuiet : Command → Bool
  | .publish _ | .cluster .readEntrypoint | .cluster (.createConfigMap ..)
  | .cluster (.setConfigMapOwner ..) => true
  | command => command.isPassive

private theorem passes_effect (quiet : isQuiet command = true) :
    world.Passes (world.effect caller choice command).2 ∧
      ∃ value, (world.effect caller choice command).1 = .ok value := by
  cases command with
  | queue command =>
      cases command <;>
        first | exact ⟨⟨Nat.le_refl _, rfl, rfl, rfl⟩, _, rfl⟩ | cases quiet
  | cluster command =>
      cases command <;>
        first | exact ⟨⟨Nat.le_refl _, rfl, rfl, rfl⟩, _, rfl⟩ | cases quiet
  | _ => first | exact ⟨⟨Nat.le_refl _, rfl, rfl, rfl⟩, _, rfl⟩ | cases quiet

/-- A quiet command leaves the stores alone, however it goes, and raises only
when it went wrong. -/
theorem passes_perform (quiet : isQuiet command = true)
    (performed : world.perform caller command choice = some (reply, next)) :
    world.Passes next ∧ ∀ error, reply = .error error →
      command.mayRaise error = true ∧ choice.outcome.error? = some error := by
  obtain ⟨passed, value, answered⟩ :=
    @passes_effect world caller command choice quiet
  refine ⟨perform_world performed passed
    (passes_failure caller world command), ?_⟩
  rintro error rfl
  rcases perform_cases performed with
    ⟨-, went⟩ | ⟨raised, same, may, ⟨outcome, -⟩ | ⟨outcome, -⟩⟩
  · rw [went] at answered
    cases answered
  · cases same
    exact ⟨may, by rw [outcome, Outcome.error?]⟩
  · cases same
    exact ⟨may, by rw [outcome, Outcome.error?]⟩

end World

/-! ### Who counts against the limit -/

section Counting

variable {queue : QueueStore} {clock later : Nat} {userId : UserId}
  {executionId : ExecutionId} {score : Nat}

theorem QueueStore.score_counted :
    (queue.counted clock userId).score executionId = some score ↔
      (queue.userSet clock userId).score executionId = some score ∧
        clock < score := by
  simp [counted, Option.filter_eq_some_iff]

/-- As time goes by a member of an active set stays what it is, or the set is
gone. -/
theorem QueueStore.score_userSet_earlier (ordered : clock ≤ later)
    (scored : (queue.userSet later userId).score executionId = some score) :
    (queue.userSet clock userId).score executionId = some score := by
  cases alive : queue.userSets.live later userId with
  | none => simp [userSet, ExpiringStore.get, alive] at scored
  | some entry =>
      rwa [userSet_later ordered (by simp [alive])] at scored

theorem QueueStore.counted_earlier (ordered : clock ≤ later)
    (counts : executionId ∈ queue.counted later userId) :
    executionId ∈ queue.counted clock userId := by
  obtain ⟨score, scored⟩ := SortedSet.mem_iff_score.mp counts
  obtain ⟨stored, lasts⟩ := score_counted.mp scored
  exact SortedSet.mem_iff_score.mpr ⟨score, score_counted.mpr
    ⟨score_userSet_earlier ordered stored, by omega⟩⟩

end Counting

instance : Nonempty Choice :=
  ⟨{}⟩

/-- Nothing happens around the caller but that time passes. -/
def OnlyTime (setting : Setting World Command Choice WorldEvent) : Prop :=
  ∀ world event, setting.event world event → ∃ duration, event = .tick duration

/-- Around the caller anything may happen, and its commands may go any way. -/
def anyhow : Setting World Command Choice WorldEvent where
  event _ _ := True
  choice _ _ _ := True

/-- The surroundings touch no more than the executions and the clock. -/
theorem anyhow_later {world between : World}
    (later : anyhow.Later backend world between) :
    between.queue = world.queue ∧ between.published = world.published ∧
      world.clock ≤ between.clock := by
  rcases later with rfl | ⟨event, -, happened⟩
  · exact ⟨rfl, rfl, Nat.le_refl _⟩
  · rcases World.happen_cases happened with
      ⟨duration, -, rfl⟩ | ⟨executions, rfl⟩
    · exact ⟨rfl, rfl, Nat.le_add_right ..⟩
    · exact ⟨rfl, rfl, Nat.le_refl _⟩

/-- A command always goes through in a setting. -/
def Works (setting : Setting World Command Choice WorldEvent)
    (command : Command) : Prop :=
  ∀ world choice, setting.choice world command choice →
    choice.outcome = .succeeds

/-- Whether a command can go wrong with this error in a setting, while the
queue's keys are these. -/
def MayRaise (setting : Setting World Command Choice WorldEvent)
    (queue : QueueStore) (command : Command) (error : PyException) : Prop :=
  command.mayRaise error = true ∧
    ∃ world choice, world.queue = queue ∧
      setting.choice world command choice ∧
      choice.outcome.error? = some error

/-! ### Calls around which only time passes -/

section Lone

variable {setting : Setting World Command Choice WorldEvent}
  {caller : Caller} {world : World}

theorem OnlyTime.passes (time : OnlyTime setting) {between : World}
    (later : setting.Later backend world between) : world.Passes between := by
  rcases later with rfl | ⟨event, allowed, happened⟩
  · exact .refl _
  · obtain ⟨duration, rfl⟩ := time world event allowed
    cases happened
    exact ⟨Nat.le_add_right .., rfl, rfl, rfl⟩

variable (time : OnlyTime setting)

include time

/-- A quiet command: its answer is known as far as the setting and the
command's way say, and the stores are as they were. -/
theorem ends_quiet {command : Command}
    {post : Except PyException (Reply command) → World → Prop}
    (quiet : World.isQuiet command = true)
    (leads : ∀ between choice reply next, world.Passes between →
      setting.choice between command choice →
        between.perform caller command choice = some (reply, next) →
          world.Passes next → post reply next) :
    setting.Ends backend caller (request command) post world := by
  apply ends_call
  intro between later choice reply next may performed
  have passed := time.passes later
  exact leads between choice reply next passed may performed
    (passed.trans (World.passes_perform quiet performed).1)

/-- A quiet command, when only the time and a possible error matter. -/
theorem ends_passing {command : Command}
    (quiet : World.isQuiet command = true) :
    setting.Ends backend caller (request command)
      (fun reply after => world.Passes after ∧
        ∀ error, reply = .error error →
          MayRaise setting world.queue command error) world := by
  apply ends_quiet time quiet
  intro between choice reply next before may performed passed
  refine ⟨passed, fun error raised => ?_⟩
  obtain ⟨raises, wrong⟩ :=
    (World.passes_perform quiet performed).2 error raised
  exact ⟨raises, between, choice, before.queue, may, wrong⟩

/-- A command that always goes through. -/
theorem ends_works {command : Command}
    {post : Except PyException (Reply command) → World → Prop}
    (works : Works setting command)
    (leads : ∀ between choice, world.Passes between →
      post (between.effect caller choice command).1
        (between.effect caller choice command).2) :
    setting.Ends backend caller (request command) post world := by
  apply ends_call
  intro between later choice reply next may performed
  have went : between.effect caller choice command = (reply, next) := by
    apply Option.some.inj
    rw [← performed]
    simp [backend, World.perform, works between choice may]
  have leadsThere := leads between choice (time.passes later)
  rw [went] at leadsThere
  exact leadsThere

/-- Storing and publishing an event changes no store that the scheduling of
executions depends on. -/
theorem ends_produce (event : DomainEvent) :
    setting.Ends backend caller (produce event)
      (fun result after => world.Passes after ∧
        ∀ error, result = .error error →
          MayRaise setting world.queue (.storeEvent event) error ∨
            MayRaise setting world.queue (.publish event) error)
      world := by
  unfold produce
  rw [ends_bind]
  apply ends_mono _ (ends_passing time rfl)
  rintro (error | stored) next ⟨passed, raises⟩
  · refine ⟨passed, ?_⟩
    rintro _ ⟨⟩
    exact .inl (raises _ rfl)
  · rw [ends_bind]
    apply ends_mono _ (ends_passing time rfl)
    rintro (error | published) last ⟨later, raisesToo⟩
    · refine ⟨passed.trans later, ?_⟩
      rintro _ ⟨⟩
      exact .inr (passed.queue ▸ raisesToo _ rfl)
    · refine ⟨passed.trans later, ?_⟩
      rintro _ ⟨⟩

/-- A publish error is only logged. -/
theorem ends_produceOrLog (event : DomainEvent) :
    setting.Ends backend caller (produceOrLog event)
      (fun result after => world.Passes after ∧
        ∀ error, result = .error error → error.isPublishError = false ∧
          (MayRaise setting world.queue (.storeEvent event) error ∨
            MayRaise setting world.queue (.publish event) error))
      world := by
  unfold produceOrLog
  rw [ends_attempt]
  apply ends_mono _ (ends_produce time event)
  rintro (error | _) next ⟨passed, raises⟩
  · by_cases logged : error.isPublishError
    · simp only [if_pos logged]
      refine ⟨passed, ?_⟩
      rintro _ ⟨⟩
    · simp only [if_neg logged]
      refine ⟨passed, ?_⟩
      rintro _ ⟨⟩
      exact ⟨by simpa using logged, raises _ rfl⟩
  · refine ⟨passed, ?_⟩
    rintro _ ⟨⟩

end Lone

/-! ### The release of a slot -/

/-- What the release of an execution's user slot leaves: nobody has a place in
an active set who had none, and the execution has none in its owner's, unless
the key that names its owner has run out. -/
structure World.Releases (executionId : ExecutionId) (world after : World) :
    Prop where
  clock : world.clock ≤ after.clock
  executions : after.executions = world.executions
  pods : after.cluster.pods = world.cluster.pods
  pending : after.queue.pending = world.queue.pending
  running : after.queue.running = world.queue.running
  events : after.queue.events = world.queue.events
  handedOut : after.queue.handedOut = world.queue.handedOut
  owners : ∀ other, other ≠ executionId →
    after.queue.owners other = world.queue.owners other
  scores : ∀ userId other score,
    (after.queue.userSet after.clock userId).score other = some score →
      (world.queue.userSet world.clock userId).score other = some score
  freed : ∀ entry, world.queue.owners executionId = some entry →
    executionId ∈ after.queue.userSet after.clock entry.value →
      entry.expiresAt < after.clock
  owner : after.queue.owners executionId = world.queue.owners executionId ∨
    after.queue.owners executionId = none

section Releasing

variable {world between after : World} {executionId : ExecutionId}

theorem World.Releases.later (passed : world.Passes between)
    (releases : between.Releases executionId after) :
    world.Releases executionId after := by
  have earlier : ∀ userId other score,
      (between.queue.userSet between.clock userId).score other = some score →
        (world.queue.userSet world.clock userId).score other =
          some score := by
    intro userId other score scored
    rw [passed.queue] at scored
    exact QueueStore.score_userSet_earlier passed.clock scored
  constructor
  · exact Nat.le_trans passed.clock releases.clock
  · rw [releases.executions, passed.executions]
  · rw [releases.pods, passed.pods]
  · rw [releases.pending, passed.queue]
  · rw [releases.running, passed.queue]
  · rw [releases.events, passed.queue]
  · rw [releases.handedOut, passed.queue]
  · intro other different
    rw [releases.owners other different, passed.queue]
  · intro userId other score scored
    exact earlier userId other score
      (releases.scores userId other score scored)
  · intro entry owned placed
    rw [← passed.queue] at owned
    exact releases.freed entry owned placed
  · rw [← passed.queue]
    exact releases.owner

/-- A release that finds no owner: the key has expired. -/
theorem releases_ownerless
    (found : world.queue.owners.get world.clock executionId = none) :
    world.Releases executionId
      { world with queue := world.queue.noteRelease executionId } := by
  refine ⟨Nat.le_refl _, rfl, rfl, rfl, rfl, rfl, rfl, fun _ _ => rfl,
    fun _ _ _ scored => scored, fun entry owned _ => ?_, .inl rfl⟩
  exact ExpiringStore.live_eq_none.mp (Option.map_eq_none_iff.mp found) entry
    owned

/-- A release that drops the slot of the owner that it read. -/
theorem releases_drop {userId : UserId}
    (owner : ∀ entry, world.queue.owners executionId = some entry →
      entry.value = userId) :
    world.Releases executionId
      { world with
        queue := world.queue.dropUserSlot world.clock userId
          executionId } := by
  constructor
  case owners => exact fun other different => Function.update_of_ne different ..
  case scores =>
    intro user other score scored
    simp only [QueueStore.userSet_dropUserSlot] at scored
    split at scored
    · next same =>
        subst same
        by_cases own : other = executionId
        · subst own
          simp at scored
        · simpa [own] using scored
    · exact scored
  case freed =>
    intro entry owned placed
    rw [QueueStore.userSet_dropUserSlot, if_pos (owner entry owned)] at placed
    simp at placed
  case owner => exact .inr (Function.update_self ..)
  all_goals rfl

/-- Nobody's active set has the execution. -/
def World.Slotless (world : World) (executionId : ExecutionId) : Prop :=
  ∀ userId, executionId ∉ world.queue.userSet world.clock userId

/-- Where there is no slot, none has to be given back. -/
theorem releases_slotless (slotless : world.Slotless executionId)
    {choice : Choice} (caller : Caller) :
    world.Releases executionId
      (world.effect caller choice (.queue (.owner executionId))).2 := by
  simp only [World.effect, QueueStore.perform, QueueStore.readOwner]
  split <;> exact ⟨Nat.le_refl _, rfl, rfl, rfl, rfl, rfl, rfl,
    fun _ _ => rfl, fun _ _ _ scored => scored,
    fun entry _ placed => absurd placed (slotless entry.value), .inl rfl⟩

private theorem releases_of_failure (slotless : world.Slotless executionId) :
    world.Releases executionId world :=
  ⟨Nat.le_refl _, rfl, rfl, rfl, rfl, rfl, rfl, fun _ _ => rfl,
    fun _ _ _ scored => scored,
    fun entry _ placed => absurd placed (slotless entry.value), .inl rfl⟩

/-- In a setting the release of a user's slot may go wrong only where it makes
no difference: when there is no slot, or after it took effect. -/
structure Frees (setting : Setting World Command Choice WorldEvent)
    (executionId : ExecutionId) : Prop where
  reads : ∀ world choice,
    setting.choice world (.queue (.owner executionId)) choice →
      choice.outcome = .succeeds ∨
        choice.outcome.error? = some .redisError ∧ world.Slotless executionId
  drops : ∀ world userId choice,
    setting.choice world (.queue (.dropUserSlot userId executionId)) choice →
      choice.outcome = .succeeds ∨
        choice.outcome = .unacknowledged .redisError

end Releasing

section Release

variable {setting : Setting World Command Choice WorldEvent}
  {caller : Caller} {world : World} (time : OnlyTime setting)

include time

/-- The slot that was read from the owner's key is dropped. -/
theorem ends_dropUserSlot {executionId : ExecutionId} {userId : UserId}
    (frees : Frees setting executionId)
    (owner : ∀ entry, world.queue.owners executionId = some entry →
      entry.value = userId) :
    setting.Ends backend caller
      (request (.queue (.dropUserSlot userId executionId)))
      (fun result after => (result = .ok () ∨ result = .error .redisError) ∧
        world.Releases executionId after) world := by
  apply ends_call
  intro between later choice reply next may performed
  have passed := time.passes later
  have drops : between.Releases executionId
      (between.effect caller choice
        (.queue (.dropUserSlot userId executionId))).2 :=
    releases_drop fun entry owned => owner entry (passed.queue ▸ owned)
  rcases World.perform_cases performed with
    ⟨-, went⟩ | ⟨error, rfl, -, ⟨outcome, -⟩ | ⟨outcome, -, rfl⟩⟩
  · rw [went] at drops
    cases went
    exact ⟨.inl rfl, drops.later passed⟩
  · rcases frees.drops between userId choice may with works | lost
    · cases outcome.symm.trans works
    · cases outcome.symm.trans lost
  · rcases frees.drops between userId choice may with works | lost
    · cases outcome.symm.trans works
    · cases outcome.symm.trans lost
      exact ⟨.inr rfl, drops.later passed⟩

theorem ends_releaseUserSlot (executionId : ExecutionId)
    (frees : Frees setting executionId) :
    setting.Ends backend caller
      (ExecutionQueueService.releaseUserSlot executionId)
      (fun result after => result = .ok () ∧
        world.Releases executionId after) world := by
  unfold ExecutionQueueService.releaseUserSlot
  rw [ends_attempt, ends_bind]
  apply ends_call
  intro between later choice reply next may performed
  have passed := time.passes later
  rcases World.perform_cases performed with
    ⟨-, went⟩ | ⟨error, rfl, -, wrong⟩
  · cases found : between.queue.owners.get between.clock executionId with
    | none =>
        simp only [World.effect, QueueStore.perform, QueueStore.readOwner,
          found, Prod.mk.injEq] at went
        obtain ⟨rfl, rfl⟩ := went
        exact ⟨rfl, (releases_ownerless found).later passed⟩
    | some userId =>
        simp only [World.effect, QueueStore.perform, QueueStore.readOwner,
          found, Prod.mk.injEq] at went
        obtain ⟨rfl, rfl⟩ := went
        apply ends_mono _ (ends_dropUserSlot time frees fun entry owned => ?_)
        · rintro _ after ⟨rfl | rfl, releases⟩ <;>
            exact ⟨rfl, releases.later passed⟩
        · obtain ⟨alive, live, rfl⟩ := Option.map_eq_some_iff.mp found
          cases (ExpiringStore.live_eq_some.mp live).1.symm.trans owned
          rfl
  · have raised : choice.outcome.error? = some error := by
      rcases wrong with ⟨outcome, -⟩ | ⟨outcome, -⟩ <;>
        rw [outcome, Outcome.error?]
    rcases frees.reads between choice may with works | ⟨redis, slotless⟩
    · rw [works] at raised
      cases raised
    · cases redis.symm.trans raised
      refine ⟨rfl, World.Releases.later passed ?_⟩
      rcases wrong with ⟨-, rfl⟩ | ⟨-, -, rfl⟩
      · exact releases_of_failure slotless
      · exact releases_slotless slotless caller

end Release

end Integr8s
