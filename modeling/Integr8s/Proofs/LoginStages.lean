/-
Module: Integr8s.Proofs.LoginStages
Purpose: The stages that a request with a username goes through: before its
  check of the lock, past it, with a wrong password compared, with its failure
  counted, about to lock, and past its end.
Trusted boundary: none
Main exports: LoginLockout.Stage, LoginLockout.stages,
  LoginLockout.follows_run
-/
import Integr8s.Lib.Typestate
import Integr8s.Services.Auth

namespace Integr8s

namespace LoginLockout

open LoginCall (start)

/-- Where a request stands with a username: it is about another one, it
unlocks this one, or it is a login of this one, before its check, past it, with
a wrong password compared, with the failure counted, about to lock, with the
keys cleared, returning, or past all that. -/
inductive Stage where
  | other
  | unlocking
  | idle
  | opened
  | guessed
  | counted (attempts : Nat)
  | armed
  | winning
  | won
  | past
deriving DecidableEq

/-- A login that is under way. -/
def Stage.active : Stage → Bool
  | .opened | .guessed | .counted _ | .armed | .winning => true
  | _ => false

/-- The username that a command is about. -/
def about : LoginCommand → Option Username
  | .checkLocked username | .getUser username | .incr username => username
  | .verifyPassword username _ _ | .expire username _ => username
  | .lock username _ | .clear username => username
  | _ => none

/-- How long a lock and a counter last, in seconds. -/
def lockoutSeconds (settings : SystemSettings) : Nat :=
  settings.lockoutDurationMinutes * 60

/-- The stages in which a command about the username is awaited. -/
def MayAwait (settings : SystemSettings) (stage : Stage) :
    LoginCommand → Prop
  | .checkLocked _ => stage = .idle
  | .getUser _ => stage = .opened
  | .verifyPassword .. => stage = .opened
  | .incr _ => stage = .guessed
  | .expire _ ttl => (∃ attempts, stage = .counted attempts) ∧
      ttl = lockoutSeconds settings
  | .lock _ ttl => stage = .armed ∧ ttl = lockoutSeconds settings
  | .clear _ => stage = .opened ∨ stage = .unlocking
  | _ => True

/-- The stage after a command about the username. -/
def Stage.next (settings : SystemSettings) (stage : Stage) :
    (command : LoginCommand) →
      Except PyException (LoginReply command) → Stage
  | .checkLocked _, .ok locked => if locked then .past else .opened
  | .getUser _, .error _ => .past
  | .verifyPassword _ _ none, .ok _ => .guessed
  | .verifyPassword _ _ (some user), .ok right =>
      if !right then .guessed
      else if user.isActive then .opened else .past
  | .incr _, .ok attempts => .counted attempts
  | .expire .., .ok _ =>
      match stage with
      | .counted attempts =>
          if settings.maxLoginAttempts ≤ attempts then .armed else .past
      | _ => stage
  | .lock .., .ok _ => .past
  | .clear _, .ok _ => if stage = .opened then .winning else stage
  | _, _ => stage

/-- The stage of a request after a command.  The end of a login that returns
is the publication of its event. -/
def Stage.after (settings : SystemSettings) (username : Username)
    (stage : Stage) (command : LoginCommand)
    (reply : Except PyException (LoginReply command)) : Stage :=
  if about command = some username then stage.next settings command reply
  else match command, reply with
    | .storeEvent _, .error _ => if stage = .winning then .past else stage
    | .publish _, _ => if stage = .winning then .won else stage
    | _, _ => stage

/-- The stages of the requests with a username. -/
def stages (settings : SystemSettings) (username : Username) :
    Typestate Stage LoginCommand LoginReply PyException where
  awaits stage command := stage ≠ .won ∧
    (about command = some username → MayAwait settings stage command)
  answers _
    | .effectiveSettings, reply => reply = .ok settings
    | .getUser _, _ | .publish _, _ => True
    | .storeEvent _, reply =>
        ∀ error, reply = .error error → error.isPublishError = false
    | _, reply => ∃ answer, reply = .ok answer
  after := Stage.after settings username
  loops stage := stage ≠ .won
  gone _ := False

/-- The stage in which a request begins. -/
def Stage.first (username : Username) : LoginCall → Stage
  | .login name .. => if name = username then .idle else .other
  | .unlockUser name => if name = username then .unlocking else .other

/-- No request ends under way, and only a login that has won returns. -/
def Ended (username : Username) (call : LoginCall)
    (result : Except PyException (Option LoginResult)) (stage : Stage) :
    Prop :=
  stage.active = false ∧
    (call.logsIn = some username →
      ∀ value, result = .ok value → stage = .won)

section Calls

variable {settings : SystemSettings} {username name : Username}
  {security : Security}

/-- A login is about its own username only. -/
def AboutOnly (name : Username) (command : LoginCommand) : Prop :=
  about command = some name ∨ about command = none

theorem asks_produceOrLog (event : AuthEvent) :
    (AuthService.produceOrLog event).Asks (AboutOnly name) := by
  apply Coroutine.Asks.attempt
  · apply Coroutine.Asks.bind
    · exact Coroutine.Asks.call (.inr rfl)
    intro _
    exact Coroutine.Asks.call (.inr rfl)
  · intro error
    split <;> trivial

private theorem asks_recordFailedAttempt :
    (LoginLockoutService.recordFailedAttempt name).Asks (AboutOnly name) := by
  apply Coroutine.Asks.bind
  · exact Coroutine.Asks.call (.inr rfl)
  intro effective
  apply Coroutine.Asks.bind
  · exact Coroutine.Asks.call (.inl rfl)
  intro attempts
  apply Coroutine.Asks.bind
  · exact Coroutine.Asks.call (.inl rfl)
  intro _
  unfold LoginLockoutService.lockWhenDue
  split
  · exact Coroutine.Asks.bind (Coroutine.Asks.call (.inl rfl)) fun _ => trivial
  · trivial

private theorem asks_failLogin (reason ipAddress userId : String) :
    (AuthService.failLogin name reason ipAddress userId).Asks
      (AboutOnly name) := by
  apply Coroutine.Asks.bind asks_recordFailedAttempt
  intro locked
  apply Coroutine.Asks.bind (asks_produceOrLog _)
  intro _
  split <;> exact Coroutine.Asks.raise _

private theorem asks_login (security : Security) (password ipAddress : String)
    (userAgent : Option String) :
    (AuthService.login security name password ipAddress userAgent).Asks
      (AboutOnly name) := by
  apply Coroutine.Asks.bind
  · exact Coroutine.Asks.call (.inl rfl)
  intro locked
  split
  · exact Coroutine.Asks.raise _
  apply Coroutine.Asks.bind
  · exact Coroutine.Asks.call (.inl rfl)
  intro found
  cases found with
  | none =>
      apply Coroutine.Asks.bind
      · exact Coroutine.Asks.call (.inl rfl)
      intro _
      exact asks_failLogin _ _ _
  | some user =>
      apply Coroutine.Asks.bind
      · exact Coroutine.Asks.call (.inl rfl)
      intro right
      split
      · exact asks_failLogin _ _ _
      split
      · exact Coroutine.Asks.raise _
      apply Coroutine.Asks.bind
      · exact Coroutine.Asks.call (.inl rfl)
      intro _
      apply Coroutine.Asks.bind
      · exact Coroutine.Asks.call (.inr rfl)
      intro effective
      apply Coroutine.Asks.bind
      · exact Coroutine.Asks.call (.inr rfl)
      intro now
      apply Coroutine.Asks.bind
      · exact Coroutine.Asks.call (.inr rfl)
      intro nonce
      apply Coroutine.Asks.bind (asks_produceOrLog _)
      intro _
      exact Coroutine.Asks.pure _

/-- A request about another username stays out of this one. -/
theorem follows_other {α : Type} {coroutine : LoginProgram α}
    (different : name ≠ username) (asks : coroutine.Asks (AboutOnly name)) :
    (stages settings username).Follows coroutine
      (fun _ stage => stage = .other) .other := by
  have steps : ∀ command stage, AboutOnly name command → stage = .other →
      (stages settings username).awaits stage command ∧
        ∀ reply, (stages settings username).answers stage command reply →
          (stages settings username).after stage command reply = .other := by
    rintro command stage only rfl
    have apart : about command ≠ some username := by
      rcases only with same | neutral
      · rw [same]
        exact fun same => different (Option.some.inj same)
      · rw [neutral]
        exact nofun
    refine ⟨⟨nofun, fun same => absurd same apart⟩, fun reply _ => ?_⟩
    simp only [stages, Stage.after, if_neg apart]
    split <;> rfl
  have stands : ∀ stage, stage = .other →
      (stages settings username).loops stage := by
    rintro stage rfl
    exact nofun
  exact Typestate.follows_asks steps stands asks rfl

/-- A command that is about no username may be awaited before the end. -/
theorem awaits_neutral {stage : Stage} {command : LoginCommand}
    (neutral : about command = none) (before : stage ≠ .won) :
    (stages settings username).awaits stage command := by
  refine ⟨before, fun same => ?_⟩
  rw [neutral] at same
  cases same

/-- A command about the username is awaited in its stages. -/
theorem awaits_about {stage : Stage} {command : LoginCommand}
    (before : stage ≠ .won) (may : MayAwait settings stage command) :
    (stages settings username).awaits stage command :=
  ⟨before, fun _ => may⟩

/-- A publication changes nothing for a login that has not won, and ends one
that has. -/
theorem follows_produceOrLog (event : AuthEvent) {stage : Stage}
    (before : stage ≠ .won)
    {post : Except PyException Unit → Stage → Prop}
    (leads : ∀ result there, (stage ≠ .winning → there = stage) →
      (stage = .winning → there.active = false ∧
        (result = .ok () → there = .won)) → post result there) :
    (stages settings username).Follows (AuthService.produceOrLog event) post
      stage := by
  unfold AuthService.produceOrLog
  rw [Typestate.follows_attempt, Typestate.follows_bind]
  apply Typestate.follows_call (awaits_neutral rfl before)
  intro saved answered
  cases saved with
  | error error =>
      simp only [answered error rfl, Bool.false_eq_true, if_false]
      apply leads
      · exact fun different => if_neg different
      · rintro rfl
        exact ⟨rfl, nofun⟩
  | ok _ =>
      apply Typestate.follows_call (awaits_neutral rfl before)
      intro published _
      have ends : ∀ result, post result
          ((stages settings username).after stage (.publish event)
            published) := by
        intro result
        apply leads
        · exact fun different => if_neg different
        · rintro rfl
          exact ⟨rfl, fun _ => rfl⟩
      cases published with
      | ok _ => exact ends _
      | error error =>
          dsimp only
          split
          · exact ends _
          · exact ends _

/-- A failure is counted, and the account locked when it is due. -/
theorem follows_recordFailedAttempt
    {post : Except PyException Bool → Stage → Prop}
    (leads : ∀ locked, post (.ok locked) .past) :
    (stages settings username).Follows
      (LoginLockoutService.recordFailedAttempt username) post .guessed := by
  unfold LoginLockoutService.recordFailedAttempt
  rw [Typestate.follows_bind]
  apply Typestate.follows_call (awaits_neutral rfl (by nofun))
  rintro effective rfl
  dsimp only
  rw [Typestate.follows_bind]
  apply Typestate.follows_call (awaits_about (by nofun) (by exact rfl))
  rintro attempts ⟨count, rfl⟩
  have counted : (stages settings username).after
      ((stages settings username).after .guessed .effectiveSettings
        (.ok settings)) (.incr username) (.ok count) = .counted count := by
    simp [stages, Stage.after, Stage.next, about]
  rw [counted]
  dsimp only
  rw [Typestate.follows_bind]
  apply Typestate.follows_call
    (awaits_about (by nofun) (by exact ⟨⟨count, rfl⟩, rfl⟩))
  rintro expired ⟨_, rfl⟩
  have follows : (stages settings username).after (.counted count)
      (.expire username (settings.lockoutDurationMinutes * 60)) (.ok ()) =
        if settings.maxLoginAttempts ≤ count then .armed else .past := by
    simp [stages, Stage.after, Stage.next, about]
  rw [follows]
  dsimp only
  unfold LoginLockoutService.lockWhenDue
  split
  · rw [Typestate.follows_bind]
    apply Typestate.follows_call
      (awaits_about (by nofun) (by exact ⟨rfl, rfl⟩))
    rintro locked ⟨_, rfl⟩
    have past : (stages settings username).after .armed
        (.lock username (settings.lockoutDurationMinutes * 60)) (.ok ()) =
          .past := by
      simp [stages, Stage.after, Stage.next, about]
    rw [past]
    exact leads true
  · exact leads false

/-- A login that failed does not return. -/
theorem follows_failLogin (reason ipAddress userId : String)
    {post : Except PyException LoginResult → Stage → Prop}
    (leads : ∀ error, post (.error error) .past) :
    (stages settings username).Follows
      (AuthService.failLogin username reason ipAddress userId) post
      .guessed := by
  unfold AuthService.failLogin
  rw [Typestate.follows_bind]
  apply follows_recordFailedAttempt
  intro locked
  dsimp only
  rw [Typestate.follows_bind]
  apply follows_produceOrLog _ (by nofun)
  intro result there same _
  cases same nofun
  cases result with
  | error error => exact leads error
  | ok _ =>
      dsimp only
      split
      · exact leads _
      · exact leads _

/-- A login with the right password wins once its event is published. -/
theorem follows_succeedLogin (user : UserDocument) (ipAddress : String)
    (userAgent : Option String)
    {post : Except PyException LoginResult → Stage → Prop}
    (returns : ∀ value, post (.ok value) .won)
    (raises : ∀ error there, there.active = false →
      post (.error error) there) :
    (stages settings username).Follows
      (AuthService.succeedLogin security username user ipAddress userAgent)
      post .opened := by
  unfold AuthService.succeedLogin LoginLockoutService.clearAttempts
  rw [Typestate.follows_bind]
  apply Typestate.follows_call (awaits_about (by nofun) (by exact .inl rfl))
  rintro cleared ⟨_, rfl⟩
  have winning : (stages settings username).after .opened (.clear username)
      (.ok ()) = .winning := by
    simp [stages, Stage.after, Stage.next, about]
  rw [winning]
  dsimp only
  rw [Typestate.follows_bind]
  apply Typestate.follows_call (awaits_neutral rfl (by nofun))
  rintro effective rfl
  dsimp only
  rw [Typestate.follows_bind]
  apply Typestate.follows_call (awaits_neutral rfl (by nofun))
  rintro now ⟨_, rfl⟩
  dsimp only
  rw [Typestate.follows_bind]
  apply Typestate.follows_call (awaits_neutral rfl (by nofun))
  rintro nonce ⟨_, rfl⟩
  dsimp only
  rw [Typestate.follows_bind]
  apply follows_produceOrLog _ (by nofun)
  intro result there _ ends
  obtain ⟨inactive, won⟩ := ends rfl
  cases result with
  | error error => exact raises error there inactive
  | ok _ =>
      cases won rfl
      exact returns _

/-- The login of an account that is not locked. -/
theorem follows_attemptLogin (password ipAddress : String)
    (userAgent : Option String)
    {post : Except PyException LoginResult → Stage → Prop}
    (returns : ∀ value, post (.ok value) .won)
    (raises : ∀ error there, there.active = false →
      post (.error error) there) :
    (stages settings username).Follows
      (AuthService.attemptLogin security username password ipAddress
        userAgent) post .opened := by
  unfold AuthService.attemptLogin
  rw [Typestate.follows_bind]
  apply Typestate.follows_call (awaits_about (by nofun) (by exact rfl))
  intro found _
  have looked : (stages settings username).after .opened (.getUser username)
      found = match found with
        | .ok _ => .opened
        | .error _ => .past := by
    cases found <;> simp [stages, Stage.after, Stage.next, about]
  rw [looked]
  match found with
  | .error error => exact raises error _ rfl
  | .ok none =>
      dsimp only
      rw [Typestate.follows_bind]
      apply Typestate.follows_call (awaits_about (by nofun) (by exact rfl))
      rintro right ⟨right, rfl⟩
      have guessed : (stages settings username).after .opened
          (.verifyPassword username password none) (.ok right) = .guessed := by
        simp [stages, Stage.after, Stage.next, about]
      rw [guessed]
      exact follows_failLogin _ _ _ fun error => raises error _ rfl
  | .ok (some user) =>
      dsimp only
      rw [Typestate.follows_bind]
      apply Typestate.follows_call (awaits_about (by nofun) (by exact rfl))
      rintro right ⟨right, rfl⟩
      have verified : (stages settings username).after .opened
          (.verifyPassword username password (some user)) (.ok right) =
            if !right then .guessed
            else if user.isActive then .opened else .past := by
        simp [stages, Stage.after, Stage.next, about]
      rw [verified]
      dsimp only
      split
      · exact follows_failLogin _ _ _ fun error => raises error _ rfl
      · cases active : user.isActive with
        | false => exact raises _ _ rfl
        | true => exact follows_succeedLogin user _ _ returns raises

/-- A login goes through its stages. -/
theorem follows_login (password ipAddress : String)
    (userAgent : Option String)
    {post : Except PyException LoginResult → Stage → Prop}
    (returns : ∀ value, post (.ok value) .won)
    (raises : ∀ error there, there.active = false →
      post (.error error) there) :
    (stages settings username).Follows
      (AuthService.login security username password ipAddress userAgent)
      post .idle := by
  unfold AuthService.login LoginLockoutService.checkLocked
  rw [Typestate.follows_bind]
  apply Typestate.follows_call (awaits_about (by nofun) (by exact rfl))
  rintro locked ⟨locked, rfl⟩
  have checked : (stages settings username).after .idle
      (.checkLocked username) (.ok locked) =
        if locked then .past else .opened := by
    simp [stages, Stage.after, Stage.next, about]
  rw [checked]
  dsimp only
  cases locked with
  | true => exact raises _ _ rfl
  | false =>
      exact follows_attemptLogin password ipAddress userAgent returns raises

/-- Every request goes through its stages. -/
theorem follows_run (call : LoginCall) :
    (stages settings username).Follows (call.run security)
      (Ended username call) (Stage.first username call) := by
  cases call with
  | login name password ipAddress userAgent =>
      unfold LoginCall.run
      rw [Typestate.follows_bind]
      by_cases same : name = username
      · subst same
        rw [Stage.first, if_pos rfl]
        apply follows_login
        · exact fun value => ⟨rfl, fun _ _ _ => rfl⟩
        · exact fun error there inactive => ⟨inactive, nofun⟩
      · rw [Stage.first, if_neg same]
        apply Typestate.follows_mono _ (follows_other same
          (asks_login security password ipAddress userAgent))
        rintro result there rfl
        have another : (LoginCall.login name password ipAddress
            userAgent).logsIn ≠ some username :=
          fun its => same (Option.some.inj its)
        cases result with
        | ok value => exact ⟨rfl, fun its => absurd its another⟩
        | error error => exact ⟨rfl, fun its => absurd its another⟩
  | unlockUser name =>
      unfold LoginCall.run LoginLockoutService.unlockUser
        LoginLockoutService.clearAttempts
      rw [Typestate.follows_bind]
      by_cases same : name = username
      · subst same
        rw [Stage.first, if_pos rfl]
        apply Typestate.follows_call
          (awaits_about (by nofun) (by exact .inr rfl))
        rintro cleared ⟨_, rfl⟩
        have stays : (stages settings name).after .unlocking (.clear name)
            (.ok ()) = .unlocking := by
          simp [stages, Stage.after, Stage.next, about]
        rw [stays]
        exact ⟨rfl, nofun⟩
      · rw [Stage.first, if_neg same]
        apply Typestate.follows_mono _ (follows_other same
          (Coroutine.Asks.call (.inl rfl)))
        rintro result there rfl
        cases result <;> exact ⟨rfl, nofun⟩

end Calls

end LoginLockout

end Integr8s
