/-
Module: Integr8s.Services.Auth
Purpose: The login of a user, the lockout after repeated failures, and the
  admin's unlock.
Trusted boundary: human-reviewed spec
Main exports: LoginLockoutService.recordFailedAttempt,
  LoginLockoutService.clearAttempts, AuthService.login, LoginCall
-/
import Integr8s.Infrastructure.LoginStore

namespace Integr8s

namespace LoginLockoutService

def checkLocked (username : Username) : LoginProgram Bool :=
  askLogin (.checkLocked username)

/-- Lock the account when it has failed often enough; the answer says whether
it is locked now. -/
def lockWhenDue (username : Username) (attempts maxAttempts ttl : Nat) :
    LoginProgram Bool := do
  if maxAttempts ≤ attempts then do
    askLogin (.lock username ttl)
    pure true
  else pure false

/-- Record a failed login attempt; true when the account is now locked. -/
def recordFailedAttempt (username : Username) : LoginProgram Bool := do
  let effective ← askLogin .effectiveSettings
  let ttl := effective.lockoutDurationMinutes * 60
  let attempts ← askLogin (.incr username)
  askLogin (.expire username ttl)
  lockWhenDue username attempts effective.maxLoginAttempts ttl

def clearAttempts (username : Username) : LoginProgram Unit :=
  askLogin (.clear username)

def unlockUser (username : Username) : LoginProgram Unit :=
  clearAttempts username

end LoginLockoutService

namespace AuthService

open LoginLockoutService

/-- Store the event, then publish it, logging a Kafka error instead of raising
it. -/
def produceOrLog (event : AuthEvent) : LoginProgram Unit := do
  let produce : LoginProgram Unit := do
    askLogin (.storeEvent event)
    askLogin (.publish event)
  produce.attempt fun error =>
    if error.isPublishError then pure () else Coroutine.raise error

def failLogin (username : Username) (reason ipAddress : String)
    (userId : String) : LoginProgram LoginResult := do
  let locked ← recordFailedAttempt username
  produceOrLog (.authFailed username reason ipAddress userId)
  if locked then
    Coroutine.raise (.accountLockedError
      "Account locked due to too many failed attempts")
  else Coroutine.raise .invalidCredentialsError

/-- The right password of an active account. -/
def succeedLogin (security : Security) (username : Username)
    (user : UserDocument) (ipAddress : String) (userAgent : Option String) :
    LoginProgram LoginResult := do
  clearAttempts username
  let effective ← askLogin .effectiveSettings
  let sessionTimeout := effective.sessionTimeoutMinutes
  let now ← askLogin .now
  let accessToken := security.createAccessToken user.username user.userId
    (now + seconds (sessionTimeout * 60))
  let nonce ← askLogin .nonce
  let csrfToken := security.generateCsrfToken nonce accessToken
  produceOrLog (.userLoggedIn user.userId ipAddress userAgent)
  pure
    { username := user.username
      role := user.role
      accessToken := accessToken
      csrfToken := csrfToken
      sessionTimeoutMinutes := sessionTimeout }

/-- A login of an account that is not locked. -/
def attemptLogin (security : Security) (username : Username)
    (password ipAddress : String) (userAgent : Option String) :
    LoginProgram LoginResult := do
  match ← askLogin (.getUser username) with
  | none => do
      let _ ← askLogin (.verifyPassword username password none)
      failLogin username "user_not_found" ipAddress ""
  | some user => do
      let right ← askLogin (.verifyPassword username password (some user))
      if !right then
        failLogin username "invalid_password" ipAddress user.userId
      else if !user.isActive then
        Coroutine.raise (.accountDeactivatedError username)
      else succeedLogin security username user ipAddress userAgent

def login (security : Security) (username : Username)
    (password ipAddress : String) (userAgent : Option String) :
    LoginProgram LoginResult := do
  let locked ← checkLocked username
  if locked then
    Coroutine.raise (.accountLockedError
      "Account temporarily locked due to too many failed attempts")
  else attemptLogin security username password ipAddress userAgent

end AuthService

/-- A request about a username: a login or an admin's unlock. -/
inductive LoginCall where
  | login (username : Username) (password ipAddress : String)
      (userAgent : Option String)
  | unlockUser (username : Username)

/-- The username of a login. -/
def LoginCall.logsIn : LoginCall → Option Username
  | login username .. => some username
  | unlockUser _ => none

def LoginCall.run (security : Security) :
    LoginCall → LoginProgram (Option LoginResult)
  | login username password ipAddress userAgent => do
      let result ← AuthService.login security username password ipAddress
        userAgent
      pure (some result)
  | unlockUser username => do
      LoginLockoutService.unlockUser username
      pure none

/-- Any number of requests over a store. -/
def LoginCall.start (security : Security) (store : LoginStore)
    (calls : Caller → LoginCall) : Logins where
  shared := store
  running caller := some ((calls caller).run security)

end Integr8s
