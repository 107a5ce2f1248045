/-
Module: Integr8s.Domain.Users
Purpose: User accounts, the events of logins, and what a login returns.
Trusted boundary: human-reviewed spec
Main exports: UserDocument, LoginResult, AuthEvent, Security
-/
import Integr8s.Domain.Execution

namespace Integr8s

abbrev Username := String

inductive UserRole where
  | user
  | admin
deriving DecidableEq, Repr

structure UserDocument where
  username : Username
  role : UserRole := .user
  isActive : Bool := true
  userId : UserId
  hashedPassword : String
deriving DecidableEq, Repr

structure LoginResult where
  username : Username
  role : UserRole
  accessToken : String
  csrfToken : String
  sessionTimeoutMinutes : Nat
deriving DecidableEq, Repr

/-- What a login publishes. -/
inductive AuthEvent where
  | authFailed (username : Username) (reason ipAddress : String)
      (userId : String)
  | userLoggedIn (userId : UserId) (ipAddress : String)
      (userAgent : Option String)
deriving DecidableEq, Repr

/-- The hashes and signatures that the security service uses: a password check
against a hash, the hash for unknown usernames, and the tokens, of a user until
an expiry and of a session with a nonce. -/
structure Security where
  verifyPassword : String → String → Bool
  dummyHash : String
  createAccessToken : Username → UserId → Nat → String
  generateCsrfToken : String → String → String

end Integr8s
