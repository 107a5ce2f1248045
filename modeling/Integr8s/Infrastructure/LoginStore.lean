/-
Module: Integr8s.Infrastructure.LoginStore
Purpose: The users and the lockout keys, the commands that logins await, and
  how a command may go.
Trusted boundary: human-reviewed spec
Main exports: LoginStore, LoginCommand, LoginStore.effect, loginBackend,
  LoginProgram
-/
import Integr8s.Domain.Settings
import Integr8s.Domain.Users
import Integr8s.Infrastructure.Outcomes
import Integr8s.Lib.Collection
import Integr8s.Lib.ExpiringStore

namespace Integr8s

/-- A counter, which lasts until its expiry when it has one. -/
structure AttemptCounter where
  count : Nat
  expiresAt : Option Nat := none
deriving DecidableEq, Repr

/-- The users, the settings and the lockout keys.  The clock counts
microseconds.  Besides, what no command reads: how many wrong passwords were
compared for a username since its last success, unlock or end of a lock, and
since its counter of failures was gone, if that was later. -/
structure LoginStore where
  clock : Nat := 0
  settings : SystemSettings := {}
  users : Collection Username UserDocument := fun _ => none
  attempts : Username → Option AttemptCounter := fun _ => none
  locked : ExpiringStore Username Unit := fun _ => none
  guesses : Username → Nat := fun _ => 0
  recentGuesses : Username → Nat := fun _ => 0

/-- What a login does in one go.  A password is verified without an await, for
the user that was found or against the dummy hash. -/
inductive LoginCommand where
  | now
  | nonce
  | effectiveSettings
  | checkLocked (username : Username)
  | getUser (username : Username)
  | verifyPassword (username : Username) (password : String)
      (user : Option UserDocument)
  | incr (username : Username)
  | expire (username : Username) (ttl : Nat)
  | lock (username : Username) (ttl : Nat)
  | clear (username : Username)
  | storeEvent (event : AuthEvent)
  | publish (event : AuthEvent)

abbrev LoginReply : LoginCommand → Type
  | .now => Nat
  | .nonce => String
  | .effectiveSettings => SystemSettings
  | .checkLocked _ => Bool
  | .getUser _ => Option UserDocument
  | .verifyPassword .. => Bool
  | .incr _ => Nat
  | .expire .. => Unit
  | .lock .. => Unit
  | .clear _ => Unit
  | .storeEvent _ => Unit
  | .publish _ => Unit

/-- The database and the broker may fail; the in-memory store of the lockout
works.  Only the broker raises the errors of a failed publication. -/
def LoginCommand.mayRaise : LoginCommand → PyException → Bool
  | .getUser _, error | .storeEvent _, error => !error.isPublishError
  | .publish _, _ => true
  | _, _ => false

namespace LoginStore

/-- The counter that a reader finds. -/
def counter (store : LoginStore) (username : Username) :
    Option AttemptCounter :=
  (store.attempts username).filter fun counter =>
    match counter.expiresAt with
    | none => true
    | some expiresAt => decide (store.clock ≤ expiresAt)

/-- How many failures are counted. -/
def count (store : LoginStore) (username : Username) : Nat :=
  match store.counter username with
  | none => 0
  | some counter => counter.count

/-- Whether the account is locked. -/
def isLocked (store : LoginStore) (username : Username) : Bool :=
  (store.locked.live store.clock username).isSome

/-- `INCR`: a key that is not there counts from zero and has no expiry. -/
def incr (store : LoginStore) (username : Username) : Nat × LoginStore :=
  let counter : AttemptCounter :=
    match store.counter username with
    | none => { count := 1 }
    | some counter => { counter with count := counter.count + 1 }
  (counter.count,
    { store with
      attempts := Function.update store.attempts username (some counter) })

/-- `EXPIRE`, for a key that is there. -/
def expire (store : LoginStore) (username : Username) (ttl : Nat) :
    LoginStore :=
  match store.counter username with
  | none => store
  | some counter =>
      { store with
        attempts := Function.update store.attempts username
          (some { counter with
            expiresAt := some (store.clock + seconds ttl) }) }

/-- `SET` with a lifetime. -/
def lock (store : LoginStore) (username : Username) (ttl : Nat) :
    LoginStore :=
  { store with
    locked := store.locked.set store.clock username () (seconds ttl) }

/-- `DEL` of both keys. -/
def clear (store : LoginStore) (username : Username) : LoginStore :=
  { store with
    attempts := Function.update store.attempts username none
    locked := (store.locked.delete store.clock username).2
    guesses := Function.update store.guesses username 0
    recentGuesses := Function.update store.recentGuesses username 0 }

/-- The store after a wrong password was compared. -/
def noteGuess (store : LoginStore) (username : Username) : LoginStore :=
  { store with
    guesses := Function.update store.guesses username
      (store.guesses username + 1)
    recentGuesses := Function.update store.recentGuesses username
      (store.recentGuesses username + 1) }

/-- The store after time passed.  What ends with it, a lock or a counter,
starts the count of the guesses anew. -/
def later (store : LoginStore) (duration : Nat) : LoginStore :=
  let after := { store with clock := store.clock + duration }
  let unlocks := fun username =>
    store.isLocked username && !after.isLocked username
  let forgets := fun username =>
    (store.counter username).isSome && (after.counter username).isNone
  { after with
    guesses := fun username =>
      if unlocks username then 0 else store.guesses username
    recentGuesses := fun username =>
      if unlocks username || forgets username then 0
      else store.recentGuesses username }

/-- A command that goes through. -/
def effect (security : Security) (fresh : String) (store : LoginStore) :
    (command : LoginCommand) → LoginReply command × LoginStore
  | .now => (store.clock, store)
  | .nonce => (fresh, store)
  | .effectiveSettings => (store.settings, store)
  | .checkLocked username => (store.isLocked username, store)
  | .getUser username => (store.users username, store)
  | .verifyPassword username password user =>
      let hash := match user with
        | none => security.dummyHash
        | some user => user.hashedPassword
      if security.verifyPassword password hash then (true, store)
      else (false, store.noteGuess username)
  | .incr username => store.incr username
  | .expire username ttl => ((), store.expire username ttl)
  | .lock username ttl => ((), store.lock username ttl)
  | .clear username => ((), store.clear username)
  | .storeEvent _ => ((), store)
  | .publish _ => ((), store)

end LoginStore

/-- What the environment decides when a command runs. -/
structure LoginChoice where
  outcome : Outcome := .succeeds
  fresh : String := ""

/-- Time passes, or an account changes. -/
inductive LoginEvent where
  | tick (duration : Nat)
  | setUser (username : Username) (user : Option UserDocument)

/-- The logins and unlocks under fixed settings.  No request is cancelled. -/
def loginBackend (security : Security) : System Caller LoginStore LoginCommand
    LoginReply PyException LoginChoice LoginEvent where
  perform _ store command choice :=
    let (answer, next) := store.effect security choice.fresh command
    choice.outcome.perform command.mayRaise store (.ok answer, next)
  environment
    | store, .tick duration => some (store.later duration)
    | store, .setUser username user =>
        some { store with
          users := Function.update store.users username user }
  kill _ _ := none

/-- A coroutine of the login service. -/
abbrev LoginProgram (α : Type) : Type 1 :=
  Coroutine LoginCommand LoginReply PyException α

/-- Await a command of the login service. -/
abbrev askLogin (command : LoginCommand) : LoginProgram (LoginReply command) :=
  Coroutine.call command

/-- The state of a run: the store and the requests. -/
abbrev Logins := Callers Caller LoginStore LoginCommand LoginReply PyException
  (Option LoginResult)

end Integr8s
