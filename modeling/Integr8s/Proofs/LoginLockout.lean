/-
Module: Integr8s.Proofs.LoginLockout
Purpose: The lockout of logins when the logins of a username do not overlap:
  the wrong passwords that are compared before the account is locked are
  bounded, and no login succeeds while the lock lasts.
Trusted boundary: none
Main exports: LoginLockout.lockout_bounds, LoginLockout.lockout_evaded
-/
import Integr8s.Proofs.LoginStages

namespace Integr8s

namespace LoginLockout

open LoginCall (start)

/-! ### What the keys count -/

section Counting

variable {settings : SystemSettings} {username : Username}
  {store next : LoginStore} {stage after : Stage}

/-- The counter lasts no longer than the stored lock. -/
def Outlasted (username : Username) (store : LoginStore)
    (counter : AttemptCounter) : Prop :=
  ∃ expiresAt entry, counter.expiresAt = some expiresAt ∧
    store.locked username = some entry ∧ expiresAt ≤ entry.expiresAt

/-- What holds of the keys of a username while a login of it is in a stage:
the count never exceeds the limit, every guess is counted but one that was just
made, and a full counter goes with a lock that lasts as long, or with a login
that is about to lock. -/
structure Sound (settings : SystemSettings) (username : Username)
    (store : LoginStore) (stage : Stage) : Prop where
  fixed : store.settings = settings
  few : store.count username ≤ settings.maxLoginAttempts
  room : stage = .opened ∨ stage = .guessed →
    store.count username < settings.maxLoginAttempts
  pending : ∀ attempts, stage = .counted attempts →
    store.count username ≤ attempts
  known : store.recentGuesses username ≤
    store.count username + if stage = .guessed then 1 else 0
  soon : ∀ counter expiresAt, store.counter username = some counter →
    counter.expiresAt = some expiresAt →
      expiresAt ≤ store.clock + seconds (lockoutSeconds settings)
  full : ∀ counter, store.counter username = some counter →
    settings.maxLoginAttempts ≤ counter.count →
      Outlasted username store counter ∨
        (∃ attempts, stage = .counted attempts) ∨
        (stage = .armed ∧ ∃ expiresAt, counter.expiresAt = some expiresAt)

/-- A store with the same keys of this username. -/
structure Alike (username : Username) (store next : LoginStore) : Prop where
  clock : next.clock = store.clock
  settings : next.settings = store.settings
  attempts : next.attempts username = store.attempts username
  locked : next.locked username = store.locked username
  recent : next.recentGuesses username = store.recentGuesses username

theorem Alike.counter (alike : Alike username store next) :
    next.counter username = store.counter username := by
  simp only [LoginStore.counter, alike.attempts, alike.clock]

theorem Alike.count (alike : Alike username store next) :
    next.count username = store.count username := by
  simp only [LoginStore.count, alike.counter]

theorem Sound.alike (sound : Sound settings username store stage)
    (alike : Alike username store next) :
    Sound settings username next stage where
  fixed := alike.settings.trans sound.fixed
  few := alike.count ▸ sound.few
  room := alike.count ▸ sound.room
  pending := alike.count ▸ sound.pending
  known := by
    rw [alike.count, alike.recent]
    exact sound.known
  soon := by
    rw [alike.counter, alike.clock]
    exact sound.soon
  full := by
    rw [alike.counter]
    intro counter counts enough
    rcases sound.full counter counts enough with
      ⟨expiresAt, entry, expires, stored, low⟩ | rest
    · exact .inl ⟨expiresAt, entry, expires, alike.locked.trans stored, low⟩
    · exact .inr rest

private theorem count_of_counter {counter : AttemptCounter}
    (counts : store.counter username = some counter) :
    store.count username = counter.count := by
  simp [LoginStore.count, counts]

/-- A stage in which nothing is owed. -/
def Stage.calm : Stage → Bool
  | .guessed | .counted _ | .armed => false
  | _ => true

/-- A login that owes nothing may go anywhere but where there must be room. -/
theorem Sound.settle (sound : Sound settings username store stage)
    (calm : stage.calm = true) (ends : after.calm = true)
    (room : after = .opened →
      store.count username < settings.maxLoginAttempts) :
    Sound settings username store after where
  fixed := sound.fixed
  few := sound.few
  room := by
    rintro (opened | rfl)
    · exact room opened
    · cases ends
  pending := by
    rintro attempts rfl
    cases ends
  known := by
    have known := sound.known
    have before : stage ≠ .guessed := by
      rintro rfl
      cases calm
    have later : after ≠ .guessed := by
      rintro rfl
      cases ends
    simpa [before, later] using known
  soon := sound.soon
  full := by
    intro counter counts enough
    rcases sound.full counter counts enough with
      outlasted | ⟨attempts, rfl⟩ | ⟨rfl, -⟩
    · exact .inl outlasted
    · cases calm
    · cases calm

/-- A login that owes nothing may end. -/
theorem Sound.quiet (sound : Sound settings username store stage)
    (calm : stage.calm = true) (ends : after.calm = true)
    (closed : after ≠ .opened) : Sound settings username store after :=
  sound.settle calm ends fun opened => absurd opened closed

private theorem counter_eq_some {counter : AttemptCounter} :
    store.counter username = some counter ↔
      store.attempts username = some counter ∧
        ∀ expiresAt, counter.expiresAt = some expiresAt →
          store.clock ≤ expiresAt := by
  unfold LoginStore.counter
  rw [Option.filter_eq_some_iff]
  cases counter.expiresAt <;> simp

private theorem locked_of_entry {entry : Expiring Unit}
    (stored : store.locked username = some entry)
    (lasts : store.clock ≤ entry.expiresAt) :
    store.isLocked username = true := by
  have live := ExpiringStore.live_eq_some.mpr ⟨stored, lasts⟩
  simp [LoginStore.isLocked, live]

/-- No login is admitted while the counter is full and nobody is about to
lock. -/
theorem Sound.admits (sound : Sound settings username store stage)
    (positive : 0 < settings.maxLoginAttempts) (calm : stage.calm = true)
    (admits : store.isLocked username = false) :
    store.count username < settings.maxLoginAttempts := by
  cases found : store.counter username with
  | none => simpa [LoginStore.count, found] using positive
  | some counter =>
      rw [count_of_counter found]
      by_contra enough
      rcases sound.full counter found (Nat.le_of_not_lt enough) with
        ⟨expiresAt, entry, expires, stored, low⟩ | ⟨attempts, rfl⟩ | ⟨rfl, -⟩
      · have lasts := (counter_eq_some.mp found).2 expiresAt expires
        rw [locked_of_entry stored (Nat.le_trans lasts low)] at admits
        cases admits
      · cases calm
      · cases calm

/-- A login was admitted: there is room for one more failure. -/
theorem Sound.check (sound : Sound settings username store stage)
    (positive : 0 < settings.maxLoginAttempts) (calm : stage.calm = true) :
    Sound settings username store
      (if store.isLocked username then .past else .opened) := by
  cases locked : store.isLocked username with
  | true => exact sound.quiet calm rfl (by simp)
  | false =>
      exact sound.settle calm rfl fun _ => sound.admits positive calm locked

private theorem count_noteGuess :
    (store.noteGuess username).count username = store.count username :=
  rfl

/-- A wrong password was compared. -/
theorem Sound.guess (sound : Sound settings username store .opened) :
    Sound settings username (store.noteGuess username) .guessed where
  fixed := sound.fixed
  few := sound.few
  room _ := sound.room (.inl rfl)
  pending := nofun
  known := by
    have known := sound.known
    simp only [reduceCtorEq, if_false] at known
    have guessed : (store.noteGuess username).recentGuesses username =
        store.recentGuesses username + 1 := Function.update_self ..
    rw [if_pos rfl, guessed, count_noteGuess]
    exact Nat.succ_le_succ known
  soon := sound.soon
  full counter counts enough := by
    rcases sound.full counter counts enough with
      outlasted | ⟨attempts, same⟩ | ⟨same, -⟩
    · exact .inl outlasted
    · cases same
    · cases same

/-- A login of a username that is not there fails with any password. -/
theorem Sound.fail (sound : Sound settings username store .opened) :
    Sound settings username store .guessed where
  fixed := sound.fixed
  few := sound.few
  room _ := sound.room (.inl rfl)
  pending := nofun
  known := by
    have known := sound.known
    simp only [reduceCtorEq, if_false] at known
    simp only [if_true]
    omega
  soon := sound.soon
  full counter counts enough := by
    rcases sound.full counter counts enough with
      outlasted | ⟨attempts, same⟩ | ⟨same, -⟩
    · exact .inl outlasted
    · cases same
    · cases same

/-- What the counter is after a failure was counted. -/
theorem counter_incr (store : LoginStore) (username : Username) : ∃ counter,
    (store.incr username).2.counter username = some counter ∧
      (store.incr username).1 = counter.count ∧
      counter.count = store.count username + 1 ∧
      ∀ expiresAt, counter.expiresAt = some expiresAt →
        ∃ before, store.counter username = some before ∧
          before.expiresAt = some expiresAt := by
  cases found : store.counter username with
  | none =>
      refine ⟨{ count := 1 }, ?_, ?_, ?_, nofun⟩
      · rw [counter_eq_some]
        simp [LoginStore.incr, found]
      · simp [LoginStore.incr, found]
      · simp [LoginStore.count, found]
  | some before =>
      refine ⟨{ before with count := before.count + 1 }, ?_, ?_, ?_,
        fun expiresAt expires => ⟨before, rfl, expires⟩⟩
      · rw [counter_eq_some]
        refine ⟨by simp [LoginStore.incr, found], ?_⟩
        exact (counter_eq_some.mp found).2
      · simp [LoginStore.incr, found]
      · simp [LoginStore.count, found]

/-- The failure is counted. -/
theorem Sound.incr (sound : Sound settings username store .guessed) :
    Sound settings username (store.incr username).2
      (.counted (store.incr username).1) := by
  obtain ⟨counter, found, answer, count, old⟩ := counter_incr store username
  have now := count_of_counter found
  have room := sound.room (.inr rfl)
  refine ⟨sound.fixed, ?_, ?_, ?_, ?_, ?_, ?_⟩
  · omega
  · rintro (same | same) <;> cases same
  · rintro attempts same
    cases same
    omega
  · have known := sound.known
    simp only [if_true] at known
    simp only [reduceCtorEq, if_false]
    rw [now, count]
    exact known
  · intro other expiresAt counts expires
    cases found.symm.trans counts
    obtain ⟨before, counted, expired⟩ := old expiresAt expires
    exact sound.soon before expiresAt counted expired
  · intro _ _ _
    exact .inr (.inl ⟨_, rfl⟩)

/-- What the counter is after it got its lifetime. -/
theorem counter_expire (store : LoginStore) (username : Username) {ttl : Nat} :
    (store.expire username ttl).counter username =
      (store.counter username).map fun counter =>
        { counter with expiresAt := some (store.clock + seconds ttl) } := by
  cases found : store.counter username with
  | none => simp [LoginStore.expire, found]
  | some counter =>
      rw [Option.map_some, counter_eq_some]
      simp [LoginStore.expire, found]

/-- The counter gets its lifetime, and the account is to be locked when the
count was full. -/
theorem Sound.expire {attempts : Nat}
    (sound : Sound settings username store (.counted attempts)) :
    Sound settings username
      (store.expire username (lockoutSeconds settings))
      (if settings.maxLoginAttempts ≤ attempts then .armed else .past) := by
  have counters := @counter_expire store username (lockoutSeconds settings)
  have same : (store.expire username (lockoutSeconds settings)).count
      username = store.count username := by
    simp only [LoginStore.count, counters]
    cases store.counter username <;> rfl
  have fixed : (store.expire username (lockoutSeconds settings)).settings =
      store.settings ∧
      (store.expire username (lockoutSeconds settings)).clock = store.clock ∧
      (store.expire username (lockoutSeconds settings)).recentGuesses =
        store.recentGuesses := by
    unfold LoginStore.expire
    split <;> exact ⟨rfl, rfl, rfl⟩
  refine ⟨fixed.1.trans sound.fixed, ?_, ?_, ?_, ?_, ?_, ?_⟩
  · rw [same]
    exact sound.few
  · split <;> rintro (wrong | wrong) <;> cases wrong
  · split <;> nofun
  · have known := sound.known
    have past : (if settings.maxLoginAttempts ≤ attempts then Stage.armed
        else .past) ≠ .guessed := by
      split <;> exact nofun
    rw [fixed.2.2, same, if_neg past]
    exact known
  · intro counter expiresAt counts expires
    rw [counters] at counts
    obtain ⟨before, _, rfl⟩ := Option.map_eq_some_iff.mp counts
    cases expires
    rw [fixed.2.1]
  · intro counter counts enough
    rw [counters] at counts
    obtain ⟨before, counted, rfl⟩ := Option.map_eq_some_iff.mp counts
    have pending := sound.pending attempts rfl
    rw [count_of_counter counted] at pending
    have due : settings.maxLoginAttempts ≤ attempts :=
      Nat.le_trans enough pending
    exact .inr (.inr ⟨if_pos due, _, rfl⟩)

/-- The account is locked, for as long as the counter lasts. -/
theorem Sound.lock (sound : Sound settings username store .armed) :
    Sound settings username (store.lock username (lockoutSeconds settings))
      .past where
  fixed := sound.fixed
  few := sound.few
  room := by
    rintro (same | same) <;> cases same
  pending := nofun
  known := sound.known
  soon := sound.soon
  full counter counts enough := by
    left
    have stored : (store.lock username (lockoutSeconds settings)).locked
        username = some
          ⟨(), store.clock + seconds (lockoutSeconds settings)⟩ :=
      Function.update_self ..
    rcases sound.full counter counts enough with
      ⟨expiresAt, _, expires, _⟩ | ⟨attempts, same⟩ | ⟨_, expiresAt, expires⟩
    · exact ⟨expiresAt, _, expires, stored,
        sound.soon counter expiresAt counts expires⟩
    · cases same
    · exact ⟨expiresAt, _, expires, stored,
        sound.soon counter expiresAt counts expires⟩

/-- After the keys are deleted a request may be anywhere. -/
theorem Sound.clear (positive : 0 < settings.maxLoginAttempts)
    (sound : Sound settings username store stage) :
    Sound settings username (store.clear username) after := by
  have gone : (store.clear username).counter username = none := by
    simp [LoginStore.counter, LoginStore.clear]
  have zero : (store.clear username).count username = 0 := by
    simp [LoginStore.count, gone]
  have recent : (store.clear username).recentGuesses username = 0 :=
    Function.update_self ..
  refine ⟨sound.fixed, ?_, ?_, ?_, ?_, ?_, ?_⟩
  · rw [zero]
    exact Nat.zero_le _
  · intro _
    rw [zero]
    exact positive
  · intro _ _
    rw [zero]
    exact Nat.zero_le _
  · rw [recent]
    exact Nat.zero_le _
  · intro counter _ counts
    cases gone.symm.trans counts
  · intro counter counts
    cases gone.symm.trans counts

/-- A counter that a later reader finds was there before. -/
theorem counter_later {duration : Nat} {counter : AttemptCounter}
    (found : (store.later duration).counter username = some counter) :
    store.counter username = some counter := by
  obtain ⟨stored, lasts⟩ := counter_eq_some.mp found
  have before : store.attempts username = some counter := stored
  refine counter_eq_some.mpr ⟨before, fun expiresAt expires => ?_⟩
  exact Nat.le_trans (Nat.le_add_right ..) (lasts expiresAt expires)

/-- The guesses are forgotten with the counter. -/
theorem recentGuesses_later (store : LoginStore) (username : Username)
    (duration : Nat) :
    (store.later duration).recentGuesses username = 0 ∨
      (store.later duration).recentGuesses username =
          store.recentGuesses username ∧
        (store.later duration).count username = store.count username := by
  have recent : (store.later duration).recentGuesses username =
      if store.isLocked username && !(store.later duration).isLocked username
          || (store.counter username).isSome &&
            ((store.later duration).counter username).isNone then 0
        else store.recentGuesses username := rfl
  split at recent
  · exact .inl recent
  · next forgets =>
      refine .inr ⟨recent, ?_⟩
      cases found : (store.later duration).counter username with
      | some counter =>
          rw [count_of_counter found, count_of_counter (counter_later found)]
      | none =>
          cases before : store.counter username with
          | none => simp [LoginStore.count, found, before]
          | some counter => simp [found, before] at forgets

/-- Time passes. -/
theorem Sound.later {duration : Nat}
    (sound : Sound settings username store stage) :
    Sound settings username (store.later duration) stage := by
  have fewer : (store.later duration).count username ≤
      store.count username := by
    cases found : (store.later duration).counter username with
    | none => simp [LoginStore.count, found]
    | some counter =>
        rw [count_of_counter found, count_of_counter (counter_later found)]
  refine ⟨sound.fixed, ?_, ?_, ?_, ?_, ?_, ?_⟩
  · exact Nat.le_trans fewer sound.few
  · exact fun before => Nat.lt_of_le_of_lt fewer (sound.room before)
  · exact fun attempts same =>
      Nat.le_trans fewer (sound.pending attempts same)
  · have known := sound.known
    rcases recentGuesses_later store username duration with
      forgotten | ⟨recent, same⟩
    · rw [forgotten]
      exact Nat.zero_le _
    · rw [recent, same]
      exact known
  · intro counter expiresAt counts expires
    have soon := sound.soon counter expiresAt (counter_later counts) expires
    simp only [LoginStore.later]
    omega
  · intro counter counts enough
    exact sound.full counter (counter_later counts) enough

end Counting

/-! ### What a command does to a login -/

section Steps

variable {settings : SystemSettings} {username : Username}
  {security : Security} {calls : Caller → LoginCall}
  {store next : LoginStore} {here : Stage} {command : LoginCommand}
  {reply : Except PyException (LoginReply command)} {caller : Caller}
  {choice : LoginChoice}

/-- A command goes through, or raises and changes nothing. -/
theorem perform_cases (performed : (loginBackend security).perform caller
      store command choice = some (reply, next)) :
    (reply = .ok (store.effect security choice.fresh command).1 ∧
      next = (store.effect security choice.fresh command).2) ∨
    ∃ error, reply = .error error ∧ command.mayRaise error = true ∧
      next = store := by
  rcases Outcome.perform_cases performed with
    ⟨-, went⟩ | ⟨error, rfl, may, ⟨-, rfl⟩ | ⟨-, rfl⟩⟩
  · cases went
    exact .inl ⟨rfl, rfl⟩
  · exact .inr ⟨error, rfl, may, rfl⟩
  · refine .inr ⟨error, rfl, may, ?_⟩
    cases command <;> first | rfl | cases may

/-- The answers of the login service's backends. -/
theorem answered (fixed : store.settings = settings)
    (performed : (loginBackend security).perform caller store command
      choice = some (reply, next)) :
    (stages settings username).answers here command reply := by
  rcases perform_cases performed with
    ⟨rfl, -⟩ | ⟨error, rfl, may, -⟩
  · cases command with
    | effectiveSettings => exact congrArg Except.ok fixed
    | storeEvent event => exact nofun
    | getUser | publish => trivial
    | _ => exact ⟨_, rfl⟩
  · cases command with
    | storeEvent event =>
        rintro _ ⟨⟩
        simpa [LoginCommand.mayRaise] using may
    | getUser | publish => trivial
    | _ => cases may

/-- A password is right, or its guess is noted. -/
theorem effect_verifyPassword (security : Security) (store : LoginStore)
    (fresh : String) (name : Username) (password : String)
    (user : Option UserDocument) :
    store.effect security fresh (.verifyPassword name password user) =
        (true, store) ∨
      store.effect security fresh (.verifyPassword name password user) =
        (false, store.noteGuess name) := by
  simp only [LoginStore.effect]
  generalize security.verifyPassword password _ = right
  cases right with
  | true => exact .inl rfl
  | false => exact .inr rfl

/-- A command about nothing or about another username leaves the keys of this
one alone. -/
theorem effect_alike {fresh : String}
    (apart : about command ≠ some username) :
    Alike username store (store.effect security fresh command).2 := by
  have other : ∀ name, about command = some name → username ≠ name := by
    rintro name same rfl
    exact apart same
  cases command with
  | verifyPassword name password user =>
      rcases effect_verifyPassword security store fresh name password user
        with right | wrong
      · rw [right]
        exact ⟨rfl, rfl, rfl, rfl, rfl⟩
      · rw [wrong]
        exact ⟨rfl, rfl, rfl, rfl, Function.update_of_ne (other name rfl) ..⟩
  | incr name =>
      exact ⟨rfl, rfl, Function.update_of_ne (other name rfl) .., rfl, rfl⟩
  | expire name ttl =>
      simp only [LoginStore.effect, LoginStore.expire]
      split
      · exact ⟨rfl, rfl, rfl, rfl, rfl⟩
      · exact ⟨rfl, rfl, Function.update_of_ne (other name rfl) .., rfl, rfl⟩
  | lock name ttl =>
      exact ⟨rfl, rfl, rfl, Function.update_of_ne (other name rfl) .., rfl⟩
  | clear name =>
      have different := other name rfl
      exact ⟨rfl, rfl, Function.update_of_ne different ..,
        Function.update_of_ne different .., Function.update_of_ne different ..⟩
  | _ => exact ⟨rfl, rfl, rfl, rfl, rfl⟩

/-- So whether it goes through or raises. -/
theorem next_alike (apart : about command ≠ some username)
    (performed : (loginBackend security).perform caller store command
      choice = some (reply, next)) :
    Alike username store next := by
  rcases perform_cases performed with ⟨-, rfl⟩ | ⟨error, -, -, rfl⟩
  · exact effect_alike apart
  · exact ⟨rfl, rfl, rfl, rfl, rfl⟩

/-- Such a command changes the stage of a login that returns only. -/
theorem after_apart (settings : SystemSettings) (here : Stage)
    (apart : about command ≠ some username)
    (reply : Except PyException (LoginReply command)) :
    (stages settings username).after here command reply = here ∨
      here = .winning ∧
        ((stages settings username).after here command reply = .past ∨
          (stages settings username).after here command reply = .won) := by
  by_cases returns : here = .winning
  · subst returns
    simp only [stages, Stage.after, if_neg apart]
    split <;> simp
  · simp only [stages, Stage.after, if_neg apart]
    split <;> simp [returns]

/-- A command of a login that is under way takes it on and keeps the keys
sound. -/
theorem Sound.perform (limits : settings.LoginLimits)
    (active : here.active = true)
    (awaits : (stages settings username).awaits here command)
    (performed : (loginBackend security).perform caller store command
      choice = some (reply, next))
    (sound : Sound settings username store here) :
    Sound settings username next
      ((stages settings username).after here command reply) := by
  have positive : 0 < settings.maxLoginAttempts :=
    Nat.lt_of_lt_of_le (by decide) limits.attempts.1
  by_cases its : about command = some username
  · have may := awaits.2 its
    simp only [stages, Stage.after, if_pos its]
    rcases perform_cases performed with
      ⟨rfl, rfl⟩ | ⟨error, rfl, raises, rfl⟩
    · cases command with
      | checkLocked name =>
          cases may
          cases active
      | getUser name =>
          cases may
          exact sound
      | verifyPassword name password user =>
          cases Option.some.inj its
          cases may
          rcases effect_verifyPassword security store choice.fresh username
            password user with right | wrong
          · rw [right]
            cases user with
            | none => exact sound.fail
            | some user =>
                cases isActive : user.isActive with
                | true => simpa [Stage.next, isActive] using sound
                | false =>
                    have past : Sound settings username store .past :=
                      sound.quiet rfl rfl (by simp)
                    simpa [Stage.next, isActive] using past
          · rw [wrong]
            cases user <;> exact sound.guess
      | incr name =>
          cases Option.some.inj its
          cases may
          exact sound.incr
      | expire name ttl =>
          cases Option.some.inj its
          obtain ⟨⟨attempts, rfl⟩, rfl⟩ := may
          exact sound.expire
      | lock name ttl =>
          cases Option.some.inj its
          obtain ⟨rfl, rfl⟩ := may
          exact sound.lock
      | clear name =>
          cases Option.some.inj its
          exact sound.clear positive
      | _ => cases its
    · cases command with
      | getUser name =>
          cases may
          have past : Sound settings username next .past :=
            sound.quiet rfl rfl (by simp)
          exact past
      | storeEvent | publish => cases its
      | _ => cases raises
  · have kept := sound.alike (next_alike its performed)
    rcases after_apart settings here its reply with
      same | ⟨rfl, past | won⟩
    · rw [same]
      exact kept
    · rw [past]
      exact kept.quiet rfl rfl (by simp)
    · rw [won]
      exact kept.quiet rfl rfl (by simp)

end Steps

/-! ### One login at a time

While no login of the username checks its lock during another one, at most one
of them is between its check and its last write.  The counts of the keys then
tell how many guesses were compared. -/

section Runs

variable {settings : SystemSettings} {username : Username}
  {security : Security} {calls : Caller → LoginCall}
  {store : LoginStore} {locals : Caller → Stage}

/-- Which request may be in a stage. -/
def Stage.Of (username : Username) (call : LoginCall) : Stage → Prop
  | .other => True
  | .unlocking => call = .unlockUser username
  | _ => call.logsIn = some username

/-- A request stays in the stages of its kind. -/
theorem Stage.Of.after {call : LoginCall} {here : Stage}
    {command : LoginCommand} (its : here.Of username call)
    (awaits : (stages settings username).awaits here command)
    (reply : Except PyException (LoginReply command)) :
    ((stages settings username).after here command reply).Of username
      call := by
  by_cases same : about command = some username
  · have may := awaits.2 same
    simp only [stages, Stage.after, if_pos same]
    cases command with
    | checkLocked name =>
        cases may
        cases reply with
        | error _ => exact its
        | ok locked => cases locked <;> exact its
    | getUser name =>
        cases may
        cases reply <;> exact its
    | verifyPassword name password user =>
        cases may
        cases reply with
        | error _ => cases user <;> exact its
        | ok right =>
            cases user with
            | none => exact its
            | some user =>
                simp only [Stage.next]
                split
                · exact its
                split <;> exact its
    | incr name =>
        cases may
        cases reply <;> exact its
    | expire name ttl =>
        obtain ⟨⟨attempts, rfl⟩, rfl⟩ := may
        cases reply with
        | error _ => exact its
        | ok _ =>
            simp only [Stage.next]
            split <;> exact its
    | lock name ttl =>
        obtain ⟨rfl, rfl⟩ := may
        cases reply <;> exact its
    | clear name =>
        rcases may with rfl | rfl
        · cases reply <;> exact its
        · cases reply <;> exact its
    | _ => cases same
  · rcases after_apart settings here same reply with
      stays | ⟨rfl, past | won⟩
    · rw [stays]
      exact its
    · rw [past]
      exact its
    · rw [won]
      exact its

/-- So does everyone after a caller's command. -/
theorem Stage.Of.update {caller : Caller} {command : LoginCommand}
    (mine : ∀ caller, (locals caller).Of username (calls caller))
    (awaits : (stages settings username).awaits (locals caller) command)
    (reply : Except PyException (LoginReply command)) (other : Caller) :
    (Function.update locals caller
      ((stages settings username).after (locals caller) command reply)
        other).Of username (calls other) := by
  by_cases same : other = caller
  · subst same
    rw [Function.update_self]
    exact (mine other).after awaits reply
  · rw [Function.update_of_ne same]
    exact mine other

/-- Who is not under way awaits a check or the deletion of an unlock, if
anything about the username. -/
theorem inactive_awaits {here : Stage} {command : LoginCommand}
    (its : about command = some username) (inactive : here.active = false)
    (awaits : (stages settings username).awaits here command) :
    (here = .idle ∧ command = .checkLocked username) ∨
      (here = .unlocking ∧ command = .clear username) := by
  have may := awaits.2 its
  cases command with
  | checkLocked name =>
      cases Option.some.inj its
      exact .inl ⟨may, rfl⟩
  | clear name =>
      cases Option.some.inj its
      rcases may with rfl | rfl
      · cases inactive
      · exact .inr ⟨rfl, rfl⟩
  | expire name ttl =>
      obtain ⟨⟨attempts, rfl⟩, -⟩ := may
      cases inactive
  | lock name ttl =>
      obtain ⟨rfl, -⟩ := may
      cases inactive
  | getUser | verifyPassword | incr =>
      cases may
      cases inactive
  | _ => cases its

/-- At most one login of the username is under way, and the keys are sound in
its stage. -/
structure Bounded (settings : SystemSettings) (username : Username)
    (calls : Caller → LoginCall) (store : LoginStore)
    (locals : Caller → Stage) : Prop where
  mine : ∀ caller, (locals caller).Of username (calls caller)
  alone : ∃ lead : Option Caller,
    (∀ caller, (locals caller).active = true → lead = some caller) ∧
      Sound settings username store (lead.elim .idle locals)

/-- No login of a username begins its check while another one is under way:
the others have ended or are about to check too. -/
def OneAtATime (calls : Caller → LoginCall) (username : Username)
    (state : Logins) (move : Move Caller LoginChoice LoginEvent) : Prop :=
  ∀ caller choice, move = .caller caller choice →
    state.awaited caller = some (.checkLocked username) →
      ∀ other, other ≠ caller → (calls other).logsIn = some username →
        state.awaited other = some (.checkLocked username) ∨
          ∃ result, state.running other = some (.done result)

/-- When nobody is under way the keys are sound for the next check. -/
theorem Bounded.idle (bounded : Bounded settings username calls store locals)
    (nobody : ∀ caller, (locals caller).active = false) :
    Sound settings username store .idle := by
  obtain ⟨lead, -, sound⟩ := bounded.alone
  refine sound.quiet ?_ rfl (by simp)
  cases lead with
  | none => rfl
  | some caller =>
      have inactive := nobody caller
      simp only [Option.elim]
      cases stage : locals caller <;> simp_all [Stage.active, Stage.calm]

/-- A caller about to check finds nobody under way. -/
theorem OneAtATime.nobody {state : Logins} {caller : Caller}
    {choice : LoginChoice}
    (guarded : OneAtATime calls username state (.caller caller choice))
    (obeyed : (stages settings username).Obeyed locals
      (fun caller => Ended username (calls caller)) state)
    (mine : ∀ caller, (locals caller).Of username (calls caller))
    (awaits : state.awaited caller = some (.checkLocked username)) :
    ∀ other, (locals other).active = false := by
  have idle : ∀ other, state.awaited other = some (.checkLocked username) →
      (locals other).active = false := by
    intro other checks
    have may : locals other = .idle := (obeyed.awaits checks).2 rfl
    rw [may]
    rfl
  intro other
  by_cases same : other = caller
  · exact same ▸ idle caller awaits
  by_cases its : (calls other).logsIn = some username
  · rcases guarded caller choice rfl awaits other same its with
      checks | ⟨result, ended⟩
    · exact idle other checks
    · exact (obeyed.ended ended).1
  · have kind := mine other
    cases stage : locals other with
    | other | unlocking => rfl
    | _ =>
        rw [stage] at kind
        exact absurd kind its

/-- A caller with nobody else under way leads. -/
theorem alone_of_lead {caller : Caller} {there : Stage}
    (others : ∀ other, other ≠ caller → (locals other).active = false)
    (sound : Sound settings username store there) :
    ∃ lead : Option Caller,
      (∀ other, (Function.update locals caller there other).active = true →
        lead = some other) ∧
      Sound settings username store
        (lead.elim .idle (Function.update locals caller there)) := by
  refine ⟨some caller, fun other active => ?_, ?_⟩
  · by_contra different
    have apart : other ≠ caller := fun same => different (same ▸ rfl)
    rw [Function.update_of_ne apart, others other apart] at active
    cases active
  · simpa using sound

/-- A caller whose stage stays leaves the lead as it was. -/
theorem alone_of_same {caller : Caller} {there : Stage} {lead : Option Caller}
    (same : there = locals caller)
    (leads : ∀ other, (locals other).active = true → lead = some other)
    (sound : Sound settings username store (lead.elim .idle locals)) :
    ∃ lead : Option Caller,
      (∀ other, (Function.update locals caller there other).active = true →
        lead = some other) ∧
      Sound settings username store
        (lead.elim .idle (Function.update locals caller there)) := by
  rw [same, Function.update_eq_self]
  exact ⟨lead, leads, sound⟩

/-- A check admits a login unless the account is locked. -/
theorem after_checkLocked {here : Stage} {locked : Bool} :
    (stages settings username).after here (.checkLocked username)
      (.ok locked) = if locked then .past else .opened := by
  simp [stages, Stage.after, Stage.next, about]

/-- While logins of a username are one at a time, its keys stay sound. -/
theorem bounded_law (limits : settings.LoginLimits) :
    (stages settings username).Law (loginBackend security)
      (OneAtATime calls username)
      (fun caller => Ended username (calls caller))
      (Bounded settings username calls) where
  performs := by
    intro state locals caller command choice reply next obeyed bounded
      guarded awaited performed
    have awaits := obeyed.awaits awaited
    obtain ⟨lead, leads, sound⟩ := bounded.alone
    have positive : 0 < settings.maxLoginAttempts :=
      Nat.lt_of_lt_of_le (by decide) limits.attempts.1
    refine ⟨answered sound.fixed performed,
      Stage.Of.update bounded.mine awaits reply, ?_⟩
    cases active : (locals caller).active with
    | true =>
        have leading := leads caller active
        subst leading
        apply alone_of_lead
        · intro other different
          by_contra also
          have both := leads other (by simpa using also)
          exact different (Option.some.inj both).symm
        · exact sound.perform limits active awaits performed
    | false =>
        by_cases its : about command = some username
        · rcases inactive_awaits its active awaits with
            ⟨idle, rfl⟩ | ⟨unlocking, rfl⟩
          · have nobody := guarded.nobody obeyed bounded.mine awaited
            apply alone_of_lead fun other _ => nobody other
            obtain ⟨rfl, rfl⟩ | ⟨error, -, raises, -⟩ :=
              perform_cases performed
            · rw [after_checkLocked]
              exact (bounded.idle nobody).check positive rfl
            · cases raises
          · obtain ⟨rfl, rfl⟩ | ⟨error, -, raises, -⟩ :=
              perform_cases performed
            · have stays : (stages settings username).after (locals caller)
                  (.clear username) (.ok ()) = locals caller := by
                simp [stages, Stage.after, Stage.next, about, unlocking]
              exact alone_of_same stays leads (sound.clear positive)
            · cases raises
        · rcases after_apart settings (locals caller) its reply with
            same | ⟨winning, -⟩
          · exact alone_of_same same leads
              (sound.alike (next_alike its performed))
          · rw [winning] at active
            cases active
  environment := by
    intro state locals event next obeyed bounded _ happened
    obtain ⟨lead, leads, sound⟩ := bounded.alone
    cases event with
    | tick duration =>
        cases happened
        exact ⟨bounded.mine, lead, leads, sound.later⟩
    | setUser name user =>
        cases happened
        exact ⟨bounded.mine, lead, leads,
          sound.alike ⟨rfl, rfl, rfl, rfl, rfl⟩⟩
  kills := by
    intro state locals caller next _ _ _ _ killed
    cases killed

/-! ### While the lock lasts -/

/-- No admin unlocks the username. -/
def NoUnlock (calls : Caller → LoginCall) (username : Username)
    (_ : Logins) (move : Move Caller LoginChoice LoginEvent) : Prop :=
  ∀ caller choice, move = .caller caller choice →
    calls caller ≠ .unlockUser username

/-- Up to the end of a lock nobody is under way, and who has won had won when
the lock was set. -/
structure Shut (settings : SystemSettings) (username : Username)
    (calls : Caller → LoginCall) (expiresAt : Nat) (first : Caller → Stage)
    (store : LoginStore) (locals : Caller → Stage) : Prop where
  mine : ∀ caller, (locals caller).Of username (calls caller)
  fixed : store.settings = settings
  shut : store.clock ≤ expiresAt →
    store.locked username = some ⟨(), expiresAt⟩ ∧
      (∀ caller, (locals caller).active = false) ∧
      ∀ caller, locals caller = .won → first caller = .won

/-- No command moves the clock or the settings. -/
theorem effect_fixed {fresh : String} (command : LoginCommand) :
    (store.effect security fresh command).2.clock = store.clock ∧
      (store.effect security fresh command).2.settings = store.settings := by
  cases command with
  | verifyPassword name password user =>
      rcases effect_verifyPassword security store fresh name password user
        with right | wrong
      · rw [right]
        exact ⟨rfl, rfl⟩
      · rw [wrong]
        exact ⟨rfl, rfl⟩
  | expire name ttl =>
      simp only [LoginStore.effect, LoginStore.expire]
      split <;> exact ⟨rfl, rfl⟩
  | _ => exact ⟨rfl, rfl⟩

/-- While the lock lasts and nobody unlocks, no login gets under way. -/
theorem shut_law {expiresAt : Nat} {first : Caller → Stage} :
    (stages settings username).Law (loginBackend security)
      (NoUnlock calls username)
      (fun caller => Ended username (calls caller))
      (Shut settings username calls expiresAt first) where
  performs := by
    intro state locals caller command choice reply next obeyed shut
      guarded awaited performed
    have awaits := obeyed.awaits awaited
    obtain ⟨clock, fixed⟩ : next.clock = state.shared.clock ∧
        next.settings = state.shared.settings := by
      rcases perform_cases performed with ⟨-, rfl⟩ | ⟨error, -, -, rfl⟩
      · exact effect_fixed command
      · exact ⟨rfl, rfl⟩
    refine ⟨answered shut.fixed performed,
      Stage.Of.update shut.mine awaits reply, fixed.trans shut.fixed,
      fun before => ?_⟩
    rw [clock] at before
    obtain ⟨stored, nobody, won⟩ := shut.shut before
    have stays : next.locked username = state.shared.locked username ∧
        ((stages settings username).after (locals caller) command reply =
            locals caller ∨
          (stages settings username).after (locals caller) command reply =
            .past) := by
      by_cases its : about command = some username
      · rcases inactive_awaits its (nobody caller) awaits with
          ⟨-, rfl⟩ | ⟨unlocking, rfl⟩
        · obtain ⟨rfl, rfl⟩ | ⟨error, -, raises, -⟩ :=
            perform_cases performed
          · rw [after_checkLocked]
            have locked := locked_of_entry stored before
            exact ⟨rfl, .inr (if_pos locked)⟩
          · cases raises
        · have unlocks := shut.mine caller
          rw [unlocking] at unlocks
          exact absurd unlocks (guarded caller choice rfl)
      · refine ⟨(next_alike its performed).locked, ?_⟩
        rcases after_apart settings (locals caller) its reply with
          same | ⟨winning, -⟩
        · exact .inl same
        · have inactive := nobody caller
          rw [winning] at inactive
          cases inactive
    refine ⟨stays.1.trans stored, ?_, ?_⟩
    · intro other
      by_cases same : other = caller
      · subst same
        rw [Function.update_self]
        rcases stays.2 with same | past
        · rw [same]
          exact nobody other
        · rw [past]
          rfl
      · rw [Function.update_of_ne same]
        exact nobody other
    · intro other
      by_cases same : other = caller
      · subst same
        rw [Function.update_self]
        rcases stays.2 with same | past
        · rw [same]
          exact won other
        · rw [past]
          nofun
      · rw [Function.update_of_ne same]
        exact won other
  environment := by
    intro state locals event next obeyed shut _ happened
    cases event with
    | tick duration =>
        cases happened
        refine ⟨shut.mine, shut.fixed, fun before => ?_⟩
        exact shut.shut (Nat.le_trans (Nat.le_add_right ..) before)
    | setUser name user =>
        cases happened
        exact ⟨shut.mine, shut.fixed, shut.shut⟩
  kills := by
    intro state locals caller next _ _ _ _ killed
    cases killed

/-! ### Both bounds -/

/-- A store without lockout keys. -/
def Fresh (store : LoginStore) : Prop :=
  store.attempts = (fun _ => none) ∧ store.locked = (fun _ => none) ∧
    store.guesses = (fun _ => 0) ∧ store.recentGuesses = fun _ => 0

/-- At first every request is before its first command. -/
theorem obeyed_start :
    (stages settings username).Obeyed
      (fun caller => Stage.first username (calls caller))
      (fun caller => Ended username (calls caller))
      (start security store calls) where
  follows := by
    rintro caller coroutine ⟨⟩
    exact follows_run (calls caller)
  gone := by
    intro caller dead
    cases dead

/-- At first nobody is under way and nothing is counted. -/
theorem bounded_start (fresh : Fresh store) :
    Bounded store.settings username calls store
      (fun caller => Stage.first username (calls caller)) := by
  obtain ⟨attempts, locked, guesses, recent⟩ := fresh
  have gone : store.counter username = none := by
    simp [LoginStore.counter, attempts]
  refine ⟨fun caller => ?_, none, fun caller active => ?_, rfl, ?_, ?_,
    nofun, ?_, ?_, ?_⟩
  · cases call : calls caller with
    | login name password ipAddress userAgent =>
        simp only [Stage.first]
        split
        · next same => exact congrArg some same
        · trivial
    | unlockUser name =>
        simp only [Stage.first]
        split
        · next same => exact congrArg LoginCall.unlockUser same
        · trivial
  · cases call : calls caller <;> simp only [call, Stage.first] at active <;>
      split at active <;> cases active
  · simp [LoginStore.count, gone]
  · rintro (same | same) <;> cases same
  · simp [recent]
  · intro counter _ counts
    cases gone.symm.trans counts
  · intro counter counts
    cases gone.symm.trans counts

/-- The wrong passwords that were compared are within the limit. -/
theorem Sound.bounded {stage : Stage}
    (sound : Sound settings username store stage) :
    store.recentGuesses username ≤ settings.maxLoginAttempts := by
  have known := sound.known
  have few := sound.few
  by_cases guessed : stage = .guessed
  · have room := sound.room (.inr guessed)
    rw [if_pos guessed] at known
    omega
  · rw [if_neg guessed] at known
    omega

/-- A login that has won has returned. -/
theorem done_of_won {state : Logins} {caller : Caller}
    (obeyed : (stages settings username).Obeyed locals
      (fun caller => Ended username (calls caller)) state)
    (won : locals caller = .won) :
    ∃ result, state.running caller = some (.done result) := by
  cases runs : state.running caller with
  | none => exact (obeyed.gone caller runs).elim
  | some coroutine =>
      have follows := obeyed.follows caller coroutine runs
      cases coroutine with
      | done result => exact ⟨result, rfl⟩
      | await command resume => exact absurd won follows.1.1
      | loop body resume =>
          obtain ⟨again, begins, rounds⟩ := follows
          exact absurd won (rounds _ begins).1

/-- When no login of a username begins its check while another one of it is
under way, no more wrong passwords are compared than the limit says before the
account is locked, counting since the last success, unlock or end of a lock or
of the counter; and from when the lock is set until its duration has passed
no login of the username returns, unless an admin unlocks it. -/
theorem lockout_bounds (security : Security) (username : Username)
    (calls : Caller → LoginCall) (store : LoginStore)
    (limits : store.settings.LoginLimits) (fresh : Fresh store)
    {moves : List (Move Caller LoginChoice LoginEvent)} {state : Logins}
    (along : (loginBackend security).machine.Along
      (OneAtATime calls username) (start security store calls) moves)
    (reached : (loginBackend security).machine.run
      (start security store calls) moves = some state) :
    state.shared.recentGuesses username ≤ store.settings.maxLoginAttempts ∧
      ∀ locker choice ttl locked later final,
        state.awaited locker = some (.lock username ttl) →
        (loginBackend security).machine.step state (.caller locker choice) =
          some locked →
        (loginBackend security).machine.Along (NoUnlock calls username)
          locked later →
        (loginBackend security).machine.run locked later = some final →
        final.shared.clock < state.shared.clock +
          seconds (lockoutSeconds store.settings) →
        ∀ caller result, (calls caller).logsIn = some username →
          final.running caller = some (.done (.ok result)) →
            locked.running caller = some (.done (.ok result)) := by
  obtain ⟨locals, bounded, obeyedBefore, -⟩ :=
    (bounded_law limits).run obeyed_start (bounded_start fresh) along reached
  obtain ⟨lead, leads, sound⟩ := bounded.alone
  refine ⟨sound.bounded, ?_⟩
  intro locker choice ttl locked later final awaited stepped noUnlock ended
    early caller result logsIn returned
  obtain ⟨armed, rfl⟩ := (obeyedBefore.awaits awaited).2 rfl
  obtain ⟨reply, performed, follows⟩ := obeyedBefore.performed awaited stepped
  obtain ⟨rfl, stored⟩ | ⟨error, -, raises, -⟩ := perform_cases performed
  · have obeyed := follows ⟨(), rfl⟩
    have past : (stages store.settings username).after (locals locker)
        (.lock username (lockoutSeconds store.settings)) (.ok ()) = .past := by
      simp [stages, Stage.after, Stage.next, about]
    have shut : Shut store.settings username calls
        (state.shared.clock + seconds (lockoutSeconds store.settings))
        (Function.update locals locker .past) locked.shared
        (Function.update locals locker .past) := by
      have leading := leads locker (by rw [armed]; rfl)
      refine ⟨?_, ?_, fun _ => ⟨?_, fun other => ?_, fun _ => id⟩⟩
      · have mine := Stage.Of.update bounded.mine (obeyedBefore.awaits awaited)
          (.ok ())
        rwa [past] at mine
      · rw [stored]
        exact sound.fixed
      · rw [stored]
        exact Function.update_self ..
      · by_cases same : other = locker
        · subst same
          rw [Function.update_self]
          rfl
        · rw [Function.update_of_ne same]
          by_contra active
          have both := leads other (by simpa using active)
          exact same (Option.some.inj (both.symm.trans leading))
    rw [past] at obeyed
    obtain ⟨after, shutAfter, obeyedAfter, -⟩ :=
      shut_law.run obeyed shut noUnlock ended
    have won := (obeyedAfter.ended returned).2 logsIn result rfl
    have wonBefore := (shutAfter.shut (Nat.le_of_lt early)).2.2 caller won
    obtain ⟨before, done⟩ := done_of_won obeyed wonBefore
    rcases (loginBackend security).run_done ended done with same | dead
    · rw [done, ← same, returned]
    · cases returned.symm.trans dead
  · cases raises

/-- Passwords are stored as they are. -/
def plainSecurity : Security where
  verifyPassword password hash := decide (password = hash)
  dummyHash := "dummy"
  createAccessToken username _ _ := username
  generateCsrfToken nonce _ := nonce

/-- One user, and three attempts in five minutes. -/
def strictStore : LoginStore where
  settings := { maxLoginAttempts := 3, lockoutDurationMinutes := 5 }
  users username :=
    if username = "u" then
      some { userId := "1", username := "u", hashedPassword := "right" }
    else none

/-- A login that fails from its check to its last event. -/
def failing (caller : Caller) : List (Move Caller LoginChoice LoginEvent) :=
  List.replicate 8 (.caller caller {})

/-- Three guesses, and one with the right password. -/
def threeGuesses : Caller → LoginCall
  | 0 | 1 | 2 => .login "u" "wrong" "ip" none
  | 3 => .login "u" "right" "ip" none
  | _ => .unlockUser "v"

/-- Whether a caller has ended or is about to check. -/
def outside (state : Logins) (caller : Caller) : Bool :=
  match state.running caller with
  | some (.await (.checkLocked name) _) => name == "u"
  | some (.done _) => true
  | _ => false

/-- Whether a check finds the other logins outside. -/
def oneAtATime (state : Logins) :
    Move Caller LoginChoice LoginEvent → Bool
  | .caller caller _ =>
      match state.running caller with
      | some (.await (.checkLocked _) _) =>
          [0, 1, 2, 3].all fun other => other == caller || outside state other
      | _ => true
  | _ => true

private theorem outside_or (state : Logins) (caller : Caller)
    (out : outside state caller = true) :
    state.awaited caller = some (.checkLocked "u") ∨
      ∃ result, state.running caller = some (.done result) := by
  unfold outside at out
  split at out
  · next runs =>
      left
      simp only [Callers.awaited, runs]
      rw [beq_iff_eq.mp out]
  · next result runs => exact .inr ⟨result, runs⟩
  · cases out

private theorem oneAtATime_of_check (state : Logins)
    (move : Move Caller LoginChoice LoginEvent)
    (checked : oneAtATime state move = true) :
    OneAtATime threeGuesses "u" state move := by
  rintro caller choice rfl awaited other different its
  unfold Callers.awaited at awaited
  unfold oneAtATime at checked
  split at awaited
  · next command resume runs =>
      cases awaited
      simp only [runs, List.all_eq_true] at checked
      have one : other ∈ [0, 1, 2, 3] := by
        match other, its with
        | 0, _ | 1, _ | 2, _ | 3, _ => decide
        | _ + 4, its => cases its
      have out := checked other one
      simp only [Bool.or_eq_true, beq_iff_eq, different, false_or] at out
      exact outside_or state other out
  · cases awaited

/-- Whether a caller is about to lock the account. -/
def locking (state : Logins) (caller : Caller) : Bool :=
  match state.running caller with
  | some (.await (.lock name ttl) _) => name == "u" && ttl == 300
  | _ => false

private theorem awaited_of_locking {state : Logins} {caller : Caller}
    (locks : locking state caller = true) :
    state.awaited caller = some (.lock "u" 300) := by
  unfold locking at locks
  split at locks
  · next runs =>
      simp only [Bool.and_eq_true, beq_iff_eq] at locks
      simp [Callers.awaited, runs, locks.1, locks.2]
  · cases locks

/-- Whether a request has returned. -/
def returned (state : Logins) (caller : Caller) : Bool :=
  match state.running caller with
  | some (.done (.ok _)) => true
  | _ => false

private theorem result_of_returned {state : Logins} {caller : Caller}
    (ended : returned state caller = true) :
    ∃ result, state.running caller = some (.done (.ok result)) := by
  unfold returned at ended
  split at ended
  · next result runs => exact ⟨result, runs⟩
  · cases ended

theorem lockout_bounds_threeGuesses : ∃ state locked final,
    (loginBackend plainSecurity).machine.run
      (start plainSecurity strictStore threeGuesses)
      (failing 0 ++ failing 1 ++ (failing 2).take 6) = some state ∧
    (loginBackend plainSecurity).machine.step state (.caller 2 {}) =
      some locked ∧
    (loginBackend plainSecurity).machine.run locked [.caller 3 {}] =
      some final ∧
    state.shared.recentGuesses "u" ≤ 3 ∧
    ∀ result, final.running 3 ≠ some (.done (.ok result)) := by
  have runs : ((loginBackend plainSecurity).machine.run
      (start plainSecurity strictStore threeGuesses)
      (failing 0 ++ failing 1 ++ (failing 2).take 6)).bind (fun state =>
        ((loginBackend plainSecurity).machine.step state (.caller 2 {})).bind
          fun locked => ((loginBackend plainSecurity).machine.run locked
            [.caller 3 {}]).map fun final =>
              (locking state 2, returned locked 3,
                final.shared.clock, state.shared.clock)) =
      some (true, false, 0, 0) := by
    decide +kernel
  obtain ⟨state, reached, rest⟩ := Option.bind_eq_some_iff.mp runs
  obtain ⟨locked, stepped, rest⟩ := Option.bind_eq_some_iff.mp rest
  obtain ⟨final, goesOn, same⟩ := Option.map_eq_some_iff.mp rest
  simp only [Prod.mk.injEq] at same
  obtain ⟨locks, open3, late, early⟩ := same
  have along : (loginBackend plainSecurity).machine.Along
      (OneAtATime threeGuesses "u")
      (start plainSecurity strictStore threeGuesses)
      (failing 0 ++ failing 1 ++ (failing 2).take 6) :=
    (loginBackend plainSecurity).machine.along_of_check oneAtATime_of_check
      (by decide +kernel)
  obtain ⟨few, shut⟩ := lockout_bounds plainSecurity "u" threeGuesses
    strictStore ⟨by decide, by decide⟩ ⟨rfl, rfl, rfl, rfl⟩ along reached
  refine ⟨state, locked, final, reached, stepped, goesOn, few, ?_⟩
  intro result ended
  have noUnlock : (loginBackend plainSecurity).machine.Along
      (NoUnlock threeGuesses "u") locked [.caller 3 {}] := by
    refine ⟨?_, fun _ _ => trivial⟩
    rintro caller choice ⟨⟩ ⟨⟩
  have before := shut 2 {} 300 locked _ final (awaited_of_locking locks)
    stepped noUnlock goesOn (by rw [late, early]; decide) 3 result rfl ended
  simp [returned, before] at open3

/-! ### How the bounds are evaded -/

/-- Everyone guesses. -/
def guessers : Caller → LoginCall := fun _ => .login "u" "wrong" "ip" none

/-- More time than a counter lasts. -/
def pauseOfGuesser : Move Caller LoginChoice LoginEvent :=
  .environment (.tick (seconds 301))

/-- Three failures, each after the counter of the one before was gone, and one
more: the documented lifetime of the counter starts anew with every failure. -/
def spaced : List (Move Caller LoginChoice LoginEvent) :=
  failing 0 ++ [pauseOfGuesser] ++ failing 1 ++ [pauseOfGuesser] ++
    failing 2 ++ [pauseOfGuesser] ++ failing 3

/-- Four logins check the lock before any of them counts its failure. -/
def parallel : List (Move Caller LoginChoice LoginEvent) :=
  [0, 1, 2, 3].flatMap fun caller => (failing caller).take 3

/-- A login with the right password checks the lock and awaits its user while
three others fail. -/
def overtaken : List (Move Caller LoginChoice LoginEvent) :=
  [.caller 3 {}] ++ failing 0 ++ failing 1 ++ (failing 2).take 6

/-- The login with the right password goes on after the lock was set. -/
def overtaking : List (Move Caller LoginChoice LoginEvent) :=
  .caller 2 {} :: List.replicate 8 (.caller 3 {})

/-- Spaced guesses never lock; guesses side by side are all compared; and a
login that checked before the lock was set returns while it lasts. -/
theorem lockout_evaded :
    strictStore.settings.LoginLimits ∧
    (∃ state, (loginBackend plainSecurity).machine.run
        (start plainSecurity strictStore guessers) spaced = some state ∧
      state.shared.isLocked "u" = false ∧
      strictStore.settings.maxLoginAttempts < state.shared.guesses "u") ∧
    (∃ state, (loginBackend plainSecurity).machine.run
        (start plainSecurity strictStore guessers) parallel = some state ∧
      state.shared.isLocked "u" = false ∧
      strictStore.settings.maxLoginAttempts < state.shared.guesses "u") ∧
    ∃ state final, (loginBackend plainSecurity).machine.run
        (start plainSecurity strictStore threeGuesses) overtaken =
          some state ∧
      state.awaited 2 = some (.lock "u" 300) ∧
      (loginBackend plainSecurity).machine.run state overtaking =
        some final ∧
      final.shared.clock < state.shared.clock + seconds 300 ∧
      ∃ result, final.running 3 = some (.done (.ok result)) := by
  refine ⟨⟨by decide, by decide⟩, ?_, ?_, ?_⟩
  · have counted : ((loginBackend plainSecurity).machine.run
        (start plainSecurity strictStore guessers) spaced).map
        (fun state => (state.shared.isLocked "u", state.shared.guesses "u")) =
          some (false, 4) := by
      decide +kernel
    obtain ⟨state, reached, same⟩ := Option.map_eq_some_iff.mp counted
    obtain ⟨unlocked, guesses⟩ := Prod.mk.inj same
    exact ⟨state, reached, unlocked, by rw [guesses]; decide⟩
  · have counted : ((loginBackend plainSecurity).machine.run
        (start plainSecurity strictStore guessers) parallel).map
        (fun state => (state.shared.isLocked "u", state.shared.guesses "u")) =
          some (false, 4) := by
      decide +kernel
    obtain ⟨state, reached, same⟩ := Option.map_eq_some_iff.mp counted
    obtain ⟨unlocked, guesses⟩ := Prod.mk.inj same
    exact ⟨state, reached, unlocked, by rw [guesses]; decide⟩
  · have runs : ((loginBackend plainSecurity).machine.run
        (start plainSecurity strictStore threeGuesses) overtaken).bind
        (fun state => ((loginBackend plainSecurity).machine.run state
          overtaking).map fun final =>
            (locking state 2, returned final 3, final.shared.clock,
              state.shared.clock)) = some (true, true, 0, 0) := by
      decide +kernel
    obtain ⟨state, reached, rest⟩ := Option.bind_eq_some_iff.mp runs
    obtain ⟨final, goesOn, same⟩ := Option.map_eq_some_iff.mp rest
    simp only [Prod.mk.injEq] at same
    obtain ⟨locks, ended, late, early⟩ := same
    exact ⟨state, final, reached, awaited_of_locking locks, goesOn,
      by rw [late, early]; decide, result_of_returned ended⟩

end Runs

end LoginLockout

end Integr8s
