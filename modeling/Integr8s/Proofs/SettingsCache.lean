/-
Module: Integr8s.Proofs.SettingsCache
Purpose: When a process's cache of the system settings is coherent: a load
  that is under way when an update invalidates the cache may store what it
  read before, so the settings that later calls get are as new as every
  returned update when no load stores such a value.
Trusted boundary: none
Main exports: SettingsCache.later_calls_see_updates,
  SettingsCache.stale_load_cached
-/
import Integr8s.Lib.Typestate
import Integr8s.Services.RuntimeSettings

namespace Integr8s

namespace SettingsCache

open AdminSettingsCall (start)

/-- How far a call is: it has made its change, it has invalidated the cache,
and the settings that it got. -/
structure Progress where
  wrote : Bool := false
  told : Bool := false
  got : Option SystemSettings := none

/-- A call changes the document, then invalidates the cache, and caches only
what it got. -/
def caching (defaults : SystemSettings) :
    Typestate Progress AdminSettingsCommand AdminSettingsReply PyException
    where
  awaits here
    | .storeCache settings => here.got = some settings
    | .invalidateCache => here.wrote = true
    | .findOrInsert settings => settings = defaults
    | .upsert _ | .findOne | .delete _ => here.told = false
    | .checkCache | .insertAudit _ => True
  after here
    | .checkCache, .ok (some settings) => { here with got := some settings }
    | .findOrInsert _, .ok (some settings) =>
        { here with got := some settings }
    | .findOrInsert settings, _ => { here with got := some settings }
    | .upsert _, .ok _ => { here with wrote := true }
    | .findOne, .ok none => { here with wrote := true }
    | .delete _, .ok _ => { here with wrote := true }
    | .invalidateCache, .ok _ => { here with told := true }
    | _, _ => here

/-- A call that returns has got what it returns when it loads the settings,
and has invalidated the cache when it changed them. -/
def Returned (call : AdminSettingsCall)
    (result : Except PyException SystemSettings) (there : Progress) : Prop :=
  ∀ settings, result = .ok settings →
    if call = .getEffectiveSettings then there.got = some settings
    else there.told = true

/-! ### The calls follow their progress -/

section Calls

variable {here : Progress}

/-- A load gets what it returns. -/
theorem follows_loadSettings (settings : Settings)
    {post : Except PyException SystemSettings → Progress → Prop}
    (returns : ∀ value, post (.ok value) { here with got := some value })
    (raises : ∀ error value,
      post (.error error) { here with got := some value }) :
    (caching settings.tomlDefaults).Follows
      (RuntimeSettingsLoader.loadSettings settings) post here := by
  have stores : ∀ value, (caching settings.tomlDefaults).Follows
      (do
        askSettings (.storeCache value)
        pure value) post { here with got := some value } := by
    intro value
    rw [Typestate.follows_bind]
    apply Typestate.follows_call rfl
    intro reply _
    cases reply with
    | ok _ => exact returns value
    | error error => exact raises error value
  unfold RuntimeSettingsLoader.loadSettings
    AdminSettingsRepository.getSystemSettings
  rw [Typestate.follows_bind, Typestate.follows_attempt,
    Typestate.follows_bind]
  apply Typestate.follows_call rfl
  intro reply _
  match reply with
  | .ok (some config) => exact stores config
  | .ok none => exact stores settings.tomlDefaults
  | .error error =>
      dsimp only
      split
      · exact stores settings.tomlDefaults
      · exact raises error settings.tomlDefaults

/-- Getting the settings gets what it returns, and neither changes the
document nor invalidates the cache. -/
theorem follows_getEffectiveSettings (settings : Settings)
    {post : Except PyException SystemSettings → Progress → Prop}
    (returns : ∀ value, post (.ok value) { here with got := some value })
    (raises : ∀ error got, post (.error error) { here with got := got }) :
    (caching settings.tomlDefaults).Follows
      (RuntimeSettingsLoader.getEffectiveSettings settings) post here := by
  unfold RuntimeSettingsLoader.getEffectiveSettings
  rw [Typestate.follows_bind]
  apply Typestate.follows_call trivial
  intro reply _
  match reply with
  | .ok (some cached) => exact returns cached
  | .ok none =>
      exact follows_loadSettings settings returns fun error value =>
        raises error (some value)
  | .error error => exact raises error here.got

/-- A reset that goes on has made its change, or found it made. -/
theorem follows_deleteSettings (defaults : SystemSettings) (here : Progress)
    (before : here.told = false) :
    (caching defaults).Follows AdminSettingsRepository.deleteSettings
      (fun result there => result = .ok () → there.wrote = true) here := by
  unfold AdminSettingsRepository.deleteSettings
  rw [Typestate.follows_bind]
  apply Typestate.follows_call before
  intro reply _
  match reply with
  | .error error => rintro ⟨⟩
  | .ok none => exact fun _ => rfl
  | .ok (some document) =>
      apply Typestate.follows_call before
      intro deleted _
      cases deleted with
      | ok _ => exact fun _ => rfl
      | error error => rintro ⟨⟩

/-- Every call follows its typestate from the start. -/
theorem follows_run (settings : Settings) (call : AdminSettingsCall) :
    (caching settings.tomlDefaults).Follows (call.run settings)
      (Returned call) {} := by
  cases call with
  | getEffectiveSettings =>
      apply follows_getEffectiveSettings
      · rintro value _ ⟨⟩
        rfl
      · rintro error got _ ⟨⟩
  | updateSystemSettings newSettings =>
      unfold AdminSettingsCall.run AdminSettingsService.updateSystemSettings
        AdminSettingsRepository.updateSystemSettings
      rw [Typestate.follows_bind, Typestate.follows_bind]
      apply Typestate.follows_call rfl
      intro written _
      cases written with
      | error error => rintro _ ⟨⟩
      | ok _ =>
          rw [Typestate.follows_bind]
          apply Typestate.follows_call trivial
          intro audited _
          cases audited with
          | error error => rintro _ ⟨⟩
          | ok _ =>
              simp only [Typestate.follows_pure]
              rw [Typestate.follows_bind]
              apply Typestate.follows_call rfl
              intro invalidated _
              cases invalidated with
              | error error => rintro _ ⟨⟩
              | ok _ =>
                  rintro value -
                  rfl
  | resetSystemSettings =>
      unfold AdminSettingsCall.run AdminSettingsService.resetSystemSettings
        AdminSettingsRepository.resetSystemSettings
      rw [Typestate.follows_bind, Typestate.follows_bind]
      apply Typestate.follows_mono _ (follows_deleteSettings _ {} rfl)
      rintro (error | _) there made
      · rintro _ ⟨⟩
      rw [Typestate.follows_bind]
      apply Typestate.follows_call trivial
      rintro (error | _) _
      · rintro _ ⟨⟩
      simp only [Typestate.follows_pure]
      rw [Typestate.follows_bind]
      apply Typestate.follows_call (made rfl)
      rintro (error | _) _
      · rintro _ ⟨⟩
      apply follows_getEffectiveSettings
      · rintro value _ -
        rfl
      · rintro error got _ ⟨⟩

end Calls

/-! ### The database and the cache

Every change of the document has a revision, and so has what a load obtained.
The invariant says that what is cached is not older than the revision for which
the cache was invalidated last. -/

section Coherence

variable {defaults : SystemSettings} {late caller : Caller} {floor : Nat}
  {store next : AdminSettingsStore} {locals : Caller → Progress}

/-- Settings that the database held as of a change of the document, or that a
load fell back on then. -/
def Held (defaults : SystemSettings) (store : AdminSettingsStore)
    (revision : Nat) (settings : SystemSettings) : Prop :=
  revision ≤ store.revision ∧
    (store.versions revision = some settings ∨ settings = defaults)

/-- Where a call is: it holds what it got as of some change, and has made its
change, which counts as invalidated once it invalidated the cache.  What the
late call gets is as of the floor or later. -/
structure Placed (defaults : SystemSettings) (late : Caller) (floor : Nat)
    (store : AdminSettingsStore) (caller : Caller) (there : Progress) :
    Prop where
  got : ∀ settings, there.got = some settings →
    ∃ revision, store.obtained caller = some revision ∧
      Held defaults store revision settings ∧
      (caller = late → floor ≤ revision)
  wrote : there.wrote = true →
    ∃ revision, store.wrote caller = some revision ∧
      revision ≤ store.revision
  told : there.told = true →
    ∃ revision, store.wrote caller = some revision ∧
      revision ≤ store.invalidated

/-- A call that has done nothing. -/
theorem placed_start : Placed defaults late floor store caller {} where
  got settings has := by cases has
  wrote has := by cases has
  told has := by cases has

/-- What is cached is not older than what the cache was invalidated for. -/
structure Coherent (defaults : SystemSettings) (late : Caller) (floor : Nat)
    (store : AdminSettingsStore) (locals : Caller → Progress) : Prop where
  cached : ∀ cached, store.cache = some cached →
    store.invalidated ≤ cached.revision ∧
      Held defaults store cached.revision cached.settings
  current : store.versions store.revision =
    store.document.map SystemSettingsDocument.config
  bound : store.invalidated ≤ store.revision
  above : floor ≤ store.invalidated
  placed : ∀ caller, Placed defaults late floor store caller (locals caller)

/-- The changes of a store are among those of a later one. -/
structure Later (store next : AdminSettingsStore) : Prop where
  revision : store.revision ≤ next.revision
  invalidated : store.invalidated ≤ next.invalidated
  versions : ∀ revision, revision ≤ store.revision →
    next.versions revision = store.versions revision

theorem Held.later {revision : Nat} {settings : SystemSettings}
    (held : Held defaults store revision settings)
    (after : Later store next) : Held defaults next revision settings :=
  ⟨held.1.trans after.revision, (after.versions revision held.1) ▸ held.2⟩

/-- A call whose own notes are as they were is where it was. -/
theorem Placed.later {there : Progress}
    (placed : Placed defaults late floor store caller there)
    (after : Later store next)
    (obtained : next.obtained caller = store.obtained caller)
    (wrote : next.wrote caller = store.wrote caller) :
    Placed defaults late floor next caller there where
  got settings has := by
    obtain ⟨revision, noted, held, high⟩ := placed.got settings has
    exact ⟨revision, obtained.trans noted, held.later after, high⟩
  wrote has := by
    obtain ⟨revision, noted, low⟩ := placed.wrote has
    exact ⟨revision, wrote.trans noted, low.trans after.revision⟩
  told has := by
    obtain ⟨revision, noted, low⟩ := placed.told has
    exact ⟨revision, wrote.trans noted, low.trans after.invalidated⟩

/-- A change of the document. -/
theorem Coherent.write (coherent : Coherent defaults late floor store locals)
    (document : Option SystemSettingsDocument) :
    Coherent defaults late floor (store.write document) locals := by
  have after : Later store (store.write document) := by
    refine ⟨Nat.le_succ _, le_refl _, fun revision old => ?_⟩
    apply Function.update_of_ne
    omega
  refine ⟨?_, ?_, coherent.bound.trans after.revision, coherent.above, ?_⟩
  · intro cached stored
    obtain ⟨new, held⟩ := coherent.cached cached stored
    exact ⟨new, held.later after⟩
  · exact Function.update_self ..
  · intro caller
    exact (coherent.placed caller).later after rfl rfl

/-- A call notes its change before it invalidates the cache. -/
theorem Coherent.noteWrite
    (coherent : Coherent defaults late floor store locals)
    (before : (locals caller).told = false) (wrote : Bool) :
    Coherent defaults late floor (store.noteWrite caller)
      (Function.update locals caller
        { locals caller with wrote := wrote }) := by
  have after : Later store (store.noteWrite caller) :=
    ⟨le_refl _, le_refl _, fun _ _ => rfl⟩
  refine ⟨coherent.cached, coherent.current, coherent.bound, coherent.above,
    fun other => ?_⟩
  by_cases same : other = caller
  · subst same
    rw [Function.update_self]
    refine ⟨(coherent.placed other).got, fun _ => ?_, fun told => ?_⟩
    · exact ⟨store.revision, Function.update_self .., le_refl _⟩
    · cases before.symm.trans told
  · rw [Function.update_of_ne same]
    exact (coherent.placed other).later after rfl
      (Function.update_of_ne same ..)

/-- A call notes as of which change it got its settings. -/
theorem Coherent.noteObtained
    (coherent : Coherent defaults late floor store locals) {revision : Nat}
    {settings : SystemSettings}
    (held : Held defaults store revision settings)
    (high : store.invalidated ≤ revision) :
    Coherent defaults late floor (store.noteObtained caller revision)
      (Function.update locals caller
        { locals caller with got := some settings }) := by
  have after : Later store (store.noteObtained caller revision) :=
    ⟨le_refl _, le_refl _, fun _ _ => rfl⟩
  refine ⟨coherent.cached, coherent.current, coherent.bound, coherent.above,
    fun other => ?_⟩
  by_cases same : other = caller
  · subst same
    rw [Function.update_self]
    refine ⟨fun got has => ?_, (coherent.placed other).wrote,
      (coherent.placed other).told⟩
    cases has
    exact ⟨revision, Function.update_self .., held,
      fun _ => coherent.above.trans high⟩
  · rw [Function.update_of_ne same]
    exact (coherent.placed other).later after
      (Function.update_of_ne same ..) rfl

/-- A call that has made its change invalidates the cache. -/
theorem Coherent.invalidate
    (coherent : Coherent defaults late floor store locals)
    (made : (locals caller).wrote = true) :
    Coherent defaults late floor
      (store.effect caller .invalidateCache).2
      (Function.update locals caller
        { locals caller with told := true }) := by
  obtain ⟨revision, noted, low⟩ := (coherent.placed caller).wrote made
  have after : Later store (store.effect caller .invalidateCache).2 :=
    ⟨le_refl _, le_max_left _ _, fun _ _ => rfl⟩
  have bound : (store.effect caller .invalidateCache).2.invalidated ≤
      store.revision := by
    simp only [AdminSettingsStore.effect, noted, Option.getD_some]
    exact max_le coherent.bound low
  refine ⟨?_, coherent.current, bound,
    coherent.above.trans after.invalidated, fun other => ?_⟩
  · rintro cached ⟨⟩
  by_cases same : other = caller
  · subst same
    rw [Function.update_self]
    refine ⟨(coherent.placed other).got, (coherent.placed other).wrote,
      fun _ => ⟨revision, noted, ?_⟩⟩
    simp only [AdminSettingsStore.effect, noted, Option.getD_some]
    exact le_max_right _ _
  · rw [Function.update_of_ne same]
    exact (coherent.placed other).later after rfl rfl

/-- A call caches what it got, when nothing newer was invalidated since. -/
theorem Coherent.storeCache
    (coherent : Coherent defaults late floor store locals)
    {settings : SystemSettings}
    (has : (locals caller).got = some settings)
    (fresh : ∀ revision, store.obtained caller = some revision →
      store.invalidated ≤ revision) :
    Coherent defaults late floor
      (store.effect caller (.storeCache settings)).2 locals := by
  obtain ⟨revision, noted, held, -⟩ := (coherent.placed caller).got settings has
  refine ⟨?_, coherent.current, coherent.bound, coherent.above, fun other =>
    (coherent.placed other).later ⟨le_refl _, le_refl _, fun _ _ => rfl⟩ rfl
      rfl⟩
  rintro cached ⟨⟩
  simp only [noted, Option.getD_some]
  exact ⟨fresh revision noted, held⟩

/-- What the database holds now. -/
theorem Coherent.heldNow
    (coherent : Coherent defaults late floor store locals)
    {document : SystemSettingsDocument}
    (stored : store.document = some document) :
    Held defaults store store.revision document.config :=
  ⟨le_refl _, .inl (by rw [coherent.current, stored]; rfl)⟩

/-- A delete makes its change, whatever it finds. -/
theorem Coherent.delete
    (coherent : Coherent defaults late floor store locals) (id : Nat)
    (before : (locals caller).told = false) (wrote : Bool) :
    Coherent defaults late floor (store.effect caller (.delete id)).2
      (Function.update locals caller
        { locals caller with wrote := wrote }) := by
  simp only [AdminSettingsStore.effect]
  split
  · exact (coherent.write none).noteWrite before wrote
  · exact coherent.noteWrite before wrote

/-- A look for the document is a change when there is none. -/
theorem Coherent.findOne
    (coherent : Coherent defaults late floor store locals)
    (before : (locals caller).told = false) (wrote : Bool)
    (same : store.document ≠ none → wrote = (locals caller).wrote) :
    Coherent defaults late floor (store.effect caller .findOne).2
      (Function.update locals caller
        { locals caller with wrote := wrote }) := by
  simp only [AdminSettingsStore.effect]
  split
  · exact coherent.noteWrite before wrote
  · next stored =>
      rw [same stored]
      simpa using coherent

/-- A load, with what its caller makes of the answer. -/
theorem Coherent.findOrInsert
    (coherent : Coherent defaults late floor store locals)
    {settings : SystemSettings}
    (answer : settings = defaults ∨
      ∃ document, store.document = some document ∧
        document.config = settings) :
    Coherent defaults late floor
      (store.effect caller (.findOrInsert defaults)).2
      (Function.update locals caller
        { locals caller with got := some settings }) := by
  simp only [AdminSettingsStore.effect]
  split
  · next document stored =>
      apply coherent.noteObtained _ coherent.bound
      rcases answer with same | ⟨_, found, same⟩
      · exact ⟨le_refl _, .inr same⟩
      · cases stored.symm.trans found
        exact same ▸ coherent.heldNow stored
  · next missing =>
      have written := coherent.write
        (some { id := store.revision + 1, config := defaults })
      apply written.noteObtained _ written.bound
      rcases answer with same | ⟨_, found, -⟩
      · exact ⟨le_refl _, .inr same⟩
      · cases missing.symm.trans found

/-- A command that goes through keeps the cache coherent, when no older value
is cached. -/
theorem Coherent.effect
    (coherent : Coherent defaults late floor store locals)
    {command : AdminSettingsCommand}
    (awaits : (caching defaults).awaits (locals caller) command)
    (fresh : ∀ settings revision, command = .storeCache settings →
      store.obtained caller = some revision → store.invalidated ≤ revision) :
    Coherent defaults late floor (store.effect caller command).2
      (Function.update locals caller ((caching defaults).after
        (locals caller) command (.ok (store.effect caller command).1))) := by
  cases command with
  | checkCache =>
      cases found : store.fresh with
      | none => simpa [AdminSettingsStore.effect, found, caching] using coherent
      | some cached =>
          have stored := (Option.filter_eq_some_iff.mp found).1
          obtain ⟨new, held⟩ := coherent.cached cached stored
          simpa [AdminSettingsStore.effect, found, caching] using
            coherent.noteObtained held new
  | storeCache settings =>
      simpa [caching] using coherent.storeCache awaits
        fun revision => fresh settings revision rfl
  | invalidateCache => exact coherent.invalidate awaits
  | findOrInsert settings =>
      cases awaits
      have answered : (store.effect caller (.findOrInsert defaults)).1 =
          store.document.map SystemSettingsDocument.config := by
        simp only [AdminSettingsStore.effect]
        split
        · next stored => rw [stored]; rfl
        · next missing => rw [missing]; rfl
      rw [answered]
      cases stored : store.document with
      | none => exact coherent.findOrInsert (.inl rfl)
      | some document =>
          exact coherent.findOrInsert (.inr ⟨document, stored, rfl⟩)
  | upsert settings => exact (coherent.write _).noteWrite awaits true
  | findOne =>
      have answered : (store.effect caller .findOne).1 = store.document := rfl
      rw [answered]
      cases stored : store.document with
      | none => exact coherent.findOne awaits true fun some => absurd stored some
      | some document => exact coherent.findOne awaits _ fun _ => rfl
  | delete id => exact coherent.delete id awaits true
  | insertAudit action =>
      simpa [AdminSettingsStore.effect, caching] using coherent

/-- So does one that raises, whether or not it took effect. -/
theorem Coherent.raises
    (coherent : Coherent defaults late floor store locals)
    {command : AdminSettingsCommand} {error : PyException}
    (awaits : (caching defaults).awaits (locals caller) command)
    (may : command.mayRaise error = true)
    (how : next = store.failure caller command ∨
      next = (store.effect caller command).2) :
    Coherent defaults late floor next
      (Function.update locals caller ((caching defaults).after
        (locals caller) command (.error error))) := by
  cases command with
  | checkCache | storeCache settings | invalidateCache => cases may
  | findOrInsert settings =>
      cases awaits
      rcases how with rfl | rfl
      · exact coherent.noteObtained ⟨le_refl _, .inr rfl⟩ coherent.bound
      · exact coherent.findOrInsert (.inl rfl)
  | upsert settings =>
      rcases how with rfl | rfl
      · simpa [AdminSettingsStore.failure, caching] using coherent
      · exact (coherent.write _).noteWrite awaits _
  | findOne =>
      rcases how with rfl | rfl
      · simpa [AdminSettingsStore.failure, caching] using coherent
      · exact coherent.findOne awaits _ fun _ => rfl
  | delete id =>
      rcases how with rfl | rfl
      · simpa [AdminSettingsStore.failure, caching] using coherent
      · exact coherent.delete id awaits _
  | insertAudit action =>
      rcases how with rfl | rfl <;>
        simpa [AdminSettingsStore.failure, AdminSettingsStore.effect, caching]
          using coherent

end Coherence

/-! ### The law over runs -/

section Runs

variable {settings : Settings} {state next final : AdminSettingsState}

/-- A load caches its settings only while nothing newer has invalidated the
cache since it got them. -/
def CachesFresh (state : AdminSettingsState) (move : Move Caller Outcome Nat) :
    Prop :=
  ∀ caller outcome settings revision, move = .caller caller outcome →
    state.awaited caller = some (.storeCache settings) →
      state.shared.obtained caller = some revision →
        state.shared.invalidated ≤ revision

/-- Coherence is a law of all interleavings. -/
theorem coherent_law (defaults : SystemSettings) (late : Caller) (floor : Nat)
    (calls : Caller → AdminSettingsCall) :
    (caching defaults).Law adminSettingsBackend CachesFresh
      (fun caller => Returned (calls caller))
      (Coherent defaults late floor) where
  performs state locals caller command outcome reply next obeyed coherent
      guarded awaited performed := by
    refine ⟨trivial, ?_⟩
    have awaits := obeyed.awaits awaited
    rcases Outcome.perform_cases performed with
      ⟨-, went⟩ | ⟨error, rfl, may, ⟨-, how⟩ | ⟨-, how⟩⟩
    · cases went
      exact coherent.effect awaits fun settings revision same noted =>
        guarded caller outcome settings revision rfl (same ▸ awaited) noted
    · exact coherent.raises awaits may (.inl how)
    · exact coherent.raises awaits may (.inr how)
  environment state locals duration next obeyed coherent _ happened := by
    cases happened
    exact ⟨coherent.cached, coherent.current, coherent.bound, coherent.above,
      fun caller => (coherent.placed caller).later
        ⟨le_refl _, le_refl _, fun _ _ => rfl⟩ rfl rfl⟩
  kills state locals caller next obeyed coherent _ lives killed := by
    cases killed
    refine ⟨{}, trivial, coherent.cached, coherent.current, coherent.bound,
      coherent.above, fun other => ?_⟩
    by_cases same : other = caller
    · subst same
      rw [Function.update_self]
      exact placed_start
    · rw [Function.update_of_ne same]
      exact coherent.placed other

private theorem coherent_start (document : Option SystemSettingsDocument)
    (defaults : SystemSettings) (late : Caller)
    (calls : Caller → AdminSettingsCall) :
    Coherent defaults late 0 (start settings document calls).shared
      fun _ => {} where
  cached cached stored := by cases stored
  current := rfl
  bound := le_refl _
  above := le_refl _
  placed caller := placed_start

/-- Once an update or a reset has returned, a later call that gets the
settings gets them as of that change of the database or of a later one: what
the database held then, or the defaults when it could not be read.  This holds
in every run in which a load caches its settings only while nothing newer has
invalidated the cache since it got them. -/
theorem later_calls_see_updates {document : Option SystemSettingsDocument}
    {calls : Caller → AdminSettingsCall}
    {first second : List (Move Caller Outcome Nat)}
    (fresh : adminSettingsBackend.machine.Along CachesFresh
      (start settings document calls) (first ++ second))
    (reached : adminSettingsBackend.machine.run
      (start settings document calls) first = some state)
    (goesOn : adminSettingsBackend.machine.run state second = some final)
    {updater late : Caller} {result value : SystemSettings}
    (updates : calls updater ≠ .getEffectiveSettings)
    (returned : state.running updater = some (.done (.ok result)))
    (later : ∀ move ∈ first, System.Move.about? move ≠ some late)
    (loads : calls late = .getEffectiveSettings)
    (loaded : final.running late = some (.done (.ok value))) :
    ∃ change revision, state.shared.wrote updater = some change ∧
      final.shared.obtained late = some revision ∧ change ≤ revision ∧
      Held settings.tomlDefaults final.shared revision value := by
  obtain ⟨early, rest⟩ :=
    adminSettingsBackend.machine.along_append reached fresh
  have obeyed : (caching settings.tomlDefaults).Obeyed (fun _ => {})
      (fun caller => Returned (calls caller)) (start settings document calls) :=
    { follows := by
        intro caller coroutine runs
        cases runs
        exact follows_run settings (calls caller)
      gone := fun _ _ => trivial }
  obtain ⟨middle, coherent, obeyedThere, untouched⟩ :=
    (coherent_law settings.tomlDefaults late 0 calls).run obeyed
      (coherent_start document _ late calls) early reached
  have told : (middle updater).told = true := by
    have ended := obeyedThere.ended returned result rfl
    rwa [if_neg updates] at ended
  obtain ⟨change, wrote, low⟩ := (coherent.placed updater).told told
  -- From here on the floor is the change that was invalidated.
  have raised : Coherent settings.tomlDefaults late change state.shared
      middle := by
    refine ⟨coherent.cached, coherent.current, coherent.bound, low,
      fun caller => ⟨?_, (coherent.placed caller).wrote,
        (coherent.placed caller).told⟩⟩
    intro got has
    obtain ⟨revision, noted, held, -⟩ := (coherent.placed caller).got got has
    refine ⟨revision, noted, held, ?_⟩
    rintro rfl
    rw [untouched caller later] at has
    cases has
  obtain ⟨locals, coherentAfter, obeyedAfter, -⟩ :=
    (coherent_law settings.tomlDefaults late change calls).run obeyedThere
      raised rest goesOn
  have got : (locals late).got = some value := by
    have ended := obeyedAfter.ended loaded value rfl
    rwa [if_pos loads] at ended
  obtain ⟨revision, noted, held, high⟩ := (coherentAfter.placed late).got value got
  exact ⟨change, revision, wrote, noted, high rfl, held⟩

/-- Check that a step caches no older settings. -/
def cachesFresh? (state : AdminSettingsState) : Move Caller Outcome Nat → Bool
  | .caller caller _ =>
      match state.awaited caller, state.shared.obtained caller with
      | some (.storeCache _), some revision =>
          decide (state.shared.invalidated ≤ revision)
      | _, _ => true
  | _ => true

private theorem cachesFresh_of_check {move : Move Caller Outcome Nat}
    (checked : cachesFresh? state move = true) : CachesFresh state move := by
  rintro caller outcome settings revision rfl awaits noted
  simpa [cachesFresh?, awaits, noted] using checked

/-- The settings before and after an update, with other limits of running
executions. -/
def before : SystemSettings := { maxConcurrentExecutions := 10 }

def after : SystemSettings := { maxConcurrentExecutions := 20 }

/-- One call updates the settings, the others load them. -/
def updateAndLoad : Caller → AdminSettingsCall
  | 1 => .updateSystemSettings after
  | _ => .getEffectiveSettings

/-- Some steps of a call. -/
def steps (caller : Caller) (count : Nat) : List (Move Caller Outcome Nat) :=
  List.replicate count (.caller caller .succeeds)

/-- The document with the settings before the update. -/
def stored : Option SystemSettingsDocument :=
  some { id := 0, config := before }

theorem later_calls_see_updates_load :
    ∃ state final,
      adminSettingsBackend.machine.run (start {} stored updateAndLoad)
        (steps 1 3) = some state ∧
      adminSettingsBackend.machine.run state (steps 2 3) = some final ∧
      ∃ change revision, state.shared.wrote 1 = some change ∧
        final.shared.obtained 2 = some revision ∧ change ≤ revision ∧
        Held ({} : Settings).tomlDefaults final.shared revision after := by
  have checked : adminSettingsBackend.machine.checkAlong cachesFresh?
      (start {} stored updateAndLoad) (steps 1 3 ++ steps 2 3) = true := by
    decide +kernel
  have fresh := adminSettingsBackend.machine.along_of_check
    (fun _ _ => cachesFresh_of_check) checked
  have later : ∀ move ∈ steps 1 3, System.Move.about? move ≠ some 2 := by
    simp [steps, System.Move.about?]
  exact ⟨_, _, rfl, rfl, later_calls_see_updates fresh rfl rfl
    (by decide) rfl later rfl rfl⟩

/-- A load that is under way caches the settings before the update after the
update has returned, and a later call gets them. -/
theorem stale_load_cached :
    ∃ state final,
      adminSettingsBackend.machine.run (start {} stored updateAndLoad)
        (steps 0 2 ++ steps 1 3) = some state ∧
      adminSettingsBackend.machine.run state (steps 0 1 ++ steps 2 1) =
        some final ∧
      state.running 1 = some (.done (.ok after)) ∧
      state.running 2 =
        some ((updateAndLoad 2).run {}) ∧
      final.running 2 = some (.done (.ok before)) ∧
      state.shared.wrote 1 = some 1 ∧ final.shared.obtained 2 = some 0 :=
  ⟨_, _, rfl, rfl, rfl, rfl, rfl, rfl, rfl⟩

end Runs

end SettingsCache

end Integr8s
