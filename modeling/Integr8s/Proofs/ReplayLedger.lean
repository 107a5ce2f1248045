/-
Module: Integr8s.Proofs.ReplayLedger
Purpose: The accounts of the replay sessions and what their workers know of
  them, and what keeps both in order: changes of the events, and what the API
  and a worker do to sessions, cursors and events.
Trusted boundary: none
Main exports: ReplayLedger.Accounts, ReplayLedger.Tracks,
  ReplayLedger.Balanced, ReplayLedger.Balanced.events,
  ReplayLedger.Balanced.createSession, ReplayLedger.Balanced.readCursor,
  ReplayLedger.Balanced.saves
-/
import Integr8s.Proofs.ReplaySteps

namespace Integr8s

namespace ReplayLedger

open AdminEventsService (maxEvents)
open ReplaySteps

/-- The last change of the events in the time of a session: the one as of which
it ended, or the last one. -/
def till (store : ReplayStore) (sessionId : ReplaySessionId) : Nat :=
  (store.log.closedAt sessionId).getD store.events.epoch

/-- The accounts of a stored session.  Its time begins when its events are
counted. -/
structure Accounts (store : ReplayStore) (session : ReplaySessionDocument) :
    Prop where
  capped : session.config.maxEvents = maxEvents
  small : session.totalEvents ≤ maxEvents
  total : session.totalEvents =
    ((store.events.past (store.log.basis session.sessionId)).filter
      session.config.filter.finds).length
  period : store.log.basis session.sessionId ≤ till store session.sessionId
  within : session.accounted ≤
    min maxEvents (store.log.reads session.sessionId).length
  reading : LiveCursor.Reading store.events session.config.filter.finds
    (store.log.basis session.sessionId) (till store session.sessionId)
    (store.log.reads session.sessionId)
  once : (store.log.sent session.sessionId).Sublist
    ((store.log.reads session.sessionId).map fun doc => doc.eventId)
  scheduled : session.status = .scheduled → session.accounted = 0 ∧
    store.log.reads session.sessionId = [] ∧
    store.log.sent session.sessionId = []
  completed : session.status = .completed →
    session.accounted =
        min maxEvents (store.log.reads session.sessionId).length ∧
      ((store.log.reads session.sessionId).length < maxEvents →
        ∀ doc, session.config.filter.finds doc = true →
          store.events.Throughout (store.log.basis session.sessionId)
            (till store session.sessionId) doc →
              doc ∈ store.log.reads session.sessionId)
  unfinished : session.status.isTerminal = false →
    store.log.closedAt session.sessionId = none

/-- What a worker knows of the session that it runs is so. -/
structure Tracks (store : ReplayStore) (caller : Caller) (serving : Serving) :
    Prop where
  marked : store.log.serving caller = some serving.session.sessionId
  stored : ∃ session ∈ store.sessions, session.status = .running ∧
    Same serving.session session
  noted : serving.reads <+: store.log.reads serving.session.sessionId
  exact : serving.broken = false →
    store.log.reads serving.session.sessionId = serving.reads
  counted : serving.session.accounted ≤ serving.reads.length
  capped : serving.session.accounted ≤ serving.session.config.maxEvents
  sent : (store.log.sent serving.session.sessionId).Sublist
    ((serving.reads.take (serving.session.accounted +
      if serving.published then 1 else 0)).map fun doc => doc.eventId)
  cursor : serving.opened = true → serving.broken = false →
    ∃ cursor, store.cursors caller = some cursor ∧
      cursor.selects = serving.session.config.filter.finds ∧
      store.log.basis serving.session.sessionId ≤ cursor.since ∧
      cursor.since ≤ store.events.epoch ∧ cursor.returned = serving.reads ∧
      LiveCursor.Reading store.events cursor.selects cursor.since
        store.events.epoch cursor.returned
  unopened : serving.opened = false → serving.reads = []
  done : serving.ended = true →
    ∀ doc, serving.session.config.filter.finds doc = true →
      store.events.Throughout
        (store.log.basis serving.session.sessionId) store.events.epoch doc →
          doc ∈ serving.reads

/-- What a worker knows is so, whatever it is about. -/
def Staged (store : ReplayStore) (caller : Caller) : Stage → Prop
  | .idle => True
  | .listed sessions => ∀ session ∈ sessions,
      session ∈ store.sessions ∧ session.status = .running
  | .claimed session => session ∈ store.sessions ∧ session.status = .scheduled
  | .serving serving => Tracks store caller serving

/-- Nothing has happened yet to a session with this id. -/
structure Blank (log : ReplayLog) (sessionId : ReplaySessionId) : Prop where
  reads : log.reads sessionId = []
  sent : log.sent sessionId = []
  unended : log.closedAt sessionId = none

/-- An id that was handed out for a session that does not exist yet. -/
structure Fresh (store : ReplayStore) (sessionId : ReplaySessionId) :
    Prop where
  taken : sessionId ∈ store.uuids
  unused : ∀ session ∈ store.sessions, session.sessionId ≠ sessionId
  blank : Blank store.log sessionId

/-- What a caller knows is so. -/
structure Placed (store : ReplayStore) (caller : Caller) (here : Progress) :
    Prop where
  counted : ∀ filter count, here.counted = some (filter, count) →
    store.log.countedAt caller ≤ store.events.epoch ∧
      count = ((store.events.past (store.log.countedAt caller)).filter
        filter.finds).length
  fresh : ∀ uuid, here.uuid = some uuid → Fresh store uuid
  up : here.up = true → store.worker = some caller
  down : here.up = false → here.stage = .idle
  staged : Staged store caller here.stage

/-- The law of the replays: events and sessions have ids of their own, the
accounts of every session are in order, and what the callers know is so. -/
structure Balanced (store : ReplayStore) (locals : Caller → Progress) :
    Prop where
  unique : ∀ epoch ≤ store.events.epoch,
    ((store.events.past epoch).map fun doc => doc.eventId).Nodup
  distinct : (store.sessions.map ReplaySessionDocument.sessionId).Nodup
  known : ∀ session ∈ store.sessions, session.sessionId ∈ store.uuids
  blank : ∀ sessionId, sessionId ∉ store.uuids → Blank store.log sessionId
  closed : ∀ sessionId epoch, store.log.closedAt sessionId = some epoch →
    epoch ≤ store.events.epoch
  accounts : ∀ session ∈ store.sessions, Accounts store session
  placed : ∀ caller, Placed store caller (locals caller)
  apart : ∀ caller other uuid, caller ≠ other →
    (locals caller).uuid = some uuid → (locals other).uuid ≠ some uuid

/-! ### What stays as it was -/

section Laws

variable {store next : ReplayStore} {locals : Caller → Progress}
  {caller : Caller} {session saved : ReplaySessionDocument}
  {serving : Serving}

/-- Two logs say the same of a session. -/
structure Agrees (log other : ReplayLog) (sessionId : ReplaySessionId) :
    Prop where
  basis : other.basis sessionId = log.basis sessionId
  closedAt : other.closedAt sessionId = log.closedAt sessionId
  reads : other.reads sessionId = log.reads sessionId
  sent : other.sent sessionId = log.sent sessionId

theorem Agrees.refl (log : ReplayLog) (sessionId : ReplaySessionId) :
    Agrees log log sessionId :=
  ⟨rfl, rfl, rfl, rfl⟩

theorem Agrees.blank {log other : ReplayLog} {sessionId : ReplaySessionId}
    (agrees : Agrees log other sessionId) (blank : Blank log sessionId) :
    Blank other sessionId :=
  ⟨agrees.reads.trans blank.reads, agrees.sent.trans blank.sent,
    agrees.closedAt.trans blank.unended⟩

/-- A session's time goes on with the events, or has ended. -/
theorem till_later (agrees : Agrees store.log next.log session.sessionId)
    (extended : store.events.Extends next.events) :
    till store session.sessionId ≤ till next session.sessionId := by
  unfold till
  rw [agrees.closedAt]
  cases store.log.closedAt session.sessionId with
  | none => exact extended.epoch
  | some epoch => exact Nat.le_refl _

theorem till_le (closed : ∀ sessionId epoch,
      store.log.closedAt sessionId = some epoch →
        epoch ≤ store.events.epoch) (sessionId : ReplaySessionId) :
    till store sessionId ≤ store.events.epoch := by
  unfold till
  cases ended : store.log.closedAt sessionId with
  | none => exact Nat.le_refl _
  | some epoch => exact closed sessionId epoch ended

/-- The accounts of a session to which nothing happens stay in order, whatever
becomes of the events. -/
theorem Accounts.later (accounts : Accounts store session)
    (agrees : Agrees store.log next.log session.sessionId)
    (extended : store.events.Extends next.events)
    (closed : ∀ sessionId epoch, store.log.closedAt sessionId = some epoch →
      epoch ≤ store.events.epoch) : Accounts next session := by
  have goesOn := till_later agrees extended
  have before := till_le closed session.sessionId
  constructor
  case capped => exact accounts.capped
  case small => exact accounts.small
  case total =>
    rw [agrees.basis, extended.past _ (accounts.period.trans before)]
    exact accounts.total
  case period =>
    rw [agrees.basis]
    exact accounts.period.trans goesOn
  case within =>
    rw [agrees.reads]
    exact accounts.within
  case reading =>
    rw [agrees.basis, agrees.reads]
    exact (accounts.reading.extends extended before).mono (Nat.le_refl _)
      goesOn
  case once =>
    rw [agrees.sent, agrees.reads]
    exact accounts.once
  case scheduled =>
    rw [agrees.sent, agrees.reads]
    exact accounts.scheduled
  case completed =>
    rw [agrees.basis, agrees.reads]
    intro status
    obtain ⟨all, complete⟩ := accounts.completed status
    refine ⟨all, fun less doc finds stays => ?_⟩
    exact complete less doc finds
      (extended.throughout (stays.mono (Nat.le_refl _) goesOn) before)
  case unfinished =>
    rw [agrees.closedAt]
    exact accounts.unfinished

/-! ### What happens around a session

Events are stored and expire, sessions of others change, and a worker may be
killed.  None of this takes back what a session has counted, read or sent. -/

/-- What may happen around a caller: the events change, sessions are created
and those that ended are dropped. -/
structure Around (store next : ReplayStore) (caller : Caller) : Prop where
  events : store.events.Extends next.events
  sessions : ∀ session ∈ store.sessions, session.status.isTerminal = false →
    session ∈ next.sessions
  agrees : ∀ session ∈ store.sessions,
    Agrees store.log next.log session.sessionId
  cursors : next.cursors caller = store.cursors caller
  serving : next.log.serving caller = store.log.serving caller

/-- What a worker knows of the session that it runs stays so. -/
theorem Tracks.later (tracks : Tracks store caller serving)
    (around : Around store next caller) : Tracks next caller serving := by
  obtain ⟨session, among, status, same⟩ := tracks.stored
  have agrees : Agrees store.log next.log serving.session.sessionId :=
    same.id ▸ around.agrees session among
  have stays := around.sessions session among (by simp [status,
    ReplayStatus.isTerminal])
  constructor
  case marked => exact around.serving.trans tracks.marked
  case stored => exact ⟨session, stays, status, same⟩
  case noted =>
    rw [agrees.reads]
    exact tracks.noted
  case exact =>
    rw [agrees.reads]
    exact tracks.exact
  case counted => exact tracks.counted
  case capped => exact tracks.capped
  case sent =>
    rw [agrees.sent]
    exact tracks.sent
  case cursor =>
    intro opened whole
    obtain ⟨cursor, has, selects, since, begun, returned, reading⟩ :=
      tracks.cursor opened whole
    exact ⟨cursor, around.cursors.trans has, selects, agrees.basis ▸ since,
      begun.trans around.events.epoch, returned,
      (reading.extends around.events (Nat.le_refl _)).mono (Nat.le_refl _)
        around.events.epoch⟩
  case unopened => exact tracks.unopened
  case done =>
    rw [agrees.basis]
    intro ended doc finds stays
    exact tracks.done ended doc finds (around.events.throughout
      (stays.mono (Nat.le_refl _) around.events.epoch) (Nat.le_refl _))

theorem Staged.later {stage : Stage} (staged : Staged store caller stage)
    (around : Around store next caller) : Staged next caller stage := by
  cases stage with
  | idle => trivial
  | listed sessions =>
      intro session member
      obtain ⟨among, status⟩ := staged session member
      exact ⟨around.sessions session among (by simp [status,
        ReplayStatus.isTerminal]), status⟩
  | claimed session =>
      obtain ⟨among, status⟩ := staged
      exact ⟨around.sessions session among (by simp [status,
        ReplayStatus.isTerminal]), status⟩
  | serving serving => exact Tracks.later staged around

/-- What a caller has counted stays so. -/
theorem counted_later {filter : ReplayFilter} {count : Nat}
    (events : store.events.Extends next.events)
    (countedAt : next.log.countedAt caller = store.log.countedAt caller)
    (counted : store.log.countedAt caller ≤ store.events.epoch ∧
      count = ((store.events.past (store.log.countedAt caller)).filter
        filter.finds).length) :
    next.log.countedAt caller ≤ next.events.epoch ∧
      count = ((next.events.past (next.log.countedAt caller)).filter
        filter.finds).length := by
  obtain ⟨before, same⟩ := counted
  rw [countedAt, events.past _ before]
  exact ⟨before.trans events.epoch, same⟩

theorem Placed.later {here : Progress} (placed : Placed store caller here)
    (around : Around store next caller)
    (countedAt : next.log.countedAt caller = store.log.countedAt caller)
    (worker : here.up = true → next.worker = store.worker)
    (fresh : ∀ uuid, here.uuid = some uuid → Fresh store uuid →
      Fresh next uuid) : Placed next caller here where
  counted filter count same :=
    counted_later around.events countedAt
      (placed.counted filter count same)
  fresh uuid same := fresh uuid same (placed.fresh uuid same)
  up up := (worker up).trans (placed.up up)
  down := placed.down
  staged := placed.staged.later around

/-- Changes of the events alone keep the law. -/
theorem Balanced.events (balanced : Balanced store locals)
    (sessions : next.sessions = store.sessions)
    (uuids : next.uuids = store.uuids) (worker : next.worker = store.worker)
    (cursors : next.cursors = store.cursors) (log : next.log = store.log)
    (extended : store.events.Extends next.events)
    (unique : ∀ epoch ≤ next.events.epoch,
      ((next.events.past epoch).map fun doc => doc.eventId).Nodup) :
    Balanced next locals := by
  have agrees : ∀ sessionId, Agrees store.log next.log sessionId := by
    intro sessionId
    rw [log]
    exact .refl _ _
  have around : ∀ caller, Around store next caller := by
    intro caller
    refine ⟨extended, fun session among _ => sessions ▸ among,
      fun session _ => agrees _, ?_, ?_⟩
    · rw [cursors]
    · rw [log]
  refine ⟨unique, sessions ▸ balanced.distinct, ?_, ?_, ?_, ?_, ?_,
    balanced.apart⟩
  · rw [sessions, uuids]
    exact balanced.known
  · rw [uuids, log]
    exact balanced.blank
  · intro sessionId epoch ended
    rw [log] at ended
    exact (balanced.closed sessionId epoch ended).trans extended.epoch
  · rw [sessions]
    exact fun session among => (balanced.accounts session among).later
      (agrees _) extended balanced.closed
  · intro caller
    apply (balanced.placed caller).later (around caller) (by rw [log])
      fun _ => worker
    rintro uuid - fresh
    refine ⟨uuids ▸ fresh.taken, sessions ▸ fresh.unused, ?_⟩
    exact (agrees uuid).blank fresh.blank

/-- Storing an event keeps the law. -/
theorem Balanced.insertEvent (balanced : Balanced store locals)
    (event : StoredEvent) : Balanced (store.insertEvent event) locals := by
  unfold ReplayStore.insertEvent
  split
  · exact balanced
  · next absent =>
      apply balanced.events
      case extended => exact Timeline.extends_change _ _
      case unique =>
        intro epoch low
        rcases Nat.le_succ_iff.mp low with before | rfl
        · rw [(Timeline.extends_change _ _).past epoch before]
          exact balanced.unique epoch before
        · rw [Timeline.past_change_self, List.map_append, List.map_singleton,
            ← List.concat_eq_append]
          apply List.Nodup.concat _ (balanced.unique _ (Nat.le_refl _))
          simpa [Timeline.current] using absent
      all_goals rfl

/-- Removing an event keeps the law. -/
theorem Balanced.removeEvent (balanced : Balanced store locals) (id : Nat) :
    Balanced (store.removeEvent id) locals := by
  unfold ReplayStore.removeEvent
  apply balanced.events
  case extended => exact Timeline.extends_change _ _
  case unique =>
    intro epoch low
    rcases Nat.le_succ_iff.mp low with before | rfl
    · rw [(Timeline.extends_change _ _).past epoch before]
      exact balanced.unique epoch before
    · rw [Timeline.past_change_self]
      exact (balanced.unique _ (Nat.le_refl _)).sublist
        (List.filter_sublist.map _)
  all_goals rfl

/-- A session that ended is dropped. -/
theorem Balanced.dropSession (balanced : Balanced store locals)
    (sessionId : ReplaySessionId) :
    Balanced { store with
      sessions := store.sessions.filter fun session =>
        session.sessionId != sessionId || !session.status.isTerminal }
      locals where
  unique := balanced.unique
  distinct := balanced.distinct.sublist (List.filter_sublist.map _)
  known session among := balanced.known session (List.mem_of_mem_filter among)
  blank := balanced.blank
  closed := balanced.closed
  accounts session among :=
    (balanced.accounts session (List.mem_of_mem_filter among)).later
      (.refl _ _) (.refl _) balanced.closed
  placed caller := by
    apply (balanced.placed caller).later
    · refine ⟨.refl _, fun session among goesOn => ?_, fun _ _ => .refl _ _,
        rfl, rfl⟩
      exact List.mem_filter.mpr ⟨among, by simp [goesOn]⟩
    · rfl
    · exact fun _ => rfl
    · rintro uuid - fresh
      exact ⟨fresh.taken, fun session among => fresh.unused session
        (List.mem_of_mem_filter among), fresh.blank⟩
  apart := balanced.apart

/-- The law after a step of a caller that leaves the events alone. -/
theorem Balanced.moved {there : Progress} (balanced : Balanced store locals)
    (events : next.events = store.events)
    (distinct : (next.sessions.map ReplaySessionDocument.sessionId).Nodup)
    (known : ∀ session ∈ next.sessions, session.sessionId ∈ next.uuids)
    (blank : ∀ sessionId, sessionId ∉ next.uuids → Blank next.log sessionId)
    (closed : ∀ sessionId epoch, next.log.closedAt sessionId = some epoch →
      epoch ≤ next.events.epoch)
    (accounts : ∀ session ∈ next.sessions, Accounts next session)
    (others : ∀ other, other ≠ caller → Placed next other (locals other))
    (here : Placed next caller there)
    (apart : ∀ other uuid, other ≠ caller → there.uuid = some uuid →
      (locals other).uuid ≠ some uuid) :
    Balanced next (Function.update locals caller there) where
  unique := by
    rw [events]
    exact balanced.unique
  distinct := distinct
  known := known
  blank := blank
  closed := closed
  accounts := accounts
  placed other := by
    by_cases same : other = caller
    · subst same
      rw [Function.update_self]
      exact here
    · rw [Function.update_of_ne same]
      exact others other same
  apart first second uuid different has := by
    by_cases isFirst : first = caller
    · subst isFirst
      rw [Function.update_self] at has
      rw [Function.update_of_ne different.symm]
      exact apart second uuid different.symm has
    · rw [Function.update_of_ne isFirst] at has
      by_cases isSecond : second = caller
      · subst isSecond
        rw [Function.update_self]
        exact fun same => apart first uuid isFirst same has
      · rw [Function.update_of_ne isSecond]
        exact balanced.apart first second uuid different has

/-- A step that only its caller learns from. -/
theorem Balanced.learns {there : Progress} (balanced : Balanced store locals)
    (here : Placed store caller there)
    (uuid : there.uuid = (locals caller).uuid ∨ there.uuid = none) :
    Balanced store (Function.update locals caller there) := by
  apply balanced.moved rfl balanced.distinct balanced.known balanced.blank
    balanced.closed balanced.accounts (fun other _ => balanced.placed other)
    here
  intro other id different has
  rcases uuid with same | none
  · exact balanced.apart caller other id different.symm (same ▸ has)
  · cases none.symm.trans has

/-- A step of which its caller keeps nothing. -/
theorem Balanced.stays (balanced : Balanced store locals) :
    Balanced store (Function.update locals caller (locals caller)) := by
  rw [Function.update_eq_self]
  exact balanced

/-- A caller forgets what it has counted. -/
theorem Balanced.forgets (balanced : Balanced store locals) :
    Balanced store (Function.update locals caller
      { locals caller with counted := none }) := by
  have placed := balanced.placed caller
  apply balanced.learns
  case here =>
    exact ⟨nofun, placed.fresh, placed.up, placed.down, placed.staged⟩
  case uuid => exact .inl rfl

/-- A killed caller knows nothing any more. -/
theorem Balanced.killed (balanced : Balanced store locals) (caller : Caller) :
    Balanced (store.stopped caller) (Function.update locals caller {}) := by
  apply @Balanced.moved store _ _ _ {} balanced
  case events => rfl
  case distinct => exact balanced.distinct
  case known => exact balanced.known
  case blank => exact balanced.blank
  case closed => exact balanced.closed
  case accounts =>
    exact fun session among => (balanced.accounts session among).later
      (.refl _ _) (.refl _) balanced.closed
  case others =>
    intro other different
    have placed := balanced.placed other
    apply placed.later
    · exact ⟨.refl _, fun _ among _ => among, fun _ _ => .refl _ _, rfl, rfl⟩
    · rfl
    · intro up
      have works := placed.up up
      simp only [ReplayStore.stopped, works]
      rw [if_neg]
      simpa using different
    · rintro uuid - fresh
      exact ⟨fresh.taken, fresh.unused, fresh.blank⟩
  case here =>
    exact ⟨nofun, nofun, nofun, fun _ => rfl, trivial⟩
  case apart => exact nofun

/-! ### What the callers do -/

/-- A worker process starts while no other is up. -/
theorem Balanced.start (balanced : Balanced store locals)
    (none : store.worker = none) :
    Balanced { store with worker := some caller }
      (Function.update locals caller { locals caller with up := true }) := by
  have around : ∀ other, Around store
      { store with worker := some caller } other := fun other =>
    ⟨.refl _, fun _ among _ => among, fun _ _ => .refl _ _, rfl, rfl⟩
  have fresh : ∀ uuid, Fresh store uuid →
      Fresh { store with worker := some caller } uuid :=
    fun uuid fresh => ⟨fresh.taken, fresh.unused, fresh.blank⟩
  have placed := balanced.placed caller
  apply balanced.moved
  case events => rfl
  case distinct => exact balanced.distinct
  case known => exact balanced.known
  case blank => exact balanced.blank
  case closed => exact balanced.closed
  case accounts =>
    exact fun session among => (balanced.accounts session among).later
      (.refl _ _) (.refl _) balanced.closed
  case others =>
    intro other _
    apply (balanced.placed other).later (around other) rfl
    · intro up
      cases none.symm.trans ((balanced.placed other).up up)
    · exact fun uuid _ => fresh uuid
  case here =>
    exact ⟨placed.counted, fun uuid same => fresh uuid (placed.fresh uuid same),
      fun _ => rfl, nofun, placed.staged.later (around caller)⟩
  case apart =>
    exact fun other uuid different =>
      balanced.apart caller other uuid different.symm

/-- A new id is handed out. -/
theorem Balanced.uuid (balanced : Balanced store locals) {uuid : String}
    (new : uuid ∉ store.uuids) :
    Balanced { store with uuids := uuid :: store.uuids }
      (Function.update locals caller
        { locals caller with uuid := some uuid }) := by
  have around : ∀ other, Around store
      { store with uuids := uuid :: store.uuids } other := fun other =>
    ⟨.refl _, fun _ among _ => among, fun _ _ => .refl _ _, rfl, rfl⟩
  have fresh : ∀ id, Fresh store id →
      Fresh { store with uuids := uuid :: store.uuids } id := fun id fresh =>
    ⟨List.mem_cons_of_mem _ fresh.taken, fresh.unused, fresh.blank⟩
  have placed := balanced.placed caller
  apply balanced.moved
  case events => rfl
  case distinct => exact balanced.distinct
  case known =>
    exact fun session among =>
      List.mem_cons_of_mem _ (balanced.known session among)
  case blank =>
    exact fun id absent => balanced.blank id fun taken =>
      absent (List.mem_cons_of_mem _ taken)
  case closed => exact balanced.closed
  case accounts =>
    exact fun session among => (balanced.accounts session among).later
      (.refl _ _) (.refl _) balanced.closed
  case others =>
    intro other _
    exact (balanced.placed other).later (around other) rfl (fun _ => rfl)
      fun id _ => fresh id
  case here =>
    refine ⟨placed.counted, ?_, placed.up, placed.down,
      placed.staged.later (around caller)⟩
    rintro id ⟨⟩
    refine ⟨by simp, fun session among same => ?_, balanced.blank uuid new⟩
    exact new (same ▸ balanced.known session among)
  case apart =>
    rintro other id _ ⟨⟩ has
    exact new ((balanced.placed other).fresh uuid has).taken

/-- The API counts the events that a filter finds. -/
theorem Balanced.countEvents (balanced : Balanced store locals)
    (filter : ReplayFilter) :
    Balanced { store with
      log := { store.log with
        countedAt := Function.update store.log.countedAt caller
          store.events.epoch } }
      (Function.update locals caller
        { locals caller with
          counted := some (filter, (store.found filter).length) }) := by
  have placed := balanced.placed caller
  have around : ∀ other, Around store { store with
      log := { store.log with
        countedAt := Function.update store.log.countedAt caller
          store.events.epoch } } other := fun other =>
    ⟨.refl _, fun _ among _ => among, fun _ _ => ⟨rfl, rfl, rfl, rfl⟩, rfl,
      rfl⟩
  have fresh : ∀ uuid, Fresh store uuid → Fresh { store with
      log := { store.log with
        countedAt := Function.update store.log.countedAt caller
          store.events.epoch } } uuid :=
    fun uuid fresh => ⟨fresh.taken, fresh.unused, fresh.blank.reads,
      fresh.blank.sent, fresh.blank.unended⟩
  apply balanced.moved
  case events => rfl
  case distinct => exact balanced.distinct
  case known => exact balanced.known
  case blank =>
    exact fun id absent => ⟨(balanced.blank id absent).reads,
      (balanced.blank id absent).sent, (balanced.blank id absent).unended⟩
  case closed => exact balanced.closed
  case accounts =>
    exact fun session among => (balanced.accounts session among).later
      ⟨rfl, rfl, rfl, rfl⟩ (.refl _) balanced.closed
  case others =>
    intro other different
    exact (balanced.placed other).later (around other)
      (Function.update_of_ne different ..) (fun _ => rfl) fun id _ => fresh id
  case here =>
    refine ⟨?_, fun uuid same => fresh uuid (placed.fresh uuid same),
      placed.up, placed.down, placed.staged.later (around caller)⟩
    rintro other count ⟨⟩
    dsimp only
    rw [Function.update_self]
    exact ⟨Nat.le_refl _, rfl⟩
  case apart =>
    exact fun other uuid different =>
      balanced.apart caller other uuid different.symm

/-- The store after the API created a session. -/
def created (store : ReplayStore) (caller : Caller)
    (session : ReplaySessionDocument) : ReplayStore :=
  { store with
    sessions := store.sessions ++ [session]
    log := { store.log with
      basis := Function.update store.log.basis session.sessionId
        (store.log.countedAt caller) } }

/-- The accounts of a new session. -/
theorem accounts_created (balanced : Balanced store locals)
    (counted : (locals caller).counted =
      some (session.config.filter, session.totalEvents))
    (uuid : (locals caller).uuid = some session.sessionId)
    (capped : session.config.maxEvents = maxEvents)
    (small : session.totalEvents ≤ maxEvents)
    (status : session.status = .scheduled) (begins : session.accounted = 0) :
    Accounts (created store caller session) session := by
  have placed := balanced.placed caller
  obtain ⟨before, total⟩ := placed.counted _ _ counted
  have blank := (placed.fresh _ uuid).blank
  have basis : (created store caller session).log.basis session.sessionId =
      store.log.countedAt caller := Function.update_self ..
  have reads : (created store caller session).log.reads session.sessionId =
      [] := blank.reads
  have sent : (created store caller session).log.sent session.sessionId = [] :=
    blank.sent
  have whole : till (created store caller session) session.sessionId =
      store.events.epoch := by
    show (store.log.closedAt session.sessionId).getD store.events.epoch = _
    rw [blank.unended]
    rfl
  refine ⟨capped, small, ?_, ?_, ?_, ?_, ?_, ?_, ?_, fun _ => blank.unended⟩
  · rw [basis]
    exact total
  · rw [basis, whole]
    exact before
  · rw [begins]
    exact Nat.zero_le _
  · rw [reads]
    exact LiveCursor.reading_nil
  · rw [sent, reads]
    exact List.Sublist.refl _
  · exact fun _ => ⟨begins, reads, sent⟩
  · intro completed
    cases status.symm.trans completed

theorem Balanced.createSession (balanced : Balanced store locals)
    (counted : (locals caller).counted =
      some (session.config.filter, session.totalEvents))
    (uuid : (locals caller).uuid = some session.sessionId)
    (capped : session.config.maxEvents = maxEvents)
    (small : session.totalEvents ≤ maxEvents)
    (status : session.status = .scheduled) (begins : session.accounted = 0) :
    Balanced (created store caller session)
      (Function.update locals caller { locals caller with uuid := none }) := by
  have placed := balanced.placed caller
  have fresh := placed.fresh _ uuid
  have agrees : ∀ other, other ≠ session.sessionId →
      Agrees store.log (created store caller session).log other :=
    fun other different => ⟨Function.update_of_ne different .., rfl, rfl, rfl⟩
  have around : ∀ other, Around store (created store caller session) other :=
    fun other => ⟨.refl _, fun _ among _ => List.mem_append_left _ among,
      fun old among => agrees _ (fresh.unused old among), rfl, rfl⟩
  apply balanced.moved
  case events => rfl
  case distinct =>
    simp only [created, List.map_append, List.map_singleton]
    rw [← List.concat_eq_append]
    apply List.Nodup.concat _ balanced.distinct
    intro taken
    obtain ⟨old, among, same⟩ := List.mem_map.mp taken
    exact fresh.unused old among same
  case known =>
    intro other among
    rcases List.mem_append.mp among with old | new
    · exact balanced.known other old
    · cases List.mem_singleton.mp new
      exact fresh.taken
  case blank =>
    exact fun id absent => ⟨(balanced.blank id absent).reads,
      (balanced.blank id absent).sent, (balanced.blank id absent).unended⟩
  case closed => exact balanced.closed
  case accounts =>
    intro other among
    rcases List.mem_append.mp among with old | new
    · exact (balanced.accounts other old).later
        (agrees _ (fresh.unused other old)) (.refl _) balanced.closed
    · cases List.mem_singleton.mp new
      exact accounts_created balanced counted uuid capped small status begins
  case others =>
    intro other different
    apply (balanced.placed other).later (around other) rfl fun _ => rfl
    intro id has stays
    refine ⟨stays.taken, fun old among same => ?_, stays.blank.reads,
      stays.blank.sent, stays.blank.unended⟩
    rcases List.mem_append.mp among with before | new
    · exact stays.unused old before same
    · cases List.mem_singleton.mp new
      exact balanced.apart caller other _ different.symm uuid (same ▸ has)
  case here =>
    exact ⟨placed.counted, nofun, placed.up, placed.down,
      placed.staged.later (around caller)⟩
  case apart => exact nofun

/-- A worker's step: no other worker is up, so the others know nothing of what
changes. -/
theorem Balanced.works {stage : Stage} (balanced : Balanced store locals)
    (up : (locals caller).up = true) (events : next.events = store.events)
    (uuids : next.uuids = store.uuids) (worker : next.worker = store.worker)
    (countedAt : next.log.countedAt = store.log.countedAt)
    (ids : next.sessions.map ReplaySessionDocument.sessionId =
      store.sessions.map ReplaySessionDocument.sessionId)
    (closed : ∀ sessionId epoch, next.log.closedAt sessionId = some epoch →
      epoch ≤ next.events.epoch)
    (blank : ∀ sessionId,
      (∀ session ∈ store.sessions, session.sessionId ≠ sessionId) →
        Blank store.log sessionId → Blank next.log sessionId)
    (accounts : ∀ session ∈ next.sessions, Accounts next session)
    (staged : Staged next caller stage) :
    Balanced next
      (Function.update locals caller
        { locals caller with stage := stage }) := by
  have placed := balanced.placed caller
  have old : ∀ session ∈ next.sessions, ∃ other ∈ store.sessions,
      other.sessionId = session.sessionId := by
    intro session among
    have member : session.sessionId ∈
        next.sessions.map ReplaySessionDocument.sessionId :=
      List.mem_map_of_mem among
    rw [ids] at member
    exact List.mem_map.mp member
  have fresh : ∀ uuid, Fresh store uuid → Fresh next uuid := by
    intro uuid fresh
    refine ⟨uuids ▸ fresh.taken, fun session among same => ?_,
      blank uuid fresh.unused fresh.blank⟩
    obtain ⟨other, before, id⟩ := old session among
    exact fresh.unused other before (id.trans same)
  have extended : store.events.Extends next.events := by
    rw [events]
    exact .refl _
  apply balanced.moved events
  case distinct =>
    rw [ids]
    exact balanced.distinct
  case known =>
    intro session among
    obtain ⟨other, before, id⟩ := old session among
    rw [uuids, ← id]
    exact balanced.known other before
  case blank =>
    intro id absent
    rw [uuids] at absent
    apply blank id _ (balanced.blank id absent)
    exact fun session among same =>
      absent (same ▸ balanced.known session among)
  case closed => exact closed
  case accounts => exact accounts
  case others =>
    intro other different
    have stands := balanced.placed other
    have idle : (locals other).up = false := by
      rw [Bool.eq_false_iff]
      intro works
      have same := (stands.up works).symm.trans (placed.up up)
      exact different (Option.some.inj same)
    refine ⟨fun filter count same => ?_, fun uuid same =>
      fresh uuid (stands.fresh uuid same), fun works => ?_, stands.down, ?_⟩
    · exact counted_later extended (by rw [countedAt])
        (stands.counted filter count same)
    · cases idle.symm.trans works
    · rw [stands.down idle]
      trivial
  case here =>
    refine ⟨fun filter count same => ?_, fun uuid same =>
      fresh uuid (placed.fresh uuid same), fun _ =>
        worker.trans (placed.up up), fun down => ?_, staged⟩
    · exact counted_later extended (by rw [countedAt])
        (placed.counted filter count same)
    · cases up.symm.trans down
  case apart =>
    exact fun other uuid different =>
      balanced.apart caller other uuid different.symm

/-- The accounts of a running session after something was read or sent. -/
theorem Accounts.goesOn (accounts : Accounts store session)
    (status : session.status = .running)
    (events : next.events = store.events)
    (basis : next.log.basis session.sessionId =
      store.log.basis session.sessionId)
    (closedAt : next.log.closedAt session.sessionId =
      store.log.closedAt session.sessionId)
    (more : (store.log.reads session.sessionId).length ≤
      (next.log.reads session.sessionId).length)
    (reading : LiveCursor.Reading store.events session.config.filter.finds
      (store.log.basis session.sessionId) store.events.epoch
      (next.log.reads session.sessionId))
    (once : (next.log.sent session.sessionId).Sublist
      ((next.log.reads session.sessionId).map fun doc => doc.eventId)) :
    Accounts next session := by
  have unended := accounts.unfinished (by simp [status, ReplayStatus.isTerminal])
  have whole : till store session.sessionId = store.events.epoch := by
    unfold till
    rw [unended]
    rfl
  have same : till next session.sessionId = till store session.sessionId := by
    unfold till
    rw [closedAt, events]
  refine ⟨accounts.capped, accounts.small, ?_, ?_, ?_, ?_, once, ?_, ?_,
    fun _ => closedAt.trans unended⟩
  · rw [events, basis]
    exact accounts.total
  · rw [basis, same]
    exact accounts.period
  · exact accounts.within.trans (min_le_min_left _ more)
  · rw [events, basis, same, whole]
    exact reading
  · intro scheduled
    cases status.symm.trans scheduled
  · intro completed
    cases status.symm.trans completed

/-- The stored session that a worker runs is the only one with its id. -/
theorem Tracks.unique (tracks : Tracks store caller serving)
    (distinct : (store.sessions.map ReplaySessionDocument.sessionId).Nodup)
    (among : session ∈ store.sessions)
    (same : session.sessionId = serving.session.sessionId) :
    session.status = .running ∧ Same serving.session session := by
  obtain ⟨stored, there, status, agree⟩ := tracks.stored
  have equal : session = stored :=
    List.inj_on_of_nodup_map distinct among there (same.trans agree.id)
  subst equal
  exact ⟨status, agree⟩

/-- What was sent was read before. -/
theorem Tracks.once (tracks : Tracks store caller serving) :
    (store.log.sent serving.session.sessionId).Sublist
      ((store.log.reads serving.session.sessionId).map
        fun doc => doc.eventId) :=
  tracks.sent.trans (((List.take_sublist _ _).trans
    tracks.noted.sublist).map _)

/-- An event is sent for the session that its worker runs. -/
theorem Balanced.publish (balanced : Balanced store locals)
    (up : (locals caller).up = true)
    (stage : (locals caller).stage = .serving serving)
    (unsent : serving.published = false) {doc : EventDocument}
    (read : serving.reads[serving.session.accounted]? = some doc) :
    Balanced { store with
        log := ReplayStore.noteSent store.log caller doc.eventId }
      (Function.update locals caller
        { locals caller with
          stage := .serving { serving with published := true } }) := by
  have tracks : Tracks store caller serving := by
    have staged := (balanced.placed caller).staged
    rwa [stage] at staged
  have noted : ReplayStore.noteSent store.log caller doc.eventId =
      { store.log with
        sent := Function.update store.log.sent serving.session.sessionId
          (store.log.sent serving.session.sessionId ++ [doc.eventId]) } := by
    simp only [ReplayStore.noteSent, tracks.marked]
  rw [noted]
  have tracksOn : Tracks { store with
      log := { store.log with
        sent := Function.update store.log.sent serving.session.sessionId
          (store.log.sent serving.session.sessionId ++ [doc.eventId]) } }
      caller { serving with published := true } := by
    refine ⟨tracks.marked, tracks.stored, tracks.noted, tracks.exact,
      tracks.counted, tracks.capped, ?_, tracks.cursor, tracks.unopened,
      tracks.done⟩
    have before := tracks.sent
    simp only [unsent, Bool.false_eq_true, if_false, Nat.add_zero] at before
    simp only [Function.update_self, if_true]
    rw [List.take_add_one, read, List.map_append]
    exact before.append (List.Sublist.refl _)
  apply balanced.works up
  case events => rfl
  case uuids => rfl
  case worker => rfl
  case countedAt => rfl
  case ids => rfl
  case closed => exact balanced.closed
  case blank =>
    intro id unused blank
    refine ⟨blank.reads, ?_, blank.unended⟩
    obtain ⟨session, among, -, same⟩ := tracks.stored
    have different : id ≠ serving.session.sessionId := by
      rintro rfl
      exact unused session among same.id.symm
    exact (Function.update_of_ne different ..).trans blank.sent
  case accounts =>
    intro session among
    have accounts := balanced.accounts session among
    by_cases same : session.sessionId = serving.session.sessionId
    · obtain ⟨status, agree⟩ :=
        tracks.unique balanced.distinct among same
      have once := tracksOn.once
      rw [← same] at once ⊢
      have unended := accounts.unfinished
        (by simp [status, ReplayStatus.isTerminal])
      have reading := accounts.reading
      unfold till at reading
      rw [unended] at reading
      exact accounts.goesOn status rfl rfl rfl (Nat.le_refl _) reading once
    · exact accounts.later
        ⟨rfl, rfl, rfl, Function.update_of_ne same ..⟩ (.refl _)
        balanced.closed
  case staged => exact tracksOn

/-- The time of a session that a worker runs has begun. -/
theorem Tracks.period (tracks : Tracks store caller serving)
    (balanced : Balanced store locals) :
    store.log.basis serving.session.sessionId ≤ store.events.epoch := by
  obtain ⟨session, among, -, same⟩ := tracks.stored
  rw [same.id]
  exact (balanced.accounts session among).period.trans
    (till_le balanced.closed _)

/-! ### The cursor -/

/-- A worker opens the cursor on the events of its session. -/
theorem Balanced.openCursor (balanced : Balanced store locals)
    (up : (locals caller).up = true)
    (stage : (locals caller).stage = .serving serving)
    (unopened : serving.opened = false) :
    Balanced { store with
        cursors := Function.update store.cursors caller
          (some
            { since := store.events.epoch
              selects := serving.session.config.filter.finds }) }
      (Function.update locals caller
        { locals caller with
          stage := .serving { serving with opened := true } }) := by
  have tracks : Tracks store caller serving := by
    have staged := (balanced.placed caller).staged
    rwa [stage] at staged
  have period := tracks.period balanced
  apply balanced.works up
  case events => rfl
  case uuids => rfl
  case worker => rfl
  case countedAt => rfl
  case ids => rfl
  case closed => exact balanced.closed
  case blank => exact fun _ _ => id
  case accounts =>
    exact fun session among => (balanced.accounts session among).later
      (.refl _ _) (.refl _) balanced.closed
  case staged =>
    refine ⟨tracks.marked, tracks.stored, tracks.noted, tracks.exact,
      tracks.counted, tracks.capped, tracks.sent, fun _ _ => ?_, nofun,
      tracks.done⟩
    refine ⟨_, Function.update_self .., rfl, period, Nat.le_refl _,
      (tracks.unopened unopened).symm, LiveCursor.reading_nil⟩

/-- The store after a worker has read something for a session. -/
def readOn (store : ReplayStore) (caller : Caller)
    (sessionId : ReplaySessionId) (after : LiveCursor EventDocument)
    (read : List EventDocument) : ReplayStore :=
  { store with
    cursors := Function.update store.cursors caller (some after)
    log := { store.log with
      reads := Function.update store.log.reads sessionId
        (store.log.reads sessionId ++ read) } }

@[simp] theorem reads_readOn (sessionId : ReplaySessionId)
    (after : LiveCursor EventDocument) (read : List EventDocument) :
    (readOn store caller sessionId after read).log.reads sessionId =
      store.log.reads sessionId ++ read :=
  Function.update_self ..

/-- A worker reads with the cursor of its session. -/
theorem Balanced.readOn (balanced : Balanced store locals)
    (up : (locals caller).up = true)
    (stage : (locals caller).stage = .serving serving)
    {after : LiveCursor EventDocument} {read : List EventDocument}
    {known : Serving}
    (reading : LiveCursor.Reading store.events
      serving.session.config.filter.finds
      (store.log.basis serving.session.sessionId) store.events.epoch
      (store.log.reads serving.session.sessionId ++ read))
    (tracksOn : Tracks
      (readOn store caller serving.session.sessionId after read) caller known)
    (same : known.session = serving.session) :
    Balanced (readOn store caller serving.session.sessionId after read)
      (Function.update locals caller
        { locals caller with stage := .serving known }) := by
  have tracks : Tracks store caller serving := by
    have staged := (balanced.placed caller).staged
    rwa [stage] at staged
  apply balanced.works up
  case events => rfl
  case uuids => rfl
  case worker => rfl
  case countedAt => rfl
  case ids => rfl
  case closed => exact balanced.closed
  case blank =>
    intro id unused blank
    refine ⟨?_, blank.sent, blank.unended⟩
    obtain ⟨session, among, -, matched⟩ := tracks.stored
    have different : id ≠ serving.session.sessionId := by
      rintro rfl
      exact unused session among matched.id.symm
    exact (Function.update_of_ne different ..).trans blank.reads
  case accounts =>
    intro session among
    have accounts := balanced.accounts session among
    by_cases its : session.sessionId = serving.session.sessionId
    · obtain ⟨status, agree⟩ := tracks.unique balanced.distinct among its
      apply accounts.goesOn status
      case events => rfl
      case basis => rfl
      case closedAt => rfl
      case more =>
        rw [its, reads_readOn, List.length_append]
        exact Nat.le_add_right ..
      case reading =>
        rw [its, reads_readOn, ← agree.config]
        exact reading
      case once =>
        have once := tracksOn.once
        rw [same] at once
        rw [its]
        exact once
    · exact accounts.later
        ⟨rfl, rfl, Function.update_of_ne its .., rfl⟩ (.refl _)
        balanced.closed
  case staged => exact tracksOn

/-- What a read of a cursor notes. -/
theorem noteRead_of_marked (tracks : Tracks store caller serving)
    (after : LiveCursor EventDocument) (read : Option EventDocument) :
    { store with
        cursors := Function.update store.cursors caller (some after)
        log := ReplayStore.noteRead store.log caller read } =
      readOn store caller serving.session.sessionId after read.toList := by
  cases read with
  | none =>
      simp only [ReplayStore.noteRead, readOn, Option.toList_none,
        List.append_nil, Function.update_eq_self]
  | some doc =>
      simp only [ReplayStore.noteRead, readOn, tracks.marked,
        Option.toList_some]

/-- A read that goes through, whether or not its worker learns of it. -/
theorem Balanced.readCursor (balanced : Balanced store locals)
    (up : (locals caller).up = true)
    (stage : (locals caller).stage = .serving serving)
    (opened : serving.opened = true) (whole : serving.broken = false)
    {cursor after : LiveCursor EventDocument} {read : Option EventDocument}
    (has : store.cursors caller = some cursor)
    (moved : cursor.next (fun doc => doc.timestamp) store.events read =
      some after)
    {reply : Except PyException (Option EventDocument)}
    (told : reply = .ok read ∨ ∃ error, reply = .error error) :
    Balanced { store with
        cursors := Function.update store.cursors caller (some after)
        log := ReplayStore.noteRead store.log caller read }
      (Function.update locals caller
        { locals caller with
          stage := afterRead reply (locals caller).stage }) := by
  have tracks : Tracks store caller serving := by
    have staged := (balanced.placed caller).staged
    rwa [stage] at staged
  obtain ⟨found, hasToo, selects, since, begun, returned, reading⟩ :=
    tracks.cursor opened whole
  cases has.symm.trans hasToo
  rw [noteRead_of_marked tracks, stage]
  obtain ⟨rfl, readingOn⟩ := reading.next moved
  have reads := tracks.exact whole
  have logged : LiveCursor.Reading store.events
      serving.session.config.filter.finds
      (store.log.basis serving.session.sessionId) store.events.epoch
      (store.log.reads serving.session.sessionId ++ read.toList) := by
    rw [reads, ← returned, ← selects]
    exact readingOn.mono since (Nat.le_refl _)
  have more : serving.reads <+: serving.reads ++ read.toList :=
    List.prefix_append _ _
  have noted : (ReplayLedger.readOn store caller serving.session.sessionId
      { cursor with returned := cursor.returned ++ read.toList }
      read.toList).log.reads serving.session.sessionId =
        serving.reads ++ read.toList := by
    rw [reads_readOn, reads]
  rcases told with rfl | ⟨error, rfl⟩
  · cases read with
    | some doc =>
        apply balanced.readOn up stage logged
        case same => rfl
        case tracksOn =>
          refine ⟨tracks.marked, tracks.stored, ?_, fun _ => noted,
            tracks.counted.trans more.length_le, tracks.capped,
            tracks.sent.trans ((more.take _).sublist.map _), fun _ _ => ?_,
            fun closed => absurd (opened.symm.trans closed) (by simp),
            fun ended doc finds stays => more.mem (tracks.done ended doc finds
              stays)⟩
          · rw [noted]
            exact List.prefix_refl _
          · exact ⟨_, Function.update_self .., selects, since, begun,
              by rw [returned]; rfl, readingOn⟩
    | none =>
        have same := noted.trans (List.append_nil _)
        apply balanced.readOn up stage logged
        case same => rfl
        case tracksOn =>
          refine ⟨tracks.marked, tracks.stored, ?_, fun _ => same,
            tracks.counted, tracks.capped, tracks.sent, fun _ _ => ?_,
            fun closed => absurd (opened.symm.trans closed) (by simp),
            fun _ doc finds stays => ?_⟩
          · rw [same]
          · exact ⟨_, Function.update_self .., selects, since, begun,
              by rw [returned]; simp, readingOn⟩
          · rw [← selects] at finds
            exact returned ▸ LiveCursor.returned_of_end begun moved finds
              (stays.mono since (Nat.le_refl _))
  · apply balanced.readOn up stage logged
    case same => rfl
    case tracksOn =>
      refine ⟨tracks.marked, tracks.stored, ?_, nofun, tracks.counted,
        tracks.capped, tracks.sent, nofun,
        fun closed => absurd (opened.symm.trans closed) (by simp),
        tracks.done⟩
      rw [noted]
      exact more

/-! ### A session is saved -/

/-- The time of a session that has not ended goes on. -/
theorem Accounts.till_eq (accounts : Accounts store session)
    (goesOn : session.status.isTerminal = false) :
    till store session.sessionId = store.events.epoch := by
  unfold till
  rw [accounts.unfinished goesOn]
  rfl

/-- Saving a session notes nothing of the others. -/
theorem agrees_save {sessionId : ReplaySessionId}
    (different : sessionId ≠ saved.sessionId) :
    Agrees store.log (store.save caller saved).log sessionId := by
  refine ⟨rfl, ?_, rfl, rfl⟩
  simp only [ReplayStore.save]
  split
  · exact Function.update_of_ne different ..
  · rfl

/-- The last change of the events in the time of a session that is saved: its
time ends then, or goes on. -/
theorem till_save (unended : store.log.closedAt saved.sessionId = none) :
    till (store.save caller saved) saved.sessionId = store.events.epoch := by
  unfold till
  simp only [ReplayStore.save]
  split
  · rw [Function.update_self]
    rfl
  · rw [unended]
    rfl

/-- The accounts of a session that is saved. -/
theorem Accounts.save (accounts : Accounts store session)
    (same : Same saved session) (goesOn : session.status.isTerminal = false)
    (begun : saved.status ≠ .scheduled)
    (within : saved.accounted ≤
      min maxEvents (store.log.reads saved.sessionId).length)
    (completed : saved.status = .completed →
      saved.accounted =
          min maxEvents (store.log.reads saved.sessionId).length ∧
        ((store.log.reads saved.sessionId).length < maxEvents →
          ∀ doc, saved.config.filter.finds doc = true →
            store.events.Throughout (store.log.basis saved.sessionId)
              store.events.epoch doc →
                doc ∈ store.log.reads saved.sessionId)) :
    Accounts (store.save caller saved) saved := by
  have unended := accounts.unfinished goesOn
  have whole := accounts.till_eq goesOn
  obtain ⟨id, config, total⟩ := same
  rw [← id] at unended whole
  have ends := @till_save _ caller _ unended
  constructor
  case capped => exact config ▸ accounts.capped
  case small => exact total ▸ accounts.small
  case total =>
    rw [total, config, id]
    exact accounts.total
  case period =>
    rw [ends, ← whole, id]
    exact accounts.period
  case within => exact within
  case reading =>
    rw [ends, ← whole, config, id]
    exact accounts.reading
  case once =>
    rw [id]
    exact accounts.once
  case scheduled => exact fun scheduled => absurd scheduled begun
  case completed =>
    rw [ends]
    exact completed
  case unfinished =>
    intro goesOn
    simp only [ReplayStore.save]
    rw [if_neg (by simp [goesOn])]
    exact unended

/-- A worker saves a session that has not ended. -/
theorem Balanced.saves {stage : Stage} (balanced : Balanced store locals)
    (up : (locals caller).up = true) (among : session ∈ store.sessions)
    (same : Same saved session)
    (accounts : Accounts (store.save caller saved) saved)
    (staged : Staged (store.save caller saved) caller stage) :
    Balanced (store.save caller saved)
      (Function.update locals caller
        { locals caller with stage := stage }) := by
  apply balanced.works up
  case events => rfl
  case uuids => rfl
  case worker => rfl
  case countedAt => rfl
  case ids =>
    simp only [ReplayStore.save, List.map_map]
    apply List.map_congr_left
    intro other _
    simp only [Function.comp_apply, ReplayStore.replace]
    split
    · next its => exact its.symm
    · rfl
  case closed =>
    intro sessionId epoch ended
    by_cases its : sessionId = saved.sessionId
    · subst its
      simp only [ReplayStore.save] at ended
      split at ended
      · rw [Function.update_self] at ended
        exact (Option.some.inj ended).ge
      · exact balanced.closed _ epoch ended
    · rw [(agrees_save its).closedAt] at ended
      exact balanced.closed sessionId epoch ended
  case blank =>
    intro sessionId unused
    apply (agrees_save _).blank
    rintro rfl
    exact unused session among same.id.symm
  case accounts =>
    intro other member
    obtain ⟨old, before, rfl⟩ := List.mem_map.mp member
    unfold ReplayStore.replace
    split
    · exact accounts
    · next different =>
        exact (balanced.accounts old before).later (agrees_save different)
          (.refl _) balanced.closed
  case staged => exact staged

/-- What a worker knows of its session that is one event further. -/
theorem Tracks.counts (tracks : Tracks store caller serving)
    (same : Same saved serving.session)
    (counts : saved.accounted = serving.session.accounted + 1)
    (within : saved.accounted ≤ serving.reads.length)
    (capped : saved.accounted ≤ saved.config.maxEvents) :
    Tracks store caller
      { serving with
        session := saved
        published := false } := by
  obtain ⟨session, among, status, agree⟩ := tracks.stored
  have id := same.id
  constructor
  case marked =>
    rw [id]
    exact tracks.marked
  case stored => exact ⟨session, among, status, same.trans agree⟩
  case noted =>
    rw [id]
    exact tracks.noted
  case exact =>
    rw [id]
    exact tracks.exact
  case counted => exact within
  case capped => exact capped
  case sent =>
    have further : (serving.session.accounted +
        if serving.published then 1 else 0) ≤ saved.accounted := by
      rw [counts]
      apply Nat.add_le_add_left
      split
      · exact Nat.le_refl _
      · exact Nat.zero_le _
    rw [id]
    exact tracks.sent.trans ((List.take_sublist_take_left further).map _)
  case cursor =>
    rw [id, same.config]
    exact tracks.cursor
  case unopened => exact tracks.unopened
  case done =>
    rw [id, same.config]
    exact tracks.done

/-- A worker has counted no more than was read, and no more than it may. -/
theorem Tracks.within (tracks : Tracks store caller serving)
    (balanced : Balanced store locals) :
    serving.session.accounted ≤
      min maxEvents (store.log.reads serving.session.sessionId).length := by
  obtain ⟨session, among, -, agree⟩ := tracks.stored
  have capped := tracks.capped
  rw [agree.config, (balanced.accounts session among).capped] at capped
  exact le_min capped (tracks.counted.trans tracks.noted.length_le)

/-- What a worker knows when it has saved its session. -/
theorem Tracks.save (tracks : Tracks store caller serving)
    (status : serving.session.status = .running)
    (stored : serving.session ∈ (store.save caller serving.session).sessions) :
    Tracks (store.save caller serving.session) caller serving := by
  constructor
  case marked =>
    simp only [ReplayStore.save, if_pos status]
    exact Function.update_self ..
  case stored => exact ⟨serving.session, stored, status, .refl _⟩
  case noted => exact tracks.noted
  case exact => exact tracks.exact
  case counted => exact tracks.counted
  case capped => exact tracks.capped
  case sent => exact tracks.sent
  case cursor => exact tracks.cursor
  case unopened => exact tracks.unopened
  case done => exact tracks.done

/-- A session that was saved is stored. -/
theorem mem_save (caller : Caller) (among : session ∈ store.sessions)
    (id : saved.sessionId = session.sessionId) :
    saved ∈ (store.save caller saved).sessions := by
  apply List.mem_map.mpr ⟨session, among, _⟩
  unfold ReplayStore.replace
  rw [if_pos id.symm]

/-- The accounts of a session that is saved and has not completed. -/
theorem Accounts.saveUncompleted (accounts : Accounts store session)
    (same : Same saved session) (goesOn : session.status.isTerminal = false)
    (begun : saved.status ≠ .scheduled) (undone : saved.status ≠ .completed)
    (within : saved.accounted ≤
      min maxEvents (store.log.reads saved.sessionId).length) :
    Accounts (store.save caller saved) saved :=
  accounts.save same goesOn begun within fun completed =>
    absurd completed undone

/-- The accounts of a session that is saved as completed, once its worker has
counted all that it read. -/
theorem Tracks.accountsCompleted
    (staged : Tracks store caller serving)
    (accounts : Accounts store session) (goesOn : session.status = .running)
    (same : Same saved session) (its : Same saved serving.session)
    (all : saved.accounted =
      min saved.config.maxEvents serving.reads.length)
    (whole : serving.broken = false)
    (ended : serving.ended = true ∨
      saved.config.maxEvents ≤ serving.reads.length)
    (status : saved.status = .completed) :
    Accounts (store.save caller saved) saved := by
  have capped : saved.config.maxEvents = maxEvents :=
    (congrArg ReplayConfig.maxEvents same.config).trans accounts.capped
  have reads : store.log.reads saved.sessionId = serving.reads := by
    rw [its.id]
    exact staged.exact whole
  rw [capped] at all ended
  apply accounts.save same
  case goesOn =>
    rw [goesOn]
    rfl
  case begun => simp [status]
  case within =>
    rw [reads]
    exact all.le
  case completed =>
    intro _
    rw [reads]
    refine ⟨all, fun less => ?_⟩
    rw [its.id, its.config]
    exact staged.done (ended.resolve_right (not_le.mpr less))

/-- A worker that saved a claimed session serves it from its beginning. -/
theorem staged_begins (accounts : Accounts store session)
    (among : session ∈ store.sessions) (scheduled : session.status = .scheduled)
    (same : Same saved session) (counts : saved.accounted = session.accounted)
    (status : saved.status = .running) (reply : Except PyException Unit) :
    Staged (store.save caller saved) caller
      (afterSave saved reply (.claimed session)) := by
  obtain ⟨none, unread, unsent⟩ := accounts.scheduled scheduled
  cases reply with
  | error error => trivial
  | ok _ =>
      have marked : (store.save caller saved).log.serving caller =
          some saved.sessionId := by
        simp only [ReplayStore.save, if_pos status]
        exact Function.update_self ..
      have idle : saved.accounted = 0 := counts.trans none
      have member := mem_save caller among same.id
      refine ⟨marked, ⟨saved, member, status, .refl _⟩, List.nil_prefix,
        fun _ => ?_, idle.le, ?_, ?_, nofun, fun _ => rfl, nofun⟩
      · exact (congrArg store.log.reads same.id).trans unread
      · exact idle.trans_le (Nat.zero_le _)
      · show (store.log.sent saved.sessionId).Sublist _
        rw [same.id, unsent]
        exact List.nil_sublist _

/-- A worker that saved a session which was cut off goes on with the others. -/
theorem staged_cuts {sessions : List ReplaySessionDocument}
    (staged : Staged store caller (.listed sessions))
    (reply : Except PyException Unit) :
    Staged (store.save caller saved) caller
      (afterSave saved reply (.listed sessions)) := by
  intro other member
  obtain ⟨left, different⟩ := List.mem_filter.mp member
  obtain ⟨stored, status⟩ := staged other left
  refine ⟨List.mem_map.mpr ⟨other, stored, ?_⟩, status⟩
  unfold ReplayStore.replace
  rw [if_neg (by simpa using different)]

/-- A worker saves a session, whether or not it learns that it did. -/
theorem Balanced.saveSession (balanced : Balanced store locals)
    (up : (locals caller).up = true)
    (may : MaySave saved (locals caller).stage)
    (reply : Except PyException Unit) :
    Balanced (store.save caller saved)
      (Function.update locals caller
        { locals caller with
          stage := afterSave saved reply (locals caller).stage }) := by
  have staged := (balanced.placed caller).staged
  generalize (locals caller).stage = stage at may staged ⊢
  cases may with
  | @begins old same counts status =>
      obtain ⟨among, scheduled⟩ := staged
      have accounts := balanced.accounts old among
      apply balanced.saves up among same
      case accounts =>
        apply accounts.saveUncompleted same (by rw [scheduled]; rfl)
          (by simp [status]) (by simp [status])
        rw [counts, same.id]
        exact accounts.within
      case staged =>
        exact staged_begins accounts among scheduled same counts status reply
  | @counts serving same counts within capped status =>
      obtain ⟨session, among, running, agree⟩ := staged.stored
      have further := staged.counts same counts within capped
      apply balanced.saves up among (same.trans agree)
      case accounts =>
        exact (balanced.accounts session among).saveUncompleted
          (same.trans agree) (by rw [running]; rfl) (by simp [status])
          (by simp [status]) (further.within balanced)
      case staged =>
        rw [afterSave_running status]
        exact further.save status (mem_save caller among (same.trans agree).id)
  | @completes serving same counts all whole ended status =>
      obtain ⟨session, among, running, agree⟩ := staged.stored
      apply balanced.saves up among (same.trans agree)
      case accounts =>
        exact Tracks.accountsCompleted staged (balanced.accounts session among)
          running (same.trans agree) same all whole ended status
      case staged =>
        rw [afterSave_ended (by simp [status])]
        trivial
  | @fails serving same counts status =>
      obtain ⟨session, among, running, agree⟩ := staged.stored
      apply balanced.saves up among (same.trans agree)
      case accounts =>
        apply (balanced.accounts session among).saveUncompleted
          (same.trans agree) (by rw [running]; rfl) (by simp [status])
          (by simp [status])
        rw [counts, same.id]
        exact staged.within balanced
      case staged =>
        rw [afterSave_ended (by simp [status])]
        trivial
  | @cuts sessions old listed same counts status =>
      obtain ⟨among, running⟩ := staged old listed
      have accounts := balanced.accounts old among
      apply balanced.saves up among same
      case accounts =>
        apply accounts.saveUncompleted same (by rw [running]; rfl)
          (by simp [status]) (by simp [status])
        rw [counts, same.id]
        exact accounts.within
      case staged => exact staged_cuts staged reply

/-- A worker turns to what it knows. -/
theorem Balanced.restaged {stage : Stage} (balanced : Balanced store locals)
    (up : (locals caller).up = true) (staged : Staged store caller stage) :
    Balanced store
      (Function.update locals caller
        { locals caller with stage := stage }) := by
  apply balanced.works up rfl rfl rfl rfl rfl balanced.closed
  case blank => exact fun _ _ => id
  case accounts => exact balanced.accounts
  case staged => exact staged

/-- What a worker knows when its save did not go through. -/
theorem Balanced.unsaved (balanced : Balanced store locals)
    (up : (locals caller).up = true)
    (may : MaySave saved (locals caller).stage) (error : PyException) :
    Balanced store
      (Function.update locals caller
        { locals caller with
          stage := afterSave saved (.error error) (locals caller).stage }) := by
  have staged := (balanced.placed caller).staged
  apply balanced.restaged up
  generalize (locals caller).stage = stage at may staged ⊢
  cases may with
  | begins => trivial
  | @counts serving same counts within capped status =>
      rw [afterSave_running status]
      exact Tracks.counts staged same counts within capped
  | completes same counts all whole ended status =>
      rw [afterSave_ended (by simp [status])]
      trivial
  | fails same counts status =>
      rw [afterSave_ended (by simp [status])]
      trivial
  | cuts =>
      intro other member
      exact staged other (List.mem_of_mem_filter member)

end Laws

end ReplayLedger

end Integr8s
