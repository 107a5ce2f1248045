/-
Module: Integr8s.Proofs.ReplayAccounts
Purpose: The accounts of the replay sessions balance in every run: with what
  the worker's cursor returned, and with the total that the API counted as
  long as the matching events stay the same.
Trusted boundary: none
Main exports: ReplayAccounts.accounts_balance,
  ReplayAccounts.late_event_counted
-/
import Integr8s.Proofs.ReplayLedger

namespace Integr8s

namespace ReplayAccounts

open AdminEventsService (maxEvents)
open ReplaySteps ReplayLedger

/-! ### Each step keeps the accounts -/

section Steps

variable {store next : ReplayStore} {locals : Caller → Progress}
  {caller : Caller} {choice : ReplayChoice} {command : ReplayCommand}

private theorem mem_of_oldest {sessions : List ReplaySessionDocument}
    {session : ReplaySessionDocument}
    (found : ReplayStore.oldest sessions = some session) :
    session ∈ sessions := by
  induction sessions with
  | nil => cases found
  | cons first rest inductionHypothesis =>
      unfold ReplayStore.oldest at found
      split at found
      · cases found
        exact List.mem_cons_self
      · next other among =>
          split at found
          · cases found
            exact List.mem_cons_self
          · cases found
            exact List.mem_cons_of_mem _ (inductionHypothesis among)

private theorem mem_withStatus {status : ReplayStatus}
    {session : ReplaySessionDocument} :
    session ∈ store.withStatus status ↔
      session ∈ store.sessions ∧ session.status = status := by
  unfold ReplayStore.withStatus
  rw [List.mem_filter, beq_iff_eq]

/-- A command that goes through gets an answer that its caller can get, and
keeps the law. -/
theorem succeeds (balanced : Balanced store locals)
    (awaits : replaying.awaits (locals caller) command)
    {answer : ReplayReply command}
    (went : store.effect caller choice command = some (answer, next)) :
    replaying.answers (locals caller) command (.ok answer) ∧
      Balanced next (Function.update locals caller
        (replaying.after (locals caller) command (.ok answer))) := by
  cases command with
  | start =>
      obtain ⟨none, went⟩ := Option.ite_none_right_eq_some.mp went
      cases went
      exact ⟨trivial, balanced.start none⟩
  | now =>
      cases went
      exact ⟨trivial, balanced.stays⟩
  | uuid =>
      obtain ⟨new, went⟩ := Option.ite_none_left_eq_some.mp went
      cases went
      exact ⟨trivial, balanced.uuid new⟩
  | countEvents filter =>
      cases went
      exact ⟨trivial, balanced.countEvents filter⟩
  | previewEvents filter limit =>
      cases went
      exact ⟨trivial, balanced.stays⟩
  | createSession session =>
      cases went
      obtain ⟨counted, uuid, capped, small, status, begins⟩ := awaits
      exact ⟨trivial, balanced.createSession counted uuid capped small status
        begins⟩
  | oldestScheduled =>
      obtain ⟨found, rfl⟩ := Prod.mk.inj (Option.some.inj went)
      cases answer with
      | none => exact ⟨trivial, balanced.stays⟩
      | some session =>
          obtain ⟨among, status⟩ := mem_withStatus.mp (mem_of_oldest found)
          obtain ⟨idle, -, -⟩ :=
            (balanced.accounts session among).scheduled status
          exact ⟨idle, balanced.restaged awaits ⟨among, status⟩⟩
  | runningSessions =>
      cases went
      refine ⟨?_, ?_⟩
      · exact balanced.distinct.sublist (List.filter_sublist.map _)
      · exact balanced.restaged awaits fun session =>
          mem_withStatus.mp
  | saveSession session =>
      cases went
      obtain ⟨up, may⟩ := awaits
      exact ⟨trivial, balanced.saveSession up may (.ok ())⟩
  | openCursor filter =>
      cases went
      obtain ⟨up, serving, stage, unopened, rfl⟩ := awaits
      refine ⟨trivial, ?_⟩
      dsimp only [replaying]
      rw [stage]
      exact balanced.openCursor up stage unopened
  | readCursor =>
      obtain ⟨cursor, has, moved⟩ := Option.bind_eq_some_iff.mp went
      obtain ⟨after, returned, same⟩ := Option.map_eq_some_iff.mp moved
      cases same
      obtain ⟨up, serving, stage, opened, whole⟩ := awaits
      exact ⟨trivial, balanced.readCursor up stage opened whole has returned
        (.inl rfl)⟩
  | storeEvent event =>
      cases went
      exact ⟨trivial, (balanced.insertEvent event).stays⟩
  | publish event key =>
      cases went
      obtain ⟨up, serving, doc, stage, unsent, read, same⟩ := awaits
      refine ⟨trivial, ?_⟩
      dsimp only [replaying]
      rw [stage, same]
      exact balanced.publish up stage unsent read
  | publishStatus payload =>
      cases went
      exact ⟨trivial, balanced.stays⟩

/-- A command that raises an error keeps the law, whether or not it took
effect. -/
theorem raises (balanced : Balanced store locals)
    (awaits : replaying.awaits (locals caller) command) {error : PyException}
    (may : command.mayRaise error = true)
    (how : next = store ∨ ∃ choice answer,
      store.effect caller choice command = some (answer, next)) :
    Balanced next (Function.update locals caller
      (replaying.after (locals caller) command (.error error))) := by
  cases command with
  | start => cases may
  | now => cases may
  | uuid => cases may
  | countEvents filter =>
      rcases how with rfl | ⟨choice, answer, went⟩
      · exact balanced.forgets
      · cases went
        have counted := @Balanced.countEvents _ _ caller balanced filter
        have forgotten := @Balanced.forgets _ _ caller counted
        rwa [Function.update_self, Function.update_idem] at forgotten
  | previewEvents filter limit =>
      rcases how with rfl | ⟨choice, answer, went⟩
      · exact balanced.stays
      · cases went
        exact balanced.stays
  | createSession session =>
      obtain ⟨counted, uuid, capped, small, status, begins⟩ := awaits
      rcases how with rfl | ⟨choice, answer, went⟩
      · have placed := balanced.placed caller
        exact balanced.learns ⟨placed.counted, nofun, placed.up, placed.down,
          placed.staged⟩ (.inr rfl)
      · cases went
        exact balanced.createSession counted uuid capped small status begins
  | oldestScheduled =>
      rcases how with rfl | ⟨choice, answer, went⟩
      · exact balanced.stays
      · cases went
        exact balanced.stays
  | runningSessions =>
      rcases how with rfl | ⟨choice, answer, went⟩
      · exact balanced.stays
      · cases went
        exact balanced.stays
  | saveSession session =>
      obtain ⟨up, may⟩ := awaits
      rcases how with rfl | ⟨choice, answer, went⟩
      · exact balanced.unsaved up may error
      · cases went
        exact balanced.saveSession up may (.error error)
  | openCursor filter => cases may
  | readCursor =>
      obtain ⟨up, serving, stage, opened, whole⟩ := awaits
      rcases how with rfl | ⟨choice, answer, went⟩
      · have tracks : Tracks next caller serving := by
          have staged := (balanced.placed caller).staged
          rwa [stage] at staged
        dsimp only [replaying]
        rw [stage]
        apply balanced.restaged up
        exact ⟨tracks.marked, tracks.stored, tracks.noted, nofun,
          tracks.counted, tracks.capped, tracks.sent, nofun, tracks.unopened,
          tracks.done⟩
      · obtain ⟨cursor, has, moved⟩ := Option.bind_eq_some_iff.mp went
        obtain ⟨after, returned, same⟩ := Option.map_eq_some_iff.mp moved
        cases same
        exact balanced.readCursor up stage opened whole has returned
          (.inr ⟨error, rfl⟩)
  | storeEvent event =>
      rcases how with rfl | ⟨choice, answer, went⟩
      · exact balanced.stays
      · cases went
        exact (balanced.insertEvent event).stays
  | publish event key =>
      obtain ⟨up, serving, doc, stage, unsent, read, same⟩ := awaits
      dsimp only [replaying]
      rw [stage]
      rcases how with rfl | ⟨choice, answer, went⟩
      · have tracks : Tracks next caller serving := by
          have staged := (balanced.placed caller).staged
          rwa [stage] at staged
        apply balanced.restaged up
        refine ⟨tracks.marked, tracks.stored, tracks.noted, tracks.exact,
          tracks.counted, tracks.capped, tracks.sent.trans ?_, tracks.cursor,
          tracks.unopened, tracks.done⟩
        rw [unsent]
        exact (List.take_sublist_take_left (Nat.le_succ _)).map _
      · cases went
        rw [same]
        exact balanced.publish up stage unsent read
  | publishStatus payload =>
      rcases how with rfl | ⟨choice, answer, went⟩
      · exact balanced.stays
      · cases went
        exact balanced.stays

/-- A caller can get any error that its command may raise. -/
theorem answers_error {here : Progress} {error : PyException}
    (may : command.mayRaise error = true) :
    replaying.answers here command (.error error) := by
  cases command <;> exact may

/-- What happens around the callers keeps the law. -/
theorem happens (balanced : Balanced store locals) {event : ReplayEvent}
    (happened : replayBackend.environment store event = some next) :
    Balanced next locals := by
  cases event with
  | tick duration =>
      cases happened
      exact balanced.events rfl rfl rfl rfl rfl (.refl _) balanced.unique
  | insert event =>
      cases happened
      exact balanced.insertEvent event
  | remove id =>
      cases happened
      exact balanced.removeEvent id
  | dropSession sessionId =>
      cases happened
      exact balanced.dropSession sessionId

/-- The accounts are a law of all interleavings. -/
theorem balanced_law :
    replaying.Law replayBackend (fun (_ : Replays) _ => True)
      (fun _ _ _ => True) Balanced where
  performs state locals caller command choice reply next obeyed balanced _
      awaited performed := by
    have awaits := obeyed.awaits awaited
    obtain ⟨⟨answer, after⟩, went, performed⟩ :=
      Option.bind_eq_some_iff.mp performed
    rcases Outcome.perform_cases performed with
      ⟨-, same⟩ | ⟨error, rfl, may, ⟨-, rfl⟩ | ⟨-, rfl⟩⟩
    · cases same
      exact succeeds balanced awaits went
    · exact ⟨answers_error may, raises balanced awaits may (.inl rfl)⟩
    · exact ⟨answers_error may,
        raises balanced awaits may (.inr ⟨choice, answer, went⟩)⟩
  environment state locals event next obeyed balanced _ happened :=
    happens balanced happened
  kills state locals caller next obeyed balanced _ _ killed := by
    cases killed
    exact ⟨{}, trivial, balanced.killed caller⟩

end Steps

/-- A store before the first replay: there are no sessions, and no worker is
up. -/
structure Opening (store : ReplayStore) : Prop where
  unique : ∀ epoch ≤ store.events.epoch,
    ((store.events.past epoch).map fun doc => doc.eventId).Nodup
  sessions : store.sessions = []
  worker : store.worker = none
  log : store.log = {}

theorem Opening.balanced {store : ReplayStore} (opening : Opening store) :
    Balanced store fun _ => {} := by
  obtain ⟨unique, sessions, worker, log⟩ := opening
  constructor
  case unique => exact unique
  case distinct =>
    rw [sessions]
    exact List.nodup_nil
  case known =>
    rw [sessions]
    simp
  case blank =>
    rw [log]
    exact fun _ _ => ⟨rfl, rfl, rfl⟩
  case closed =>
    rw [log]
    simp
  case accounts =>
    rw [sessions]
    simp
  case placed => exact fun _ => ⟨nofun, nofun, nofun, fun _ => rfl, trivial⟩
  case apart => exact nofun

/-- The accounts of a stored session balance.  Its time is from when its
events were counted to its end, or to now. -/
structure Balances (store : ReplayStore) (session : ReplaySessionDocument) :
    Prop where
  capped : session.accounted ≤ maxEvents
  within : session.accounted ≤ (store.log.reads session.sessionId).length
  distinct : (store.log.reads session.sessionId).Nodup
  matching : ∀ doc ∈ store.log.reads session.sessionId,
    session.config.filter.finds doc = true ∧
      store.events.Sometime (store.log.basis session.sessionId)
        (till store session.sessionId) doc
  sent : (store.log.sent session.sessionId).Sublist
    ((store.log.reads session.sessionId).map fun doc => doc.eventId)
  once : store.events.Growing session.config.filter.finds
      (store.log.basis session.sessionId) (till store session.sessionId) →
    (store.log.sent session.sessionId).Nodup
  total : session.totalEvents =
    ((store.events.past (store.log.basis session.sessionId)).filter
      session.config.filter.finds).length
  completed : session.status = .completed → session.accounted =
    min maxEvents (store.log.reads session.sessionId).length
  complete : session.status = .completed →
    (store.log.reads session.sessionId).length < maxEvents →
      ∀ doc, session.config.filter.finds doc = true →
        store.events.Throughout (store.log.basis session.sessionId)
          (till store session.sessionId) doc →
            doc ∈ store.log.reads session.sessionId
  steady : store.events.Steady session.config.filter.finds
      (store.log.basis session.sessionId) (till store session.sessionId) →
    session.accounted ≤ session.totalEvents ∧
      (session.status = .completed →
        session.accounted = session.totalEvents)

section Sessions

variable {store : ReplayStore} {locals : Caller → Progress}
  {session : ReplaySessionDocument}

/-- In its time a session's events have ids of their own. -/
theorem unique_of_balanced (balanced : Balanced store locals) {epoch : Nat}
    (early : epoch ≤ till store session.sessionId) :
    ((store.events.past epoch).map fun doc => doc.eventId).Nodup :=
  balanced.unique epoch (early.trans (till_le balanced.closed _))

/-- While its events stay the same, a completed session has accounted for as
many as were counted. -/
theorem accounted_eq_total (balanced : Balanced store locals)
    (among : session ∈ store.sessions) (status : session.status = .completed)
    (steady : store.events.Steady session.config.filter.finds
      (store.log.basis session.sessionId) (till store session.sessionId)) :
    session.accounted = session.totalEvents := by
  have accounts := balanced.accounts session among
  obtain ⟨all, complete⟩ := accounts.completed status
  have few := accounts.reading.length_le steady
  rw [← accounts.total] at few
  have small := accounts.small
  by_cases less : (store.log.reads session.sessionId).length < maxEvents
  · have distinct : (store.events.past
        (store.log.basis session.sessionId)).Nodup :=
      .of_map _ (unique_of_balanced balanced accounts.period)
    have same := accounts.reading.length_eq steady distinct (complete less)
    rw [all, min_eq_right less.le, same, ← accounts.total]
  · rw [all, min_eq_left (not_lt.mp less)]
    exact Nat.le_antisymm ((not_lt.mp less).trans few) small

/-- The accounts balance under the law. -/
theorem balances_of_balanced (balanced : Balanced store locals)
    (among : session ∈ store.sessions) : Balances store session := by
  have accounts := balanced.accounts session among
  constructor
  case capped => exact accounts.within.trans (min_le_left _ _)
  case within => exact accounts.within.trans (min_le_right _ _)
  case distinct => exact accounts.reading.distinct
  case matching =>
    intro doc member
    exact ⟨accounts.reading.chosen doc member,
      accounts.reading.held doc member⟩
  case sent => exact accounts.once
  case once =>
    intro growing
    have unique := unique_of_balanced balanced
      (Nat.le_refl (till store session.sessionId))
    exact (accounts.reading.nodup_map growing unique).sublist accounts.once
  case total => exact accounts.total
  case completed => exact fun status => (accounts.completed status).1
  case complete => exact fun status => (accounts.completed status).2
  case steady =>
    intro steady
    refine ⟨?_, fun status =>
      accounted_eq_total balanced among status steady⟩
    rw [accounts.total]
    exact (accounts.within.trans (min_le_right _ _)).trans
      (accounts.reading.length_le steady)

end Sessions

/-- Before any call has run. -/
def start (validates : StoredEvent → Bool)
    (text typeName : PyException → String) (store : ReplayStore)
    (calls : Caller → ReplayCall) : Replays where
  shared := store
  running caller := some ((calls caller).run validates text typeName)

/-- The accounts of every stored session balance in every state that a run of
the API and the workers reaches, whatever happens to the events meanwhile.  The
invariant follows a session from its count to its end, with the cursor of the
worker that serves it and the log of what was read and sent. -/
theorem accounts_balance (validates : StoredEvent → Bool)
    (text typeName : PyException → String) (calls : Caller → ReplayCall)
    {store : ReplayStore} (opening : Opening store)
    {moves : List (Move Caller ReplayChoice ReplayEvent)} {state : Replays}
    (reached : replayBackend.machine.run
      (start validates text typeName store calls) moves = some state)
    {session : ReplaySessionDocument}
    (among : session ∈ state.shared.sessions) :
    Balances state.shared session := by
  have obeyed : replaying.Obeyed (fun _ => {}) (fun _ _ _ => True)
      (start validates text typeName store calls) :=
    { follows := by
        rintro caller coroutine ⟨⟩
        exact follows_run validates text typeName (calls caller)
      gone := fun _ _ => trivial }
  obtain ⟨locals, balanced, -, -⟩ := balanced_law.run obeyed opening.balanced
    (replayBackend.machine.along_of_forall (fun _ _ => trivial) _ _) reached
  exact balances_of_balanced balanced among

/-- An event of one execution. -/
def eventOf (eventId : EventId) (timestamp : Nat) : StoredEvent where
  eventId := eventId
  eventType := .pipeline .executionRequested
  timestamp := timestamp
  metadata := { serviceName := "api", serviceVersion := "1", userId := "alice" }
  executionId := some "execution"

/-- The documents of two events. -/
def firstDoc : EventDocument := { eventOf "first" 1 with id := 0 }

def secondDoc : EventDocument := { eventOf "second" 2 with id := 1 }

/-- The first event is stored. -/
def oneEvent : ReplayStore where
  events := { past := fun _ => [firstDoc] }
  nextId := 1

private theorem opening_oneEvent : Opening oneEvent where
  unique _ _ := List.nodup_singleton _
  sessions := rfl
  worker := rfl
  log := rfl

/-- One call asks for a replay of the execution's events, another one is the
worker. -/
def oneReplay : Caller → ReplayCall
  | 0 => .prepare { executionId := some "execution" } false "replay"
  | _ => .worker

/-- Some steps of a call that go through. -/
def steps (caller : Caller) (count : Nat) :
    List (Move Caller ReplayChoice ReplayEvent) :=
  List.replicate count (.caller caller {})

/-- The API creates the session, and the worker opens its cursor, with what
happens in between. -/
def begun (between : List (Move Caller ReplayChoice ReplayEvent)) :
    List (Move Caller ReplayChoice ReplayEvent) :=
  steps 0 1 ++ [.caller 0 { uuid := "session" }] ++ steps 0 2 ++ between ++
    steps 1 8

/-- Where a run of one replay ends. -/
def afterReplay (moves : List (Move Caller ReplayChoice ReplayEvent)) :
    Option Replays :=
  replayBackend.machine.run
    (start (fun _ => true) (fun _ => "") (fun _ => "") oneEvent oneReplay)
    moves

/-- The second event is stored before the worker opens its cursor; the cursor
returns both. -/
def lateEvent : List (Move Caller ReplayChoice ReplayEvent) :=
  begun [.environment (.insert (eventOf "second" 2))] ++
    [.caller 1 { next := some firstDoc },
      .caller 1 { next := some secondDoc }] ++ steps 1 14

/-- The first event again, as it is stored after its document was removed. -/
def againDoc : EventDocument := { eventOf "first" 2 with id := 1 }

/-- The document that the cursor has returned is removed, and its event is
stored anew; the cursor returns that as well. -/
def eventAgain : List (Move Caller ReplayChoice ReplayEvent) :=
  begun [] ++
    [.caller 1 { next := some firstDoc }, .environment (.remove 0),
      .environment (.insert (eventOf "first" 2)),
      .caller 1 { next := some againDoc }] ++ steps 1 14

theorem accounts_balance_late_event :
    ∃ state session, afterReplay lateEvent = some state ∧
      session ∈ state.shared.sessions ∧ Balances state.shared session := by
  have ends : ((afterReplay lateEvent).map fun state =>
      state.shared.sessions.length) = some 1 := by
    decide +kernel
  obtain ⟨state, reached, one⟩ := Option.map_eq_some_iff.mp ends
  obtain ⟨session, only⟩ := List.length_eq_one_iff.mp one
  have among : session ∈ state.shared.sessions := by simp [only]
  exact ⟨state, session, reached, among, accounts_balance (fun _ => true)
    (fun _ => "") (fun _ => "") oneReplay opening_oneEvent reached among⟩

/-- What a run leaves of a session: its status, its total, the number of events
that it accounts for, and those that it sent. -/
structure SessionOutcome where
  status : ReplayStatus
  total : Nat
  accounted : Nat
  sent : List EventId
deriving DecidableEq

def outcomes (state : Replays) : List SessionOutcome :=
  state.shared.sessions.map fun session =>
    ⟨session.status, session.totalEvents, session.accounted,
      state.shared.log.sent session.sessionId⟩

/-- An event that is stored between the count and the cursor is replayed: the
session is completed with more events than its total.  An event that is removed
and stored anew while the cursor reads is sent twice. -/
theorem late_event_counted :
    (afterReplay lateEvent).map outcomes =
        some [⟨.completed, 1, 2, ["first", "second"]⟩] ∧
      (afterReplay eventAgain).map outcomes =
        some [⟨.completed, 1, 2, ["first", "first"]⟩] := by
  decide +kernel

end ReplayAccounts

end Integr8s
