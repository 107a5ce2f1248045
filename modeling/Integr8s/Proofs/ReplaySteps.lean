/-
Module: Integr8s.Proofs.ReplaySteps
Purpose: What the callers of the replay services await one after the other,
  whatever they are answered: the API creates a session with what it counted,
  and a worker runs one session at a time and counts every event once.
Trusted boundary: none
Main exports: ReplaySteps.Progress, ReplaySteps.MaySave,
  ReplaySteps.replaying, ReplaySteps.follows_run
-/
import Integr8s.Lib.Typestate
import Integr8s.Services.EventReplay

namespace Integr8s

namespace ReplaySteps

open AdminEventsService (maxEvents)
open EventReplayService

/-- A session that a worker runs: as it last saved it, what it has read and
whether its cursor has more or broke, and whether it has sent the event that
it counts next. -/
structure Serving where
  session : ReplaySessionDocument
  reads : List EventDocument := []
  opened : Bool := false
  ended : Bool := false
  broken : Bool := false
  published : Bool := false

/-- What a worker is about: nothing, sessions that were cut off, a session that
it will run, or one that it runs. -/
inductive Stage where
  | idle
  | listed (sessions : List ReplaySessionDocument)
  | claimed (session : ReplaySessionDocument)
  | serving (serving : Serving)

/-- How far a caller is: what it has counted, the id of the session that it
will create, and whether it is a worker that has started, and what about. -/
structure Progress where
  counted : Option (ReplayFilter × Nat) := none
  uuid : Option String := none
  up : Bool := false
  stage : Stage := .idle

/-- Two states of one session. -/
structure Same (session other : ReplaySessionDocument) : Prop where
  id : session.sessionId = other.sessionId
  config : session.config = other.config
  total : session.totalEvents = other.totalEvents

theorem Same.refl (session : ReplaySessionDocument) : Same session session :=
  ⟨rfl, rfl, rfl⟩

theorem Same.trans {session other last : ReplaySessionDocument}
    (same : Same session other) (agrees : Same other last) :
    Same session last :=
  ⟨same.id.trans agrees.id, same.config.trans agrees.config,
    same.total.trans agrees.total⟩

/-- What a worker may save: a session that it is about to run, the progress of
the one that it runs, the end of that one, or the end of one that was cut
off. -/
inductive MaySave (session : ReplaySessionDocument) : Stage → Prop where
  | begins {old : ReplaySessionDocument} (same : Same session old)
      (counts : session.accounted = old.accounted)
      (status : session.status = .running) : MaySave session (.claimed old)
  | counts {serving : Serving} (same : Same session serving.session)
      (counts : session.accounted = serving.session.accounted + 1)
      (within : session.accounted ≤ serving.reads.length)
      (capped : session.accounted ≤ session.config.maxEvents)
      (status : session.status = .running) : MaySave session (.serving serving)
  | completes {serving : Serving} (same : Same session serving.session)
      (counts : session.accounted = serving.session.accounted)
      (all : session.accounted =
        min session.config.maxEvents serving.reads.length)
      (whole : serving.broken = false)
      (ended : serving.ended = true ∨
        session.config.maxEvents ≤ serving.reads.length)
      (status : session.status = .completed) :
      MaySave session (.serving serving)
  | fails {serving : Serving} (same : Same session serving.session)
      (counts : session.accounted = serving.session.accounted)
      (status : session.status = .failed) : MaySave session (.serving serving)
  | cuts {sessions : List ReplaySessionDocument} {old : ReplaySessionDocument}
      (listed : old ∈ sessions) (same : Same session old)
      (counts : session.accounted = old.accounted)
      (status : session.status = .failed) : MaySave session (.listed sessions)

/-- Where a worker is after it saved a session, or tried to. -/
def afterSave (session : ReplaySessionDocument)
    (reply : Except PyException Unit) : Stage → Stage
  | .serving serving =>
      if session.status = .running then
        .serving
          { serving with
            session := session
            published := false }
      else .idle
  | .claimed _ =>
      match reply with
      | .ok () => .serving { session := session }
      | .error _ => .idle
  | .listed sessions =>
      .listed (sessions.filter fun other =>
        other.sessionId != session.sessionId)
  | .idle => .idle

theorem afterSave_running {session : ReplaySessionDocument}
    {reply : Except PyException Unit} {serving : Serving}
    (status : session.status = .running) :
    afterSave session reply (.serving serving) =
      .serving
        { serving with
          session := session
          published := false } :=
  if_pos status

theorem afterSave_ended {session : ReplaySessionDocument}
    {reply : Except PyException Unit} {serving : Serving}
    (status : session.status ≠ .running) :
    afterSave session reply (.serving serving) = .idle :=
  if_neg status

/-- What is on a worker's mind when its cursor has answered. -/
def afterRead (reply : Except PyException (Option EventDocument)) :
    Stage → Stage
  | .serving serving =>
      match reply with
      | .ok (some doc) =>
          .serving { serving with reads := serving.reads ++ [doc] }
      | .ok none => .serving { serving with ended := true }
      | .error _ => .serving { serving with broken := true }
  | stage => stage

/-- Change what a worker knows of the session that it runs. -/
def Stage.map (change : Serving → Serving) : Stage → Stage
  | .serving run => .serving (change run)
  | stage => stage

/-- The API creates a session with the number of events that it counted; a
worker runs one session at a time, reads with one cursor, and counts an event
after it was sent, or not, once. -/
def replaying :
    Typestate Progress ReplayCommand ReplayReply PyException where
  awaits here
    | .start => here.up = false
    | .createSession session =>
        here.counted = some (session.config.filter, session.totalEvents) ∧
          here.uuid = some session.sessionId ∧
          session.config.maxEvents = maxEvents ∧
          session.totalEvents ≤ maxEvents ∧
          session.status = .scheduled ∧ session.accounted = 0
    | .oldestScheduled | .runningSessions => here.up = true
    | .saveSession session => here.up = true ∧ MaySave session here.stage
    | .openCursor filter =>
        here.up = true ∧ ∃ serving, here.stage = .serving serving ∧
          serving.opened = false ∧ filter = serving.session.config.filter
    | .readCursor =>
        here.up = true ∧ ∃ serving, here.stage = .serving serving ∧
          serving.opened = true ∧ serving.broken = false
    | .publish event _ =>
        here.up = true ∧ ∃ serving doc, here.stage = .serving serving ∧
          serving.published = false ∧
          serving.reads[serving.session.accounted]? = some doc ∧
          event.eventId = doc.eventId
    | _ => True
  answers _
    | .runningSessions, .ok sessions =>
        (sessions.map ReplaySessionDocument.sessionId).Nodup
    | .oldestScheduled, .ok (some session) => session.accounted = 0
    | command, .error error => command.mayRaise error = true
    | _, .ok _ => True
  after here
    | .start, .ok () => { here with up := true }
    | .uuid, .ok uuid => { here with uuid := some uuid }
    | .countEvents filter, .ok count =>
        { here with counted := some (filter, count) }
    | .countEvents _, .error _ => { here with counted := none }
    | .createSession _, _ => { here with uuid := none }
    | .oldestScheduled, .ok (some session) =>
        { here with stage := .claimed session }
    | .runningSessions, .ok sessions => { here with stage := .listed sessions }
    | .saveSession session, reply =>
        { here with stage := afterSave session reply here.stage }
    | .openCursor _, _ =>
        { here with
          stage := here.stage.map fun serving =>
            { serving with opened := true } }
    | .readCursor, reply => { here with stage := afterRead reply here.stage }
    | .publish .., _ =>
        { here with
          stage := here.stage.map fun serving =>
            { serving with published := true } }
    | _, _ => here

/-! ### The calls follow their stages -/

section Calls

variable {here : Progress}

private theorem follows_settled {α : Type} {program : ReplayProgram α}
    {post : Except PyException (Except PyException α) → Progress → Prop}
    (follows : replaying.Follows program
      (fun result => post (.ok result)) here) :
    replaying.Follows (settled program) post here := by
  unfold settled
  rw [Typestate.follows_attempt, Typestate.follows_bind]
  apply Typestate.follows_mono _ follows
  rintro (error | value) there reached
  · exact reached
  · exact reached

private theorem follows_now {post : Except PyException Nat → Progress → Prop}
    (leads : ∀ time, post (.ok time) here) :
    replaying.Follows (replay .now) post here := by
  apply Typestate.follows_call trivial
  rintro (error | time) may
  · cases may
  · exact leads time

private theorem follows_publishStatus (session : ReplaySessionDocument)
    {post : Except PyException Unit → Progress → Prop}
    (leads : ∀ result, post result here) :
    replaying.Follows (publishStatus session) post here := by
  unfold publishStatus
  rw [Typestate.follows_attempt]
  apply Typestate.follows_call trivial
  rintro (error | _) -
  · dsimp only
    split
    · exact leads _
    · exact leads _
  · exact leads _

/-- A session is saved, and its watchers are told. -/
theorem follows_save {session : ReplaySessionDocument}
    {post : Except PyException Unit → Progress → Prop} (up : here.up = true)
    (may : MaySave session here.stage)
    (leads : ∀ reply result, (reply = .ok () ∨ result = reply) →
      post result { here with stage := afterSave session reply here.stage }) :
    replaying.Follows
      (do
        replay (.saveSession session)
        publishStatus session) post here := by
  have awaits : replaying.awaits here (.saveSession session) := ⟨up, may⟩
  rw [Typestate.follows_bind]
  apply Typestate.follows_call awaits
  rintro (error | _) -
  · exact leads (.error error) _ (.inr rfl)
  · exact follows_publishStatus session fun result =>
      leads (.ok ()) result (.inl rfl)

/-- A session's end is saved. -/
theorem follows_finish {session : ReplaySessionDocument}
    {status : ReplayStatus}
    {post : Except PyException Unit → Progress → Prop} (up : here.up = true)
    (saves : ∀ completedAt, MaySave
      { session with status := status, completedAt := some completedAt }
      here.stage)
    (leads : ∀ (completedAt : Option Nat) reply result, post result
      { here with
        stage := afterSave
          { session with status := status, completedAt := completedAt }
          reply here.stage }) :
    replaying.Follows (finish session status) post here := by
  unfold finish
  rw [Typestate.follows_bind]
  apply follows_now
  intro completedAt
  exact follows_save up (saves completedAt) fun reply result _ =>
    leads (some completedAt) reply result

/-- The session that a worker works on is the one that it runs, whatever
happened to it last. -/
structure Holds (session : ReplaySessionDocument) (serving : Serving)
    (here : Progress) : Prop where
  up : here.up = true
  stage : here.stage = .serving serving
  same : Same session serving.session
  counts : session.accounted = serving.session.accounted

/-- A worker goes on with its session: what it has read and not yet counted is
the rest of its batch, and its cursor has ended when it has no more. -/
structure Runs (session : ReplaySessionDocument) (batch : List StoredEvent)
    (full : Bool) (serving : Serving) (here : Progress) : Prop
    extends Holds session serving here where
  status : session.status = .running
  opened : serving.opened = true
  whole : serving.broken = false
  counted : session.accounted ≤ serving.reads.length
  capped : session.accounted ≤ session.config.maxEvents
  rest : (serving.reads.drop session.accounted).map
    EventDocument.toStoredEvent = batch
  ended : full = false → serving.ended = true

/-- A worker is through with its session: it has counted what it read, up to
the most that it may. -/
structure Through (session : ReplaySessionDocument) (serving : Serving)
    (here : Progress) : Prop extends Holds session serving here where
  all : session.accounted =
    min session.config.maxEvents serving.reads.length
  whole : serving.broken = false
  ended : serving.ended = true ∨
    session.config.maxEvents ≤ serving.reads.length

/-- What a coroutine that works on a session leaves of it. -/
def Leaves (goesOn : ReplaySessionDocument → Progress → Prop)
    (result : Except PyException
      (ReplaySessionDocument × Except PyException Unit))
    (there : Progress) : Prop :=
  ∃ session replayed, result = .ok (session, replayed) ∧
    match replayed with
    | .ok () => goesOn session there
    | .error _ => ∃ serving, Holds session serving there

variable {session : ReplaySessionDocument} {doc : StoredEvent}
  {batch : List StoredEvent} {full : Bool} {serving : Serving}

/-- The event that comes next is one that was read. -/
theorem Runs.event (runs : Runs session (doc :: batch) full serving here) :
    ∃ read, serving.reads[serving.session.accounted]? = some read ∧
      read.toStoredEvent = doc ∧
      session.accounted + 1 ≤ serving.reads.length ∧
      (serving.reads.drop (session.accounted + 1)).map
        EventDocument.toStoredEvent = batch := by
  have rest := runs.rest
  rw [List.map_eq_cons_iff] at rest
  obtain ⟨read, others, dropped, same, mapped⟩ := rest
  have found : serving.reads[session.accounted]? = some read := by
    rw [← List.head?_drop, dropped]
    rfl
  refine ⟨read, runs.counts ▸ found, same, ?_, ?_⟩
  · obtain ⟨within, -⟩ := List.getElem?_eq_some_iff.mp found
    exact within
  · rw [← List.tail_drop, dropped]
    exact mapped

/-- An event is sent, or not. -/
theorem follows_produce (validates : StoredEvent → Bool) (timestamp : Nat)
    (runs : Runs session (doc :: batch) full serving here)
    (unsent : serving.published = false) :
    replaying.Follows (produce validates { doc with timestamp := timestamp })
      (fun _ there => ∃ serving,
        Runs session (doc :: batch) full serving there) here := by
  unfold produce
  split
  · rw [Typestate.follows_bind]
    apply Typestate.follows_call trivial
    rintro (error | _) -
    · exact ⟨serving, runs⟩
    · obtain ⟨read, found, same, -⟩ := runs.event
      have awaits : ∀ key, replaying.awaits here
          (.publish { doc with timestamp := timestamp } key) := by
        intro key
        refine ⟨runs.up, serving, read, runs.stage, unsent, found, ?_⟩
        rw [← same]
      apply Typestate.follows_call (awaits _)
      intro reply _
      refine ⟨{ serving with published := true }, ?_⟩
      exact { runs with
        stage := by
          show here.stage.map _ = _
          rw [runs.stage]
          rfl }
  · exact ⟨serving, runs⟩

/-- A session is saved with one more event counted. -/
theorem follows_record {counted : ReplaySessionDocument}
    (runs : Runs session (doc :: batch) full serving here)
    (same : Same counted session)
    (one : counted.accounted = session.accounted + 1)
    (status : counted.status = .running)
    (room : session.accounted < session.config.maxEvents) :
    replaying.Follows (record counted)
      (Leaves fun after there => after = counted ∧ ∃ serving,
        Runs counted batch full serving there ∧ serving.published = false)
      here := by
  obtain ⟨-, -, -, within, rest⟩ := runs.event
  have sameToo : Same counted serving.session := same.trans runs.same
  have capped : counted.accounted ≤ counted.config.maxEvents := by
    rw [one, same.config]
    exact room
  have may : MaySave counted here.stage := by
    rw [runs.stage]
    exact .counts sameToo (one.trans (by rw [runs.counts])) (one ▸ within)
      capped status
  have holds : ∀ reply, Runs counted batch full
      { serving with
        session := counted
        published := false }
      { here with stage := afterSave counted reply here.stage } := by
    intro reply
    constructor
    · refine ⟨runs.up, ?_, .refl _, rfl⟩
      rw [runs.stage]
      simp [afterSave, status]
    · exact status
    · exact runs.opened
    · exact runs.whole
    · exact one ▸ within
    · exact capped
    · rw [one]
      exact rest
    · exact runs.ended
  unfold record
  rw [Typestate.follows_bind]
  apply follows_settled
  apply follows_save runs.up may
  intro reply result _
  refine ⟨counted, result, rfl, ?_⟩
  cases result with
  | ok _ => exact ⟨rfl, _, holds reply, rfl⟩
  | error error => exact ⟨_, (holds reply).toHolds⟩

/-- One event is dealt with. -/
theorem follows_send (validates : StoredEvent → Bool)
    (text typeName : PyException → String)
    (runs : Runs session (doc :: batch) full serving here)
    (unsent : serving.published = false)
    (room : session.accounted < session.config.maxEvents) :
    replaying.Follows (send validates text typeName session doc)
      (Leaves fun after there =>
        after.accounted = session.accounted + 1 ∧
          after.config = session.config ∧ ∃ serving,
            Runs after batch full serving there ∧ serving.published = false)
      here := by
  have records : ∀ counted there serving,
      Runs session (doc :: batch) full serving there →
        Same counted session →
          counted.accounted = session.accounted + 1 →
            counted.status = .running →
              replaying.Follows (record counted)
                (Leaves fun after there =>
                  after.accounted = session.accounted + 1 ∧
                    after.config = session.config ∧ ∃ serving,
                      Runs after batch full serving there ∧
                        serving.published = false) there := by
    intro counted there serving runs same one status
    apply Typestate.follows_mono _ (follows_record runs same one status room)
    rintro _ last ⟨after, replayed, rfl, reached⟩
    refine ⟨after, replayed, rfl, ?_⟩
    cases replayed with
    | error error => exact reached
    | ok _ =>
        obtain ⟨rfl, goesOn⟩ := reached
        exact ⟨one, same.config, goesOn⟩
  unfold send
  rw [Typestate.follows_bind]
  apply follows_now
  intro now
  dsimp only
  rw [Typestate.follows_bind]
  apply follows_settled
  apply Typestate.follows_mono _ (follows_produce validates now runs unsent)
  rintro (error | _) there ⟨serving, runs⟩
  · dsimp only
    split
    · rw [Typestate.follows_bind]
      apply follows_now
      intro timestamp
      apply records _ there serving runs
      · exact ⟨rfl, rfl, rfl⟩
      · simp only [ReplaySessionDocument.accounted]
        omega
      · exact runs.status
    · exact ⟨session, .error error, rfl, serving, runs.toHolds⟩
  · apply records _ there serving runs
    · exact ⟨rfl, rfl, rfl⟩
    · simp only [ReplaySessionDocument.accounted]
      omega
    · exact runs.status

/-! ### The loop over the cursor -/

/-- What a worker has read after a batch, or when its cursor broke. -/
inductive Fetched (serving : Serving) (room : Nat) (here : Progress) :
    Except PyException (List StoredEvent) → Progress → Prop where
  | batch {docs : List EventDocument} {ended : Bool}
      (more : docs.length ≠ room → ended = true) :
      Fetched serving room here
        (.ok (docs.map EventDocument.toStoredEvent))
        { here with
          stage := .serving
            { serving with
              reads := serving.reads ++ docs
              ended := ended } }
  | broke {docs : List EventDocument} (error : PyException) :
      Fetched serving room here (.error error)
        { here with
          stage := .serving
            { serving with
              reads := serving.reads ++ docs
              broken := true } }

private theorem follows_fetchBatch (room : Nat) (up : here.up = true)
    (stage : here.stage = .serving serving) (opened : serving.opened = true)
    (whole : serving.broken = false) :
    replaying.Follows (ReplayRepository.fetchBatch room)
      (Fetched serving room here) here := by
  induction room generalizing here serving with
  | zero =>
      have same : here = { here with
          stage := .serving
            { serving with
              reads := serving.reads ++ []
              ended := serving.ended } } := by
        rw [List.append_nil, ← stage]
      show Fetched serving 0 here (.ok []) here
      nth_rewrite 2 [same]
      exact @Fetched.batch serving 0 here [] serving.ended fun more =>
        absurd rfl more
  | succ room inductionHypothesis =>
      have awaits : replaying.awaits here .readCursor :=
        ⟨up, serving, stage, opened, whole⟩
      unfold ReplayRepository.fetchBatch
      rw [Typestate.follows_bind]
      apply Typestate.follows_call awaits
      intro reply _
      have after : replaying.after here .readCursor reply =
          { here with stage := afterRead reply (.serving serving) } := by
        rw [← stage]
        rfl
      rw [after]
      rcases reply with error | _ | doc
      · have broke := @Fetched.broke serving (room + 1) here [] error
        rwa [List.append_nil] at broke
      · have ended := @Fetched.batch serving (room + 1) here [] true
          fun _ => rfl
        rwa [List.append_nil] at ended
      · dsimp only
        rw [Typestate.follows_bind]
        apply Typestate.follows_mono _ (@inductionHypothesis
          { here with stage := afterRead (.ok (some doc)) (.serving serving) }
          { serving with reads := serving.reads ++ [doc] } up rfl opened whole)
        intro result there fetched
        cases fetched with
        | @batch docs ended more =>
            have batch := @Fetched.batch serving (room + 1) here (doc :: docs)
              ended fun short => more fun same => short (by simp [same])
            rwa [List.append_cons] at batch
        | @broke docs error =>
            have broke := @Fetched.broke serving (room + 1) here (doc :: docs)
              error
            rwa [List.append_cons] at broke

/-- A worker that has counted all that it has read goes on with what it reads
next. -/
theorem Runs.fetched {docs : List EventDocument} {ended : Bool}
    (runs : Runs session [] full serving here)
    (more : docs.length ≠ batchSize → ended = true) :
    Runs session (docs.map EventDocument.toStoredEvent)
      (decide (docs.length = batchSize))
      { serving with
        reads := serving.reads ++ docs
        ended := ended }
      { here with
        stage := .serving
          { serving with
            reads := serving.reads ++ docs
            ended := ended } } := by
  have all : serving.reads.length ≤ session.accounted :=
    List.drop_eq_nil_iff.mp (List.map_eq_nil_iff.mp runs.rest)
  constructor
  · exact ⟨runs.up, rfl, runs.same, runs.counts⟩
  · exact runs.status
  · exact runs.opened
  · exact runs.whole
  · rw [List.length_append]
    exact runs.counted.trans (Nat.le_add_right ..)
  · exact runs.capped
  · rw [List.drop_append, List.drop_eq_nil_of_le all,
      Nat.sub_eq_zero_of_le runs.counted]
    rfl
  · intro short
    exact more (by simpa using short)

/-- A worker that has counted all that there was to read is through. -/
theorem Runs.through (runs : Runs session [] full serving here)
    (last : full = false) : Through session serving here := by
  have all : serving.reads.length ≤ session.accounted :=
    List.drop_eq_nil_iff.mp (List.map_eq_nil_iff.mp runs.rest)
  have counted := runs.counted
  have capped := runs.capped
  exact ⟨runs.toHolds, by omega, runs.whole, .inl (runs.ended last)⟩

/-- A replay that is through has counted what it read, up to the most that it
may send. -/
theorem follows_replayFrom (validates : StoredEvent → Bool)
    (text typeName : PyException → String) (remaining : Nat)
    (runs : Runs session batch full serving here)
    (unsent : serving.published = false)
    (left : session.accounted + remaining = session.config.maxEvents)
    (last : batch = [] → full = false) :
    replaying.Follows
      (replayFrom validates text typeName remaining session batch full)
      (Leaves fun after there => ∃ serving, Through after serving there)
      here := by
  induction remaining generalizing session batch full serving here with
  | zero =>
      cases batch with
      | nil =>
          exact ⟨session, .ok (), rfl, serving, runs.through (last rfl)⟩
      | cons doc batch =>
          obtain ⟨-, -, -, more, -⟩ := runs.event
          refine ⟨session, .ok (), rfl, serving, runs.toHolds, ?_, runs.whole,
            .inr ?_⟩
          · omega
          · omega
  | succ remaining inductionHypothesis =>
      cases batch with
      | nil =>
          exact ⟨session, .ok (), rfl, serving, runs.through (last rfl)⟩
      | cons doc batch =>
          unfold replayFrom
          rw [Typestate.follows_bind]
          apply Typestate.follows_mono _ (follows_send validates text typeName
            runs unsent (by omega))
          rintro _ there ⟨after, replayed, rfl, reached⟩
          cases replayed with
          | error error => exact ⟨after, .error error, rfl, reached⟩
          | ok _ =>
              obtain ⟨one, config, serving, goesOn, unsent⟩ := reached
              have left' : after.accounted + remaining =
                  after.config.maxEvents := by
                rw [one, config]
                omega
              dsimp only
              split
              · next through =>
                  obtain ⟨rfl, -⟩ := through
                  rw [Typestate.follows_bind]
                  apply follows_settled
                  apply Typestate.follows_mono _ (follows_fetchBatch batchSize
                    goesOn.up goesOn.stage goesOn.opened goesOn.whole)
                  intro result later fetched
                  cases fetched with
                  | batch more =>
                      dsimp only
                      rw [List.length_map]
                      apply inductionHypothesis (goesOn.fetched more) unsent
                        left'
                      intro none
                      rw [List.map_eq_nil_iff] at none
                      simp [none, batchSize]
                  | broke error =>
                      exact ⟨after, .error error, rfl, _, goesOn.up, rfl,
                        goesOn.same, goesOn.counts⟩
              · next more =>
                  apply inductionHypothesis goesOn unsent left'
                  intro none
                  simpa [none] using more

/-- A replay from the start. -/
theorem follows_replayEvents (validates : StoredEvent → Bool)
    (text typeName : PyException → String) (up : here.up = true)
    (stage : here.stage = .serving { session := session })
    (status : session.status = .running) (none : session.accounted = 0) :
    replaying.Follows (replayEvents validates text typeName session)
      (Leaves fun after there => ∃ serving, Through after serving there)
      here := by
  have awaits : replaying.awaits here (.openCursor session.config.filter) :=
    ⟨up, { session := session }, stage, rfl, rfl⟩
  unfold replayEvents
  rw [Typestate.follows_bind]
  apply Typestate.follows_call awaits
  have after : ∀ reply,
      replaying.after here (.openCursor session.config.filter) reply =
        { here with
          stage := .serving
            { session := session
              opened := true } } := by
    intro reply
    show { here with stage := here.stage.map _ } = _
    rw [stage]
    rfl
  intro reply may
  rw [after reply]
  cases reply with
  | error error => cases may
  | ok _ =>
      have opened : Runs session [] true
          { session := session
            opened := true }
          { here with
            stage := .serving
              { session := session
                opened := true } } := by
        refine ⟨⟨up, rfl, .refl _, rfl⟩, status, rfl, rfl, ?_, ?_, ?_,
          ?_⟩
        · simp [none]
        · simp [none]
        · simp
        · simp
      dsimp only
      rw [Typestate.follows_bind]
      apply follows_settled
      apply Typestate.follows_mono _ (follows_fetchBatch batchSize
        opened.up opened.stage opened.opened opened.whole)
      intro result later fetched
      cases fetched with
      | @batch docs ended more =>
          dsimp only
          rw [List.length_map]
          apply follows_replayFrom validates text typeName _
            (opened.fetched more) rfl (by rw [none, Nat.zero_add])
          intro empty
          rw [List.map_eq_nil_iff] at empty
          simp [empty, batchSize]
      | broke error =>
          exact ⟨session, .error error, rfl, _, up, rfl, .refl _, rfl⟩

/-- A session's end leaves its worker up. -/
theorem follows_finish_up {status : ReplayStatus} (up : here.up = true)
    (saves : ∀ completedAt, MaySave
      { session with status := status, completedAt := some completedAt }
      here.stage) :
    replaying.Follows (finish session status) (fun _ there => there.up = true)
      here :=
  follows_finish up saves fun _ _ _ => up

/-! ### Workers and the API -/

/-- A job of the worker, whatever becomes of it. -/
theorem follows_runNextSession (validates : StoredEvent → Bool)
    (text typeName : PyException → String) (up : here.up = true) :
    replaying.Follows (runNextSession validates text typeName)
      (fun _ there => there.up = true) here := by
  unfold runNextSession
  rw [Typestate.follows_bind]
  apply Typestate.follows_call up
  rintro (error | _ | scheduled) none
  · exact up
  · exact up
  · dsimp only
    rw [Typestate.follows_bind]
    apply follows_now
    intro startedAt
    have begins : MaySave
        { scheduled with
          status := .running
          startedAt := some startedAt } (.claimed scheduled) :=
      .begins ⟨rfl, rfl, rfl⟩ rfl rfl
    have awaits : replaying.awaits
        { here with stage := .claimed scheduled }
        (.saveSession
          { scheduled with
            status := .running
            startedAt := some startedAt }) := ⟨up, begins⟩
    dsimp only
    rw [Typestate.follows_bind]
    apply Typestate.follows_call awaits
    rintro (error | _) -
    · exact up
    · dsimp only
      rw [Typestate.follows_bind]
      apply follows_publishStatus
      rintro (error | _)
      · exact up
      · have empty : ReplaySessionDocument.accounted
            { scheduled with
              status := .running
              startedAt := some startedAt } = 0 := none
        dsimp only
        rw [Typestate.follows_bind]
        apply Typestate.follows_mono _ (@follows_replayEvents
          { here with
            stage := .serving
              { session :=
                  { scheduled with
                    status := .running
                    startedAt := some startedAt } } }
          _ validates text typeName up rfl rfl empty)
        rintro _ there ⟨after, replayed, rfl, reached⟩
        cases replayed with
        | ok _ =>
            obtain ⟨serving, through⟩ := reached
            apply follows_finish_up through.up
            intro completedAt
            rw [through.stage]
            have same := through.same
            exact .completes ⟨same.id, same.config, same.total⟩ through.counts
              through.all through.whole through.ended rfl
        | error error =>
            obtain ⟨serving, holds⟩ := reached
            dsimp only
            rw [Typestate.follows_bind]
            apply follows_now
            intro timestamp
            dsimp only
            rw [Typestate.follows_bind]
            have saves : ∀ completedAt, MaySave
                { after with
                  errors := after.errors ++
                    [replayError text typeName timestamp error]
                  status := .failed
                  completedAt := some completedAt } there.stage := by
              intro completedAt
              rw [holds.stage]
              have same := holds.same
              exact .fails ⟨same.id, same.config, same.total⟩ holds.counts rfl
            apply Typestate.follows_mono _ (follows_finish_up holds.up saves)
            rintro (_ | _) last stays
            · exact stays
            · exact stays

/-- The sessions that were cut off are failed one after the other. -/
theorem follows_failInterrupted {sessions listed : List ReplaySessionDocument}
    (up : here.up = true) (stage : here.stage = .listed listed)
    (among : ∀ session ∈ sessions, session ∈ listed)
    (distinct : (sessions.map ReplaySessionDocument.sessionId).Nodup) :
    replaying.Follows (failInterrupted sessions)
      (fun _ there => there.up = true) here := by
  induction sessions generalizing here listed with
  | nil => exact up
  | cons session sessions inductionHypothesis =>
      obtain ⟨apart, rest⟩ := List.nodup_cons.mp distinct
      unfold failInterrupted
      rw [Typestate.follows_bind]
      apply follows_now
      intro timestamp
      dsimp only
      rw [Typestate.follows_bind]
      apply follows_finish up
      · intro completedAt
        rw [stage]
        exact .cuts (among session (by simp)) ⟨rfl, rfl, rfl⟩ rfl rfl
      · intro completedAt reply result
        cases result with
        | error error => exact up
        | ok _ =>
            dsimp only
            apply @inductionHypothesis _ (listed.filter fun other =>
              other.sessionId != session.sessionId) _ _ _ rest
            · exact up
            · rw [stage]
              rfl
            · intro other member
              apply List.mem_filter.mpr ⟨among other (by simp [member]), _⟩
              rw [bne_iff_ne]
              rintro same
              exact apart (same ▸ List.mem_map_of_mem member)

private theorem follows_worker (validates : StoredEvent → Bool)
    (text typeName : PyException → String) (fresh : here.up = false) :
    replaying.Follows (worker validates text typeName) (fun _ _ => True)
      here := by
  unfold worker
  rw [Typestate.follows_bind]
  apply Typestate.follows_call fresh
  rintro (error | _) may
  · cases may
  · dsimp only
    rw [Typestate.follows_bind]
    unfold failInterruptedSessions
    rw [Typestate.follows_bind]
    apply Typestate.follows_call rfl
    rintro (error | sessions) distinct
    · trivial
    · apply Typestate.follows_mono _ (follows_failInterrupted rfl rfl
        (fun _ => id) distinct)
      rintro (error | _) there up
      · trivial
      · have jobs : ∀ head : Progress, head.up = true → True ∧
            replaying.Follows
              (do
                let _ ← settled (runNextSession validates text typeName)
                pure true)
              (fun _ there => there.up = true) head := by
          intro head up
          refine ⟨trivial, ?_⟩
          rw [Typestate.follows_bind]
          apply follows_settled
          exact follows_runNextSession validates text typeName up
        exact Typestate.follows_mono (fun _ _ _ => trivial)
          (Typestate.follows_repeatWhile_keeping jobs up)

private theorem follows_prepare (replayFilter : ReplayFilter) (dryRun : Bool)
    (replayId : String) :
    replaying.Follows
      (AdminEventsService.prepareOrScheduleReplay replayFilter dryRun replayId)
      (fun _ _ => True) here := by
  unfold AdminEventsService.prepareOrScheduleReplay
  split
  · trivial
  · rw [Typestate.follows_bind]
    apply Typestate.follows_call trivial
    rintro (error | eventCount) -
    · trivial
    · dsimp only
      split
      · trivial
      split
      · trivial
      next few =>
      split
      · rw [Typestate.follows_bind]
        apply Typestate.follows_call trivial
        rintro (error | preview) -
        · trivial
        · trivial
      · next real =>
        have within : eventCount ≤ maxEvents := by
          by_contra more
          exact few ⟨not_le.mp more, by simpa using real⟩
        rw [Typestate.follows_bind]
        apply Typestate.follows_call trivial
        rintro (error | sessionId) may
        · cases may
        dsimp only
        rw [Typestate.follows_bind]
        apply follows_now
        intro createdAt
        dsimp only
        rw [Typestate.follows_bind]
        have awaits : replaying.awaits
            { here with
              counted := some (replayFilter, eventCount)
              uuid := some sessionId }
            (.createSession
              { sessionId := sessionId
                config :=
                  { filter := replayFilter
                    maxEvents := maxEvents }
                totalEvents := eventCount
                createdAt := createdAt
                replayId := replayId }) :=
          ⟨rfl, rfl, rfl, within, rfl, rfl⟩
        apply Typestate.follows_call awaits
        rintro (error | _) -
        · trivial
        · trivial

/-- Every caller follows its typestate from the start. -/
theorem follows_run (validates : StoredEvent → Bool)
    (text typeName : PyException → String) (call : ReplayCall) :
    replaying.Follows (call.run validates text typeName) (fun _ _ => True)
      {} := by
  cases call with
  | prepare replayFilter dryRun replayId =>
      unfold ReplayCall.run
      rw [Typestate.follows_bind]
      apply Typestate.follows_mono _
        (follows_prepare replayFilter dryRun replayId)
      rintro (error | _) there -
      · trivial
      · trivial
  | worker => exact follows_worker validates text typeName rfl

end Calls

end ReplaySteps

end Integr8s
