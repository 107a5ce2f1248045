/-
Module: Integr8s.Services.EventReplay
Purpose: The replay of stored events: the API stores a session, and a worker
  process runs the sessions one after the other and records their progress.
Trusted boundary: human-reviewed spec
Main exports: AdminEventsService.prepareOrScheduleReplay,
  ReplayRepository.fetchBatch, EventReplayService.send,
  EventReplayService.replayFrom, EventReplayService.runNextSession,
  EventReplayService.failInterruptedSessions, ReplayCall
-/
import Integr8s.Infrastructure.ReplayStore

namespace Integr8s

namespace AdminEventsService

def maxEvents : Nat := 1000

/-- Preview the events a filter matches, or store a session for the worker's
replay job, with the number of events that match now. -/
def prepareOrScheduleReplay (replayFilter : ReplayFilter) (dryRun : Bool)
    (replayId : String) : ReplayProgram AdminReplayResult := do
  if replayFilter.isEmpty then
    Coroutine.raise (.domainValidationError
      "Must specify at least one filter for replay")
  else
    let eventCount ← replay (.countEvents replayFilter)
    if eventCount = 0 then
      Coroutine.raise (.notFoundError "Events" "matching criteria")
    else if maxEvents < eventCount ∧ dryRun = false then
      Coroutine.raise (.domainValidationError
        ("Too many events to replay (" ++ toString eventCount ++
          "). Maximum is " ++ toString maxEvents ++ "."))
    else if dryRun then
      let eventsPreview ← replay (.previewEvents replayFilter 100)
      pure
        { dryRun := true
          totalEvents := eventCount
          replayId := replayId
          status := .preview
          eventsPreview := some eventsPreview }
    else
      let sessionId ← replay .uuid
      let createdAt ← replay .now
      replay (.createSession
        { sessionId := sessionId
          config := { filter := replayFilter, maxEvents := maxEvents }
          totalEvents := eventCount
          createdAt := createdAt
          replayId := replayId })
      pure
        { dryRun := false
          totalEvents := eventCount
          replayId := replayId
          sessionId := some sessionId
          status := .scheduled }

end AdminEventsService

namespace ReplayRepository

/-- Read a batch: as many events as it still has room for, or fewer when the
cursor has no more. -/
def fetchBatch : Nat → ReplayProgram (List StoredEvent)
  | 0 => pure []
  | room + 1 => do
      match ← replay .readCursor with
      | none => pure []
      | some doc => do
          let batch ← fetchBatch room
          pure (doc.toStoredEvent :: batch)

end ReplayRepository

namespace EventReplayService

/-- `_BATCH_SIZE`. -/
def batchSize : Nat := 100

/-- `_SEND_ERRORS`. -/
def isSendError (error : PyException) : Bool :=
  error == .validationError || error.isProduceError

/-- What a coroutine leaves of the session that it works on, and what it
raises. -/
abbrev SessionProgram : Type 1 :=
  ReplayProgram (ReplaySessionDocument × Except PyException Unit)

/-- What a coroutine returns or raises, as a value. -/
def settled {α : Type} (program : ReplayProgram α) :
    ReplayProgram (Except PyException α) :=
  (do
    let value ← program
    pure (.ok value) : ReplayProgram (Except PyException α)).attempt
    fun error => pure (.error error)

/-- A Redis error is only logged. -/
def publishStatus (session : ReplaySessionDocument) : ReplayProgram Unit :=
  (replay (.publishStatus session)).attempt fun error =>
    if error = .redisError then pure () else Coroutine.raise error

variable (validates : StoredEvent → Bool) (text typeName : PyException → String)

/-- An entry of a session's errors for an exception. -/
def replayError (timestamp : Nat) (error : PyException) : ReplayError where
  timestamp := timestamp
  error := text error
  errorType := some (typeName error)

/-- Store a session's end. -/
def finish (session : ReplaySessionDocument) (status : ReplayStatus) :
    ReplayProgram Unit := do
  let completedAt ← replay .now
  let session :=
    { session with status := status, completedAt := some completedAt }
  replay (.saveSession session)
  publishStatus session

/-- Fail the sessions a worker restart cut off, since a replay doesn't pick up
where it stopped. -/
def failInterrupted : List ReplaySessionDocument → ReplayProgram Unit
  | [] => pure ()
  | session :: sessions => do
      let timestamp ← replay .now
      finish
        { session with
          errors := session.errors ++
            [{ timestamp := timestamp
               error := "The worker restarted during the replay" }] }
        .failed
      failInterrupted sessions

def failInterruptedSessions : ReplayProgram Unit := do
  let sessions ← replay .runningSessions
  failInterrupted sessions

/-- The key of an event's message: its aggregate id, or its own id when that is
missing or empty. -/
def messageKey (event : StoredEvent) : String :=
  match event.aggregateId with
  | none | some "" => event.eventId
  | some aggregateId => aggregateId

/-- Store the event, then publish it, when it is still valid. -/
def produce (event : StoredEvent) : ReplayProgram Unit := do
  if validates event then
    replay (.storeEvent event)
    replay (.publish event (messageKey event))
  else Coroutine.raise .validationError

/-- Save a session's progress and tell of it. -/
def record (session : ReplaySessionDocument) : SessionProgram := do
  let saved ← settled do
    replay (.saveSession session)
    publishStatus session
  pure (session, saved)

/-- Send one stored event again, stamped now; a failure counts against the
session and the replay goes on. -/
def send (session : ReplaySessionDocument) (doc : StoredEvent) :
    SessionProgram := do
  let now ← replay .now
  match ← settled (produce validates { doc with timestamp := now }) with
  | .ok () =>
      record { session with replayedEvents := session.replayedEvents + 1 }
  | .error error =>
      if isSendError error then
        let timestamp ← replay .now
        record
          { session with
            errors := session.errors ++
              [{ replayError text typeName timestamp error with
                 eventId := some doc.eventId }]
            failedEvents := session.failedEvents + 1 }
      else pure (session, .error error)

/-- Send the rest of a batch and then the batches that follow it, while the
session may send as many events more.  The cursor goes on when the batch is
through, and has more when the batch was full. -/
def replayFrom : Nat → ReplaySessionDocument → List StoredEvent → Bool →
    SessionProgram
  | _, session, [], _ => pure (session, .ok ())
  | 0, session, _ :: _, _ => pure (session, .ok ())
  | remaining + 1, session, doc :: batch, full => do
      let (session, sent) ← send validates text typeName session doc
      match sent with
      | .error error => pure (session, .error error)
      | .ok () =>
          if batch = [] ∧ full then
            match ← settled (ReplayRepository.fetchBatch batchSize) with
            | .error error => pure (session, .error error)
            | .ok batch =>
                replayFrom remaining session batch
                  (decide (batch.length = batchSize))
          else replayFrom remaining session batch full

/-- `_replay`. -/
def replayEvents (session : ReplaySessionDocument) : SessionProgram := do
  replay (.openCursor session.config.filter)
  match ← settled (ReplayRepository.fetchBatch batchSize) with
  | .error error => pure (session, .error error)
  | .ok batch =>
      replayFrom validates text typeName session.config.maxEvents session batch
        (decide (batch.length = batchSize))

/-- Run the oldest scheduled session to the end; an unexpected error fails it,
then propagates. -/
def runNextSession : ReplayProgram Unit := do
  match ← replay .oldestScheduled with
  | none => pure ()
  | some scheduled => do
      let startedAt ← replay .now
      let session :=
        { scheduled with status := .running, startedAt := some startedAt }
      replay (.saveSession session)
      publishStatus session
      let (session, replayed) ← replayEvents validates text typeName session
      match replayed with
      | .ok () => finish session .completed
      | .error error => do
          let timestamp ← replay .now
          finish
            { session with
              errors := session.errors ++
                [replayError text typeName timestamp error] }
            .failed
          Coroutine.raise error

/-- A worker process as far as replays go: it fails what was cut off, then its
job runs again and again, whatever became of it. -/
def worker : ReplayProgram Unit := do
  replay .start
  failInterruptedSessions
  Coroutine.repeatWhile do
    let _ ← settled (runNextSession validates text typeName)
    pure true

end EventReplayService

/-- One call of the admin API, or a worker process. -/
inductive ReplayCall where
  | prepare (replayFilter : ReplayFilter) (dryRun : Bool) (replayId : String)
  | worker

/-- Run a call for its effect. -/
def ReplayCall.run (validates : StoredEvent → Bool)
    (text typeName : PyException → String) : ReplayCall → ReplayProgram Unit
  | prepare replayFilter dryRun replayId => do
      let _ ← AdminEventsService.prepareOrScheduleReplay replayFilter dryRun
        replayId
      pure ()
  | worker => EventReplayService.worker validates text typeName

end Integr8s
