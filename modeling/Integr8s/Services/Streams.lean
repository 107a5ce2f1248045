/-
Module: Integr8s.Services.Streams
Purpose: The event streams to browsers: an execution's stream opens with the
  stored status and then follows its channel until the end, a replay session's
  likewise, and a user's notification stream follows its channel for good.
Trusted boundary: human-reviewed spec
Main exports: SSERedisBus.listening, SSEService.createExecutionStream,
  SSEService.createNotificationStream, SSEService.createReplayStream,
  StreamCall, StreamCall.start
-/
import Integr8s.Domain.Users
import Integr8s.Infrastructure.StreamStore

namespace Integr8s

namespace SSERedisBus

/-- Listen to a channel as long as the messages' handler says so; the
subscription is given up whatever ends it. -/
def listening (channel : String)
    (handle : StreamMessage → StreamProgram Bool) : StreamProgram Unit :=
  (do
    stream (.subscribe channel)
    Coroutine.repeatWhile do
      let message ← stream .listen
      handle message : StreamProgram Unit).andThen fun result =>
    (stream .unsubscribe).andThen fun _ => .done result

end SSERedisBus

namespace SSEService

open SSERedisBus

/-- `result_stored` carries only a reference, so the result is read. -/
def withResult (executionId : ExecutionId) (event : SSEExecutionEventData) :
    StreamProgram SSEExecutionEventData := do
  if event.eventType = .event .resultStored then
    let result ← stream (.getTerminalResult executionId)
    pure { event with result := result }
  else pure event

/-- Pass an event on; a terminal one is the last. -/
def forwardEvent (executionId : ExecutionId) :
    StreamMessage → StreamProgram Bool
  | .execution event => do
      let event ← withResult executionId event
      stream (.send (.execution event))
      pure (!event.eventType.isPipelineTerminal)
  | _ => Coroutine.raise .validationError

def executionPipeline (execution : ExecutionDocument) :
    StreamProgram Unit := do
  stream (.send (.execution
    { eventType := .status
      executionId := execution.executionId
      timestamp := some execution.updatedAt
      status := some execution.status }))
  if execution.status.isTerminal then
    let result ← stream (.getTerminalResult execution.executionId)
    stream (.send (.execution
      { eventType := .event .resultStored
        executionId := execution.executionId
        timestamp := some execution.updatedAt
        result := result }))
  else
    listening (executionChannel execution.executionId)
      (forwardEvent execution.executionId)

/-- The execution has an owner, who is somebody else, and no admin asks. -/
def denies (execution : ExecutionDocument) (userId : UserId)
    (userRole : UserRole) : Bool :=
  match execution.userId with
  | none => false
  | some owner => owner != "" && owner != userId && userRole != .admin

/-- Validate access, then stream. -/
def createExecutionStream (executionId : ExecutionId) (userId : UserId)
    (userRole : UserRole) : StreamProgram Unit := do
  match ← stream (.getExecution executionId) with
  | none => Coroutine.raise (.executionNotFoundError executionId)
  | some execution =>
      if denies execution userId userRole then
        Coroutine.raise (.otherError "Access denied")
      else executionPipeline execution

def forwardNotification : StreamMessage → StreamProgram Bool
  | .notification payload => do
      stream (.send (.notification payload))
      pure true
  | _ => Coroutine.raise .validationError

def createNotificationStream (userId : UserId) : StreamProgram Unit :=
  listening (notificationChannel userId) forwardNotification

def forwardStatus : StreamMessage → StreamProgram Bool
  | .replay status => do
      stream (.send (.replay status))
      pure (!status.status.isTerminal)
  | _ => Coroutine.raise .validationError

def replayPipeline (initialStatus : DomainReplaySSEPayload) :
    StreamProgram Unit := do
  stream (.send (.replay initialStatus))
  if initialStatus.status.isTerminal then pure ()
  else listening (replayChannel initialStatus.sessionId) forwardStatus

/-- The route reads the session, then streams. -/
def createReplayStream (sessionId : ReplaySessionId) :
    StreamProgram Unit := do
  match ← stream (.getReplaySession sessionId) with
  | none => Coroutine.raise (.notFoundError "Replay session" sessionId)
  | some session => replayPipeline session.ssePayload

end SSEService

/-- A request that opens a stream. -/
inductive StreamCall where
  | execution (executionId : ExecutionId) (userId : UserId)
      (userRole : UserRole)
  | notifications (userId : UserId)
  | replay (sessionId : ReplaySessionId)

namespace StreamCall

def run : StreamCall → StreamProgram Unit
  | execution executionId userId userRole =>
      SSEService.createExecutionStream executionId userId userRole
  | notifications userId => SSEService.createNotificationStream userId
  | replay sessionId => SSEService.createReplayStream sessionId

/-- Any number of streams over a store. -/
def start (store : StreamStore) (calls : Caller → StreamCall) : Streams where
  shared := store
  running caller := some (calls caller).run

/-- The channel that a stream listens to. -/
def channel : StreamCall → String
  | execution executionId _ _ => SSERedisBus.executionChannel executionId
  | notifications userId => SSERedisBus.notificationChannel userId
  | replay sessionId => SSERedisBus.replayChannel sessionId

/-- What a stream is about has come to its end in the database. -/
def ended (store : StreamStore) : StreamCall → Bool
  | execution executionId _ _ =>
      (store.executions executionId).any fun doc => doc.status.isTerminal
  | notifications _ => false
  | replay sessionId =>
      (store.sessions sessionId).any fun session => session.status.isTerminal

end StreamCall

end Integr8s
