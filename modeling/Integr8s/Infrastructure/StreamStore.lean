/-
Module: Integr8s.Infrastructure.StreamStore
Purpose: What the event streams read and listen to: the stored executions and
  replay sessions and the channels, the commands that a stream awaits, and
  what the rest of the system does meanwhile.
Trusted boundary: human-reviewed spec
Main exports: StreamStore, StreamCommand, StreamStore.effect, StreamEvent,
  StreamStore.happen, streamBackend, StreamProgram
-/
import Integr8s.Db.ExecutionRepository
import Integr8s.Domain.Streams
import Integr8s.Infrastructure.Outcomes
import Integr8s.Lib.PubSub

namespace Integr8s

namespace SSERedisBus

def executionChannel (executionId : ExecutionId) : String :=
  "sse:exec:" ++ executionId

def notificationChannel (userId : UserId) : String :=
  "sse:notif:" ++ userId

def replayChannel (sessionId : ReplaySessionId) : String :=
  "sse:replay:" ++ sessionId

end SSERedisBus

/-- The stored executions and replay sessions, the channels, and what each
stream sent to its client, which no command reads. -/
structure StreamStore where
  executions : Executions := fun _ => none
  sessions : Collection ReplaySessionId ReplaySessionDocument :=
    fun _ => none
  bus : PubSub String Caller StreamMessage := {}
  sent : Caller → List StreamMessage := fun _ => []

/-- What a stream awaits.  `send` hands an event to the client. -/
inductive StreamCommand where
  | getExecution (executionId : ExecutionId)
  | getTerminalResult (executionId : ExecutionId)
  | getReplaySession (sessionId : ReplaySessionId)
  | subscribe (channel : String)
  | listen
  | unsubscribe
  | send (message : StreamMessage)
deriving DecidableEq

abbrev StreamReply : StreamCommand → Type
  | .getExecution _ => Option ExecutionDocument
  | .getTerminalResult _ => Option ExecutionResultDomain
  | .getReplaySession _ => Option ReplaySessionDocument
  | .subscribe _ => Unit
  | .listen => StreamMessage
  | .unsubscribe => Unit
  | .send _ => Unit

/-- Whether a command that goes wrong may raise this: to close a connection
does not fail, and a client that is gone ends its stream. -/
def StreamCommand.mayRaise : StreamCommand → PyException → Bool
  | .unsubscribe, _ | .send _, _ => false
  | _, _ => true

/-- The stored result of a finished execution, or nothing while it hasn't
finished. -/
def Executions.getTerminalResult (executions : Executions)
    (executionId : ExecutionId) : Option ExecutionResultDomain :=
  match executions.getExecution executionId with
  | none => none
  | some doc =>
      if doc.status.isTerminal then
        some
          { executionId := doc.executionId
            status := doc.status
            exitCode := doc.exitCode
            stdout := doc.stdout
            stderr := doc.stderr
            resourceUsage := doc.resourceUsage
            errorType := doc.errorType }
      else none

namespace StreamStore

/-- A command that goes through; a stream that listens waits for a message. -/
def effect (caller : Caller) (store : StreamStore) :
    (command : StreamCommand) → Option (StreamReply command × StreamStore)
  | .getExecution executionId =>
      some (store.executions.getExecution executionId, store)
  | .getTerminalResult executionId =>
      some (store.executions.getTerminalResult executionId, store)
  | .getReplaySession sessionId => some (store.sessions sessionId, store)
  | .subscribe channel =>
      some ((), { store with bus := store.bus.subscribe caller channel })
  | .listen => (store.bus.next? caller).map fun (message, bus) =>
      (message, { store with bus := bus })
  | .unsubscribe =>
      some ((), { store with bus := store.bus.unsubscribe caller })
  | .send message =>
      some ((), { store with
        sent := Function.update store.sent caller
          (store.sent caller ++ [message]) })

end StreamStore

/-- What the rest of the system does: it stores and deletes executions, saves
replay sessions, forwards a domain event, tells of a replay session, or pushes
a notification. -/
inductive StreamEvent where
  | createExecution (doc : ExecutionDocument)
  | writeExecution (call : RepositoryCall)
  | deleteExecution (executionId : ExecutionId)
  | saveSession (session : ReplaySessionDocument)
  | forward (timestamp : Nat) (event : DomainEvent)
  | publishReplayStatus (session : ReplaySessionDocument)
  | publishNotification (userId : UserId)
      (payload : DomainNotificationSSEPayload)

namespace StreamStore

def publish (store : StreamStore) (channel : String)
    (message : StreamMessage) : StreamStore :=
  { store with bus := store.bus.publish channel message }

def happen (store : StreamStore) : StreamEvent → StreamStore
  | .createExecution doc =>
      { store with executions := (store.executions.createExecution doc).2 }
  | .writeExecution call =>
      { store with executions := (call.perform store.executions).2 }
  | .deleteExecution executionId =>
      { store with
        executions := (store.executions.deleteExecution executionId).2 }
  | .saveSession session =>
      { store with
        sessions := store.sessions.insert session.sessionId session }
  | .forward timestamp event =>
      if event.executionId = "" then store
      else
        store.publish (SSERedisBus.executionChannel event.executionId)
          (.execution (forwarded timestamp event))
  | .publishReplayStatus session =>
      store.publish (SSERedisBus.replayChannel session.sessionId)
        (.replay session.ssePayload)
  | .publishNotification userId payload =>
      store.publish (SSERedisBus.notificationChannel userId)
        (.notification payload)

end StreamStore

/-- The streams of all API processes.  A stream whose client is gone gives up
its subscription. -/
def streamBackend : System Caller StreamStore StreamCommand StreamReply
    PyException Outcome StreamEvent where
  perform caller store command outcome :=
    match outcome with
    | .fails error =>
        if command.mayRaise error then some (.error error, store) else none
    | _ => (store.effect caller command).bind fun (reply, next) =>
        outcome.perform command.mayRaise store (.ok reply, next)
  environment store event := some (store.happen event)
  kill store caller :=
    some { store with bus := store.bus.unsubscribe caller }

/-- A coroutine of the event streams. -/
abbrev StreamProgram (α : Type) : Type 1 :=
  Coroutine StreamCommand StreamReply PyException α

/-- Await a command of a stream. -/
abbrev stream (command : StreamCommand) :
    StreamProgram (StreamReply command) :=
  Coroutine.call command

/-- The state of a run: the store and the streams that are open. -/
abbrev Streams := Callers Caller StreamStore StreamCommand StreamReply
  PyException Unit

end Integr8s
