/-
Module: Integr8s.Infrastructure.ReplayStore
Purpose: The stored events and replay sessions, the commands that the replay
  services await, and how a command may go.
Trusted boundary: human-reviewed spec
Main exports: ReplayStore, ReplayLog, ReplayCommand, ReplayStore.effect,
  replayBackend, ReplayProgram
-/
import Integr8s.Domain.Replay
import Integr8s.Infrastructure.Outcomes
import Integr8s.Lib.LiveCursor

namespace Integr8s

/-- What happened to the replays, which nothing reads: the change of the events
as of which a caller last counted them, the one as of which the events of a
session were counted, the one as of which it ended, the session that a worker
last marked as running, and the documents that were read and the events that
were sent for a session, in order. -/
structure ReplayLog where
  countedAt : Caller → Nat := fun _ => 0
  basis : ReplaySessionId → Nat := fun _ => 0
  closedAt : ReplaySessionId → Option Nat := fun _ => none
  serving : Caller → Option ReplaySessionId := fun _ => none
  reads : ReplaySessionId → List EventDocument := fun _ => []
  sent : ReplaySessionId → List EventId := fun _ => []

/-- The events and the sessions in the database, the cursors that are open on
the events, and the worker process that is up.  The clock counts
microseconds. -/
structure ReplayStore where
  clock : Nat := 0
  events : Timeline EventDocument
  nextId : Nat
  sessions : List ReplaySessionDocument := []
  uuids : List String := []
  worker : Option Caller := none
  cursors : Caller → Option (LiveCursor EventDocument) := fun _ => none
  log : ReplayLog := {}

/-- What the replay services await, and the start of a worker process. -/
inductive ReplayCommand where
  | start
  | now
  | uuid
  | countEvents (filter : ReplayFilter)
  | previewEvents (filter : ReplayFilter) (limit : Nat)
  | createSession (session : ReplaySessionDocument)
  | oldestScheduled
  | runningSessions
  | saveSession (session : ReplaySessionDocument)
  | openCursor (filter : ReplayFilter)
  | readCursor
  | storeEvent (event : StoredEvent)
  | publish (event : StoredEvent) (key : String)
  | publishStatus (payload : ReplaySessionDocument)

abbrev ReplayReply : ReplayCommand → Type
  | .start => Unit
  | .now => Nat
  | .uuid => String
  | .countEvents _ => Nat
  | .previewEvents .. => List EventSummary
  | .createSession _ => Unit
  | .oldestScheduled => Option ReplaySessionDocument
  | .runningSessions => List ReplaySessionDocument
  | .saveSession _ => Unit
  | .openCursor _ => Unit
  | .readCursor => Option EventDocument
  | .storeEvent _ => Unit
  | .publish .. => Unit
  | .publishStatus _ => Unit

/-- Whether a command that goes wrong may raise this.  A cursor is opened
without an await. -/
def ReplayCommand.mayRaise : ReplayCommand → PyException → Bool
  | .start, _ | .now, _ | .uuid, _ | .openCursor _, _ => false
  | _, _ => true

/-- What the environment decides when a command runs: how it goes, a new id,
and which document a cursor returns. -/
structure ReplayChoice where
  outcome : Outcome := .succeeds
  uuid : String := ""
  next : Option EventDocument := none

namespace ReplayStore

/-- The documents that a filter's query finds now. -/
def found (store : ReplayStore) (filter : ReplayFilter) : List EventDocument :=
  store.events.current.filter filter.finds

/-- Of some sessions the one that was created first. -/
def oldest : List ReplaySessionDocument → Option ReplaySessionDocument
  | [] => none
  | session :: sessions =>
      match oldest sessions with
      | none => some session
      | some other =>
          if session.createdAt ≤ other.createdAt then some session
          else some other

def withStatus (store : ReplayStore) (status : ReplayStatus) :
    List ReplaySessionDocument :=
  store.sessions.filter fun session => session.status == status

/-- Store an event, unless there is one with its id: `event_id` is unique. -/
def insertEvent (store : ReplayStore) (event : StoredEvent) : ReplayStore :=
  if store.events.current.any fun doc => doc.eventId == event.eventId then
    store
  else
    { store with
      events := store.events.change
        (store.events.current ++ [{ event with id := store.nextId }])
      nextId := store.nextId + 1 }

/-- A document of the events is removed. -/
def removeEvent (store : ReplayStore) (id : Nat) : ReplayStore :=
  { store with
    events := store.events.change
      (store.events.current.filter fun doc => doc.id != id) }

/-- A stored session after it was saved. -/
def replace (saved old : ReplaySessionDocument) : ReplaySessionDocument :=
  if old.sessionId = saved.sessionId then saved else old

/-- Save a session, and note that its worker runs it or that it ended. -/
def save (store : ReplayStore) (caller : Caller)
    (session : ReplaySessionDocument) : ReplayStore :=
  { store with
    sessions := store.sessions.map (replace session)
    log := { store.log with
      serving :=
        if session.status = .running then
          Function.update store.log.serving caller (some session.sessionId)
        else store.log.serving
      closedAt :=
        if session.status.isTerminal then
          Function.update store.log.closedAt session.sessionId
            (some store.events.epoch)
        else store.log.closedAt } }

/-- What is noted of a document that a worker read. -/
def noteRead (log : ReplayLog) (caller : Caller) :
    Option EventDocument → ReplayLog
  | none => log
  | some doc =>
      match log.serving caller with
      | none => log
      | some sessionId =>
          { log with
            reads := Function.update log.reads sessionId
              (log.reads sessionId ++ [doc]) }

/-- What is noted of an event that a worker sent. -/
def noteSent (log : ReplayLog) (caller : Caller) (eventId : EventId) :
    ReplayLog :=
  match log.serving caller with
  | none => log
  | some sessionId =>
      { log with
        sent := Function.update log.sent sessionId
          (log.sent sessionId ++ [eventId]) }

/-- A command that goes through, if it can with these choices.  A worker
process starts when no other is up: there is one replica.  What a cursor
returns is as free as a live cursor is. -/
def effect (caller : Caller) (choice : ReplayChoice) (store : ReplayStore) :
    (command : ReplayCommand) → Option (ReplayReply command × ReplayStore)
  | .start =>
      if store.worker = none then
        some ((), { store with worker := some caller })
      else none
  | .now => some (store.clock, store)
  | .uuid =>
      if choice.uuid ∈ store.uuids then none
      else
        some (choice.uuid, { store with uuids := choice.uuid :: store.uuids })
  | .countEvents filter =>
      some ((store.found filter).length, { store with
        log := { store.log with
          countedAt := Function.update store.log.countedAt caller
            store.events.epoch } })
  | .previewEvents filter limit =>
      some (((store.found filter).take limit).map EventDocument.summary, store)
  | .createSession session =>
      some ((), { store with
        sessions := store.sessions ++ [session]
        log := { store.log with
          basis := Function.update store.log.basis session.sessionId
            (store.log.countedAt caller) } })
  | .oldestScheduled => some (oldest (store.withStatus .scheduled), store)
  | .runningSessions => some (store.withStatus .running, store)
  | .saveSession session => some ((), store.save caller session)
  | .openCursor filter =>
      some ((), { store with
        cursors := Function.update store.cursors caller
          (some
            { since := store.events.epoch
              selects := filter.finds }) })
  | .readCursor =>
      (store.cursors caller).bind fun cursor =>
        (cursor.next (fun doc => doc.timestamp) store.events choice.next).map
          fun after => (choice.next, { store with
            cursors := Function.update store.cursors caller (some after)
            log := noteRead store.log caller choice.next })
  | .storeEvent event => some ((), store.insertEvent event)
  | .publish event _ =>
      some ((), { store with
        log := noteSent store.log caller event.eventId })
  | .publishStatus _ => some ((), store)

/-- The store after a worker process has ended. -/
def stopped (store : ReplayStore) (caller : Caller) : ReplayStore :=
  { store with
    worker := if store.worker = some caller then none else store.worker }

end ReplayStore

/-- Time passes, an event is stored by another service, an event is removed,
because its time is over or by an admin, or a session that ended is dropped. -/
inductive ReplayEvent where
  | tick (duration : Nat)
  | insert (event : StoredEvent)
  | remove (id : Nat)
  | dropSession (sessionId : ReplaySessionId)

/-- The calls of the replay services over one store. -/
def replayBackend : System Caller ReplayStore ReplayCommand ReplayReply
    PyException ReplayChoice ReplayEvent where
  perform caller store command choice :=
    (store.effect caller choice command).bind fun went =>
      choice.outcome.perform command.mayRaise store (.ok went.1, went.2)
  environment
    | store, .tick duration =>
        some { store with clock := store.clock + duration }
    | store, .insert event => some (store.insertEvent event)
    | store, .remove id => some (store.removeEvent id)
    | store, .dropSession sessionId =>
        some { store with
          sessions := store.sessions.filter fun session =>
            session.sessionId != sessionId || !session.status.isTerminal }
  kill store caller := some (store.stopped caller)

/-- A coroutine of the replay services. -/
abbrev ReplayProgram (α : Type) : Type 1 :=
  Coroutine ReplayCommand ReplayReply PyException α

/-- Await a command of the replay services. -/
abbrev replay (command : ReplayCommand) : ReplayProgram (ReplayReply command) :=
  Coroutine.call command

/-- The state of a run: the store and the calls that still live. -/
abbrev Replays := Callers Caller ReplayStore ReplayCommand ReplayReply
  PyException Unit

end Integr8s
