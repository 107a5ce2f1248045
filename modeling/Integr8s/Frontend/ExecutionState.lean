/-
Module: Integr8s.Frontend.ExecutionState
Purpose: The execution of the editor page: what it shows, and its runs, which
  start, follow their streams and end at any time after they were asked for.
Trusted boundary: human-reviewed spec
Main exports: MutationObserver, ExecutionState, ExecutionState.Shows, Editor,
  EditorMove, editorMachine
-/
import Integr8s.Domain.Streams
import Integr8s.Lib.Machine

namespace Integr8s

/-- Calls of `execute`, in their order. -/
abbrev RunId := Nat

/-- The phases that a run sets. -/
inductive StreamPhase where
  | idle
  | queued
  | scheduled
  | running
deriving DecidableEq, Repr

/-- The phases that are shown. -/
inductive ExecutionPhase where
  | starting
  | of (phase : StreamPhase)
deriving DecidableEq, Repr

/-- `isActivePhase`, with the phase that it is. -/
def activePhase : ExecutionStatus → Option StreamPhase
  | .queued => some .queued
  | .scheduled => some .scheduled
  | .running => some .running
  | _ => none

/-- `FAILURE_MESSAGES`. -/
def failureMessage : SSEEventType → Option String
  | .event .executionFailed => some "Execution failed."
  | .event .executionTimeout => some "Execution timed out."
  | .event .resultFailed => some "Failed to store execution results."
  | _ => none

structure ExecutionResponse where
  executionId : ExecutionId
  status : ExecutionStatus
deriving DecidableEq, Repr

/-- How a start request ends: with its response, or with an error that may
have a detail. -/
abbrev StartOutcome := Except (Option String) ExecutionResponse

/-- What is shown of the start requests. -/
inductive Start where
  | idle
  | pending (run : RunId)
  | settled (detail : Option String)
deriving DecidableEq, Repr

/-- The observer of the start requests, which shows the last one only, and
none after a reset. -/
structure MutationObserver (Observer : Type) where
  create : Observer
  mutate : Observer → RunId → Observer
  reset : Observer → Observer
  settle : Observer → RunId → StartOutcome → Observer
  shows : Observer → Start
  shows_create : shows create = .idle
  shows_mutate : ∀ observer run, shows (mutate observer run) = .pending run
  shows_reset : ∀ observer, shows (reset observer) = .idle
  shows_settle : ∀ observer run outcome,
    shows (settle observer run outcome) =
      if shows observer = .pending run then
        .settled (match outcome with
          | .ok _ => none
          | .error detail => detail)
      else shows observer

section

variable {Observer : Type} (mutation : MutationObserver Observer)

/-- The fields of the page's execution. -/
structure ExecutionState (Observer : Type) where
  phase : StreamPhase := .idle
  result : Option ExecutionResultDomain := none
  streamError : Option String := none
  controller : Option RunId := none
  start : Observer

namespace ExecutionState

/-- The phase that is shown. -/
def shownPhase (state : ExecutionState Observer) : ExecutionPhase :=
  match mutation.shows state.start with
  | .pending _ => .starting
  | _ => .of state.phase

/-- The error that is shown. -/
def error (state : ExecutionState Observer) : Option String :=
  match state.streamError with
  | some error => some error
  | none =>
      match mutation.shows state.start with
      | .settled detail => detail
      | _ => none

/-- What the page shows, and the run that an abort would reach. -/
structure Shows where
  phase : ExecutionPhase
  result : Option ExecutionResultDomain
  error : Option String
  controller : Option RunId
deriving DecidableEq, Repr

def shows (state : ExecutionState Observer) : Shows where
  phase := state.shownPhase mutation
  result := state.result
  error := state.error mutation
  controller := state.controller

def reset (state : ExecutionState Observer) : ExecutionState Observer :=
  { state with
    phase := .idle
    result := none
    streamError := none
    start := mutation.reset state.start }

end ExecutionState

/-- Where a run is. -/
inductive Continuation where
  | uncalled
  | starting
  | started (outcome : StartOutcome)
  | following
  | closing
  | finished
deriving DecidableEq

/-- The page: its execution, how often `execute` was called, where each run
is, and whose signal is aborted.  Whether an abort or a reset followed the
last call is remembered, and read by nothing. -/
structure Editor (Observer : Type) where
  state : ExecutionState Observer
  runs : Nat := 0
  continuation : RunId → Continuation := fun _ => .uncalled
  aborted : RunId → Bool := fun _ => false
  dismissed : Bool := false

namespace Editor

/-- A page on which nothing has run, although `execute` was called so often
before. -/
def fresh (runs : Nat) : Editor Observer where
  state := { start := mutation.create }
  runs := runs

variable (editor : Editor Observer)

def abort : Editor Observer :=
  { editor with
    state := { editor.state with phase := .idle, controller := none }
    aborted :=
      match editor.state.controller with
      | some run => Function.update editor.aborted run true
      | none => editor.aborted }

def reset : Editor Observer :=
  { editor with state := editor.state.reset mutation }

/-- The part of `execute` up to the start request. -/
def execute : Editor Observer :=
  let cleared := editor.abort.reset mutation
  { cleared with
    state :=
      { cleared.state with
        start := mutation.mutate cleared.state.start editor.runs }
    runs := editor.runs + 1
    continuation :=
      Function.update editor.continuation editor.runs .starting
    dismissed := false }

/-- The part of `#follow` up to the stream. -/
def follow (run : RunId) (data : ExecutionResponse) : Editor Observer :=
  { editor with
    state :=
      { editor.state with
        controller := some run
        phase := (activePhase data.status).getD .queued }
    continuation := Function.update editor.continuation run .following }

/-- What an event of the stream sets; one that is no object sets nothing. -/
def handle (run : RunId) : Option SSEExecutionEventData → Editor Observer
  | none => editor
  | some event =>
      let phase := (event.status.bind activePhase).getD editor.state.phase
      if event.eventType = .event .resultStored then
        { editor with
          state :=
            { editor.state with phase := phase, result := event.result }
          continuation := Function.update editor.continuation run .closing }
      else
        match failureMessage event.eventType with
        | some failure =>
            { editor with
              state :=
                { editor.state with
                  phase := phase
                  result := event.result
                  streamError := some failure }
              continuation :=
                Function.update editor.continuation run .closing }
        | none => { editor with state := { editor.state with phase := phase } }

/-- The end of `#follow`. -/
def finish (run : RunId) (terminalReceived : Bool) : Editor Observer :=
  { editor with
    state :=
      { editor.state with
        streamError :=
          if !terminalReceived && !editor.aborted run then
            some "Connection to server lost."
          else editor.state.streamError
        controller := none
        phase := .idle }
    continuation := Function.update editor.continuation run .finished }

end Editor

/-- What may happen on the page: a call of one of the methods; a start request
ends, and its run goes on; an event or the end of a run's stream, the moment
after its last event, or an error that ends the run. -/
inductive EditorMove where
  | execute
  | abort
  | reset
  | settle (run : RunId) (outcome : StartOutcome)
  | resume (run : RunId)
  | event (run : RunId) (event : Option SSEExecutionEventData)
  | streamEnds (run : RunId)
  | closed (run : RunId)
  | throws (run : RunId)
deriving DecidableEq

/-- The page with any number of runs. -/
def editorMachine : Machine (Editor Observer) EditorMove where
  step editor move :=
    match move with
    | .execute => some (editor.execute mutation)
    | .abort => some { editor.abort with dismissed := true }
    | .reset => some { editor.reset mutation with dismissed := true }
    | .settle run outcome =>
        if editor.continuation run = .starting then
          some { editor with
            state :=
              { editor.state with
                start := mutation.settle editor.state.start run outcome }
            continuation :=
              Function.update editor.continuation run (.started outcome) }
        else none
    | .resume run =>
        match editor.continuation run with
        | .started (.ok data) => some (editor.follow run data)
        | .started (.error _) =>
            some { editor with
              continuation := Function.update editor.continuation run .finished }
        | _ => none
    | .event run event =>
        if editor.continuation run = .following then
          some (editor.handle run event)
        else none
    | .streamEnds run =>
        if editor.continuation run = .following then
          some (editor.finish run false)
        else none
    | .closed run =>
        if editor.continuation run = .closing then
          some (editor.finish run true)
        else none
    | .throws run =>
        if editor.continuation run = .following then
          some { editor with
            continuation := Function.update editor.continuation run .finished }
        else none

end

end Integr8s
