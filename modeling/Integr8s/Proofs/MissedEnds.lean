/-
Module: Integr8s.Proofs.MissedEnds
Purpose: A stream reads the stored status before it subscribes, so an end that
  is stored and published in between is missed and the stream waits for good;
  a stream that subscribes before the terminal message goes out never does.
Trusted boundary: none
Main exports: MissedEnds.MissesEnd, MissedEnds.SubscribesInTime,
  MissedEnds.end_never_missed, MissedEnds.end_missed
-/
import Integr8s.Proofs.StreamContents

namespace Integr8s

namespace MissedEnds

open StreamContents

/-- A stream waits for its next message while what it is about has ended in
the database and a terminal message has been published, and none is ahead of
it. -/
structure MissesEnd (calls : Caller → StreamCall) (state : Streams)
    (caller : Caller) : Prop where
  waits : state.awaited caller = some .listen
  ended : (calls caller).ended state.shared = true
  announced : ∃ message ∈ state.shared.bus.published (calls caller).channel,
    message.isTerminal = true
  nothingAhead : ∀ message ∈ state.shared.bus.ahead caller,
    message.isTerminal = false

/-- A stream subscribes only while no terminal message has gone out on the
channel. -/
def SubscribesInTime (state : Streams) :
    Move Caller Outcome StreamEvent → Prop
  | .caller caller choice => ∀ channel,
      state.awaited caller = some (.subscribe channel) →
        (∀ error, choice ≠ .fails error) →
          ∀ message ∈ state.shared.bus.published channel,
            message.isTerminal = false
  | .environment _ => True
  | .kill _ => True

/-- In every run in which the streams subscribe in time, no stream ever waits
for an end that is stored and published.  A stream subscribes in time when no
terminal message has gone out on its channel by then; all other steps may
interleave as they like. -/
theorem end_never_missed {calls : Caller → StreamCall} {final : Streams}
    {moves : List (Move Caller Outcome StreamEvent)}
    (along : streamBackend.machine.Along SubscribesInTime
      (StreamCall.start {} calls) moves)
    (reached : streamBackend.machine.run (StreamCall.start {} calls) moves =
      some final) (caller : Caller) : ¬ MissesEnd calls final caller := by
  have guarded : streamBackend.machine.Along
      (contract calls (fun _ => False) (fun _ => True) fun messages =>
        ∀ message ∈ messages, message.isTerminal = false).guard
      (StreamCall.start {} calls) moves := by
    apply along.mono
    intro state move inTime
    cases move with
    | caller mover choice =>
        intro command awaits
        refine ⟨trivial, fun channel subscribes went => ?_⟩
        exact inTime channel (subscribes ▸ awaits) went
    | environment event => exact fun _ _ => id
    | kill killed => trivial
  have safe := safe_run guarded reached
  intro misses
  obtain ⟨opened, subscription, seen, shown, subscribed, itsChannel, early,
    taken, goesOn, -⟩ :=
    safe.claims (sound calls _ _ _) misses.waits rfl
  obtain ⟨message, published, terminal⟩ := misses.announced
  -- A published message came before the subscription, was taken, or is ahead
  rw [← itsChannel, safe.invariant.1.coherent.split subscribed,
    List.mem_append, List.mem_append, itsChannel, taken,
    List.append_nil] at published
  rcases published with before | passed | ahead
  · exact absurd terminal (by simp [early message before])
  · exact absurd terminal (by simp [goesOn message passed])
  · have isAhead : message ∈ final.shared.bus.ahead caller := by
      rw [PubSub.ahead, subscribed]
      exact ahead
    exact absurd terminal (by simp [misses.nothingAhead message isAhead])

section Runs

/-- `SubscribesInTime` by evaluation. -/
def subscribesInTime (state : Streams) :
    Move Caller Outcome StreamEvent → Bool
  | .caller caller _ =>
      match state.awaited caller with
      | some (.subscribe channel) =>
          (state.shared.bus.published channel).all fun message =>
            !message.isTerminal
      | _ => true
  | .environment _ => true
  | .kill _ => true

theorem inTime_of_check (state : Streams)
    (move : Move Caller Outcome StreamEvent)
    (checked : subscribesInTime state move = true) :
    SubscribesInTime state move := by
  cases move with
  | caller caller choice =>
      intro channel awaits _ message member
      simp only [subscribesInTime, awaits, List.all_eq_true,
        Bool.not_eq_true'] at checked
      exact checked message member
  | environment event => trivial
  | kill killed => trivial

theorem end_never_missed_in_time :
    ∃ final,
      streamBackend.machine.run (StreamCall.start {} ownersStream)
        (openedInTime.take 7) = some final ∧
      final.shared.bus.ahead 0 =
        [.execution (forwarded 3 storedEvent)] ∧
      ¬ MissesEnd ownersStream final 0 := by
  have ahead : (streamBackend.machine.run (StreamCall.start {} ownersStream)
      (openedInTime.take 7)).map (fun final => final.shared.bus.ahead 0) =
      some [.execution (forwarded 3 storedEvent)] := by decide +kernel
  obtain ⟨final, reached, same⟩ := Option.map_eq_some_iff.mp ahead
  have along : streamBackend.machine.Along SubscribesInTime
      (StreamCall.start {} ownersStream) (openedInTime.take 7) :=
    Machine.along_of_check streamBackend.machine inTime_of_check
      (by decide +kernel)
  exact ⟨final, reached, same, end_never_missed along reached 0⟩

/-- One stream on an execution, and others on a replay session. -/
def twoStreams : Caller → StreamCall
  | 0 => .execution "e" "u" .user
  | _ => .replay "s"

def runningSession : ReplaySessionDocument where
  sessionId := "s"
  config := { filter := {}, maxEvents := 1 }
  status := .running
  createdAt := 0
  replayId := "p"

def completedSession : ReplaySessionDocument :=
  { runningSession with status := .completed, completedAt := some 4 }

/-- Both streams read an active status; the execution and the session end, and
their ends are published; then the streams subscribe. -/
def endedMeanwhile : List (Move Caller Outcome StreamEvent) :=
  [.environment (.createExecution runningExecution),
    .environment (.saveSession runningSession),
    .caller 0 .succeeds, .caller 0 .succeeds,
    .caller 1 .succeeds, .caller 1 .succeeds,
    .environment (.writeExecution (.writeTerminalResult printedOne 2)),
    .environment (.forward 3 storedEvent),
    .environment (.saveSession completedSession),
    .environment (.publishReplayStatus completedSession),
    .caller 0 .succeeds, .caller 0 .succeeds,
    .caller 1 .succeeds, .caller 1 .succeeds]

/-- `MissesEnd` by evaluation. -/
def missesEnd (calls : Caller → StreamCall) (state : Streams)
    (caller : Caller) : Bool :=
  decide (state.awaited caller = some .listen) &&
    (calls caller).ended state.shared &&
    (state.shared.bus.published (calls caller).channel).any
      StreamMessage.isTerminal &&
    (state.shared.bus.ahead caller).all fun message => !message.isTerminal

private theorem misses_of_check {calls : Caller → StreamCall} {state : Streams}
    {caller : Caller} (checked : missesEnd calls state caller = true) :
    MissesEnd calls state caller := by
  simp only [missesEnd, Bool.and_eq_true, decide_eq_true_eq,
    List.any_eq_true, List.all_eq_true, Bool.not_eq_true'] at checked
  exact ⟨checked.1.1.1, checked.1.1.2, checked.1.2, checked.2⟩

/-- An execution ends, and so does a replay session, between the read of the
stored status and the subscription.  Both streams then wait, and nothing is
left to come. -/
theorem end_missed :
    ∃ final,
      streamBackend.machine.run (StreamCall.start {} twoStreams)
        endedMeanwhile = some final ∧
      MissesEnd twoStreams final 0 ∧ MissesEnd twoStreams final 1 := by
  have misses : (streamBackend.machine.run (StreamCall.start {} twoStreams)
      endedMeanwhile).map (fun final =>
        (missesEnd twoStreams final 0, missesEnd twoStreams final 1)) =
      some (true, true) := by decide +kernel
  obtain ⟨final, reached, same⟩ := Option.map_eq_some_iff.mp misses
  obtain ⟨first, second⟩ := Prod.mk.inj same
  exact ⟨final, reached, misses_of_check first, misses_of_check second⟩

end Runs

end MissedEnds

end Integr8s
