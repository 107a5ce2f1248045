/-
Module: Integr8s.Proofs.MessageSize
Purpose: Whether the event of a finished pod fits into one message, for every
  pair of streams that a script prints: what the message takes besides the
  output, and the room of what is shown of the two streams, with two streams of
  line ends as a counterexample.
Trusted boundary: none
Main exports: MessageSize.Outcome, MessageSize.Outcome.stderrRoom,
  MessageSize.message_fits_iff, MessageSize.short_streams_fit
-/
import Integr8s.Events.Transport
import Integr8s.Proofs.OutputFraming
import Integr8s.Proofs.PodOutput

namespace Integr8s

namespace MessageSize

open Entrypoint PodEventMapper KafkaEventTransport OutputFraming PodOutput
open JsonText (room textRoom)

/-- The cluster of a pod whose entrypoint printed the frame of two streams. -/
def framedApi (stdout stderr : List PipeRead) (eventId : EventId) :
    PodApi (Except PyException) :=
  podApi (.ok ((frame stdout stderr).take maxLogBytes)) eventId

/-- How a finished pod is reported. -/
inductive Outcome where
  | completed
  | failed
  | timeout
deriving DecidableEq, Repr

namespace Outcome

/-- The mapper that makes the event. -/
def mapper : Outcome → PodApi (Except PyException) → PodContext →
    Except PyException (Option DomainEvent)
  | completed => mapCompleted
  | failed => mapFailed
  | timeout => checkTimeout

section Members

variable (timestamp : String) (float : PyFloat → String) (ctx : PodContext)
  (eventId : EventId) (exitCode : Int) (usage : ResourceUsageDomain)

/-- What a pod's event has besides its output. -/
def members : Outcome → List (String × List Char)
  | completed => completedMembers timestamp float
      { eventId := eventId
        aggregateId := some ctx.executionId
        metadata := ctx.metadata
        executionId := ctx.executionId
        exitCode := exitCode
        resourceUsage := usage }
  | failed => failedMembers timestamp float
      { eventId := eventId
        aggregateId := some ctx.executionId
        metadata := ctx.metadata
        executionId := ctx.executionId
        exitCode := (analyzeFailure ctx.pod).exitCode.getD exitCode
        errorType := (analyzeFailure ctx.pod).errorType
        resourceUsage := some usage }
  | timeout => timeoutMembers timestamp float
      { eventId := eventId
        aggregateId := some ctx.executionId
        metadata := ctx.metadata
        executionId := ctx.executionId
        timeoutSeconds := ctx.pod.spec.activeDeadlineSeconds.getD 0
        resourceUsage := usage }

/-- The size of the message without any output. -/
def envelope (outcome : Outcome) : Nat :=
  (withOutput (members timestamp float ctx eventId exitCode usage outcome)
    "" "").length

end Members

/-- The stderr of the event: a failed pod that printed none is explained. -/
def stderrOf (outcome : Outcome) (pod : Pod) (stderr : String) : String :=
  match outcome with
  | failed => textOr (some stderr) (analyzeFailure pod).message
  | _ => stderr

end Outcome

/-- The text that the monitor reads of a stream. -/
def textOf (stream : String) (reads : List PipeRead) : String :=
  (shown stream (streamOf reads)).decodeReplace

/-! ### The room of the output -/

/-- A text that is read is empty only where the script wrote nothing. -/
theorem textOf_eq_empty (stream : String) (reads : List PipeRead) :
    textOf stream reads = "" ↔ streamOf reads = [] := by
  rw [textOf, PyBytes.decodeReplace_eq_empty, shown]
  split
  · exact Iff.rfl
  · next long =>
      have something : streamOf reads ≠ [] := by
        intro nothing
        simp [nothing] at long
      simp [something, PyBytes.ofAscii]

/-- The message takes the envelope and the room of the two texts. -/
theorem length_withOutput (members : List (String × List Char))
    (stdout stderr : String) :
    (withOutput members stdout stderr).length =
      (withOutput members "" "").length + textRoom stdout.toList +
        textRoom stderr.toList := by
  have nothing : textRoom "".toList = 0 := rfl
  simp only [withOutput, JsonText.length_object, List.map_append,
    List.sum_append, List.map_cons, List.map_nil, List.sum_cons, List.sum_nil,
    List.length_append, List.length_cons, List.length_nil,
    JsonText.memberRoom, JsonText.length_string, nothing]
  omega

namespace Outcome

/-- The room of the event's stderr: a failed pod that wrote none is
explained. -/
def stderrRoom (outcome : Outcome) (pod : Pod) (stderr : List PipeRead) :
    Nat :=
  if outcome = failed ∧ streamOf stderr = [] then
    textRoom (analyzeFailure pod).message.toList
  else room (shown "stderr" (streamOf stderr))

private theorem envelope_pos (timestamp : String) (float : PyFloat → String)
    (ctx : PodContext) (eventId : EventId) (exitCode : Int)
    (usage : ResourceUsageDomain) (outcome : Outcome) :
    0 < outcome.envelope timestamp float ctx eventId exitCode usage := by
  rw [envelope, withOutput, JsonText.length_object]
  omega

private theorem textRoom_stderrOf (outcome : Outcome) (pod : Pod)
    (stderr : List PipeRead) :
    textRoom (outcome.stderrOf pod (textOf "stderr" stderr)).toList =
      outcome.stderrRoom pod stderr := by
  have read : textRoom (textOf "stderr" stderr).toList =
      room (shown "stderr" (streamOf stderr)) :=
    JsonText.textRoom_decodeReplace _
  unfold stderrRoom
  cases outcome with
  | completed => simpa [stderrOf] using read
  | timeout => simpa [stderrOf] using read
  | failed =>
      simp only [stderrOf, textOr, textOf_eq_empty, true_and]
      by_cases silent : streamOf stderr = []
      · rw [if_pos silent, if_pos silent]
      · rw [if_neg silent, if_neg silent, read]

end Outcome

/-! ### The messages of finished pods -/

section Messages

variable {stdout stderr : List PipeRead} {ctx : PodContext}
  {terminated : ContainerStateTerminated} {exitCode : Int}
  {usage : ResourceUsageDomain} {eventId : EventId} {outcome : Outcome}
  {event : DomainEvent}

private theorem extractLogs_framed
    (main : (getMainContainer ctx.pod).bind terminatedState =
      some terminated)
    (converts : conversions terminated = some (exitCode, usage)) :
    extractLogs (framedApi stdout stderr eventId) ctx = .ok (some
      { stdout := textOf "stdout" stdout
        stderr := textOf "stderr" stderr
        exitCode := exitCode
        resourceUsage := usage }) := by
  obtain ⟨code, wall, jiffies, ticks, peak⟩ := conversions_eq_some.mp converts
  have read : readOutput (framedApi stdout stderr eventId) ctx.name
      ctx.podNamespace =
        .ok (textOf "stdout" stdout, textOf "stderr" stderr) := by
    have parsed := parseFramedOutput_frame stdout stderr
    exact congrArg Except.ok parsed
  simp only [extractLogs, main, read, intOf, floatOf, code, wall, jiffies,
    ticks, peak]
  rfl

variable (timestamp : String) (float : PyFloat → String)
  (main : (getMainContainer ctx.pod).bind terminatedState = some terminated)
  (converts : conversions terminated = some (exitCode, usage))
  (mapped : outcome.mapper (framedApi stdout stderr eventId) ctx =
    .ok (some event))

include main converts mapped

/-- The message of a pod's event. -/
theorem message_eq :
    message timestamp float event = some (withOutput
      (outcome.members timestamp float ctx eventId exitCode usage)
      (textOf "stdout" stdout)
      (outcome.stderrOf ctx.pod (textOf "stderr" stderr))) := by
  have logs := @extractLogs_framed stdout stderr ctx _ _ _ eventId main
    converts
  cases outcome with
  | completed =>
      simp only [Outcome.mapper, mapCompleted, logs] at mapped
      cases mapped
      rfl
  | failed =>
      simp only [Outcome.mapper, mapFailed, logs] at mapped
      cases mapped
      rfl
  | timeout =>
      simp only [Outcome.mapper, checkTimeout] at mapped
      split at mapped
      · simp only [logs] at mapped
        cases mapped
        rfl
      · cases mapped

/-- The size of a pod's message. -/
theorem length_message :
    ∃ bytes, message timestamp float event = some bytes ∧
      bytes.length =
        outcome.envelope timestamp float ctx eventId exitCode usage +
          room (shown "stdout" (streamOf stdout)) +
          outcome.stderrRoom ctx.pod stderr := by
  refine ⟨_, message_eq timestamp float main converts mapped, ?_⟩
  rw [length_withOutput, Outcome.textRoom_stderrOf, textOf,
    JsonText.textRoom_decodeReplace, Outcome.envelope]

/-- A sixth of what the envelope leaves is enough for any output. -/
theorem short_streams_fit (printed : streamOf stderr ≠ [])
    (short : outcome.envelope timestamp float ctx eventId exitCode usage +
      6 * (shown "stdout" (streamOf stdout)).length +
        6 * (shown "stderr" (streamOf stderr)).length ≤ maxMessageBytes) :
    ∃ bytes, message timestamp float event = some bytes ∧
      bytes.length ≤ maxMessageBytes := by
  obtain ⟨bytes, sent, size⟩ :=
    length_message timestamp float main converts mapped
  refine ⟨bytes, sent, ?_⟩
  have out := JsonText.room_le (shown "stdout" (streamOf stdout))
  have err := JsonText.room_le (shown "stderr" (streamOf stderr))
  rw [Outcome.stderrRoom, if_neg fun explained => printed explained.2] at size
  omega

end Messages

/-- A pod's event fits into one message if and only if its envelope and the
room of what is shown of its two streams do.  The room of a text is what its
characters take inside a JSON string, which is more than its bytes where they
have to be escaped. -/
theorem message_fits_iff (outcome : Outcome) (stdout stderr : List PipeRead)
    (ctx : PodContext) (eventId : EventId) (timestamp : String)
    (float : PyFloat → String) {terminated : ContainerStateTerminated}
    {exitCode : Int} {usage : ResourceUsageDomain} {event : DomainEvent}
    (main : (getMainContainer ctx.pod).bind terminatedState =
      some terminated)
    (converts : conversions terminated = some (exitCode, usage))
    (mapped : outcome.mapper (framedApi stdout stderr eventId) ctx =
      .ok (some event)) :
    ∃ bytes, message timestamp float event = some bytes ∧
      (bytes.length ≤ maxMessageBytes ↔
        outcome.envelope timestamp float ctx eventId exitCode usage +
            room (shown "stdout" (streamOf stdout)) +
            outcome.stderrRoom ctx.pod stderr ≤
          maxMessageBytes) := by
  obtain ⟨bytes, sent, size⟩ :=
    length_message timestamp float main converts mapped
  refine ⟨bytes, sent, ?_⟩
  rw [size]

/-- A line that a script prints. -/
def greeting : PipeRead where
  bytes := [104, 105, 10]
  nonempty := by simp
  block := by decide

/-- A quoted word on stderr, with a byte that is no UTF-8. -/
def complaint : PipeRead where
  bytes := [34, 110, 111, 34, 255]
  nonempty := by simp
  block := by decide

/-- What the pod of a script that prints both and exits with code 0 ends in. -/
def greeted : DomainEvent :=
  .executionCompleted
    { eventId := "v1"
      aggregateId := some "e1"
      metadata := createMetadata executorMetadata
      executionId := "e1"
      exitCode := 0
      stdout := textOf "stdout" [greeting]
      stderr := textOf "stderr" [complaint]
      resourceUsage := { clkTckHertz := 100 } }

/-- The line takes four bytes, its end being escaped, and the word nine: two
quotes are escaped, and the last byte is replaced by three. -/
theorem message_fits_iff_greeted :
    ∃ bytes, message "2024-01-01T00:00:00Z" (fun _ => "0.0") greeted =
        some bytes ∧
      (bytes.length ≤ maxMessageBytes ↔
        Outcome.completed.envelope "2024-01-01T00:00:00Z" (fun _ => "0.0")
            (succeededPod "").context "v1" 0 { clkTckHertz := 100 } +
            room (shown "stdout" (streamOf [greeting])) +
            Outcome.completed.stderrRoom (succeededPod "").context.pod
              [complaint] ≤
          maxMessageBytes) ∧
      room (shown "stdout" (streamOf [greeting])) = 4 ∧
      Outcome.completed.stderrRoom (succeededPod "").context.pod
        [complaint] = 9 := by
  have main : (getMainContainer (succeededPod "").context.pod).bind
      terminatedState = some (succeededPod "").terminated := rfl
  have converts : conversions (succeededPod "").terminated =
      some (0, { clkTckHertz := 100 }) := rfl
  have mapped : Outcome.completed.mapper
      (framedApi [greeting] [complaint] "v1") (succeededPod "").context =
        .ok (some greeted) := by
    simp only [Outcome.mapper, mapCompleted,
      @extractLogs_framed [greeting] [complaint] _ _ _ _ "v1" main converts]
    rfl
  obtain ⟨bytes, sent, fits⟩ := message_fits_iff .completed [greeting]
    [complaint] (succeededPod "").context "v1" "2024-01-01T00:00:00Z"
    (fun _ => "0.0") main converts mapped
  exact ⟨bytes, sent, fits, by decide +kernel, by decide +kernel⟩

/-! ### Two streams of line ends -/

/-- A pipe is full of line ends. -/
def lineEndBlock : PipeRead where
  bytes := List.replicate 65536 10
  nonempty := by
    intro nothing
    have none := congrArg List.length nothing
    rw [List.length_replicate] at none
    cases none
  block := Nat.le_of_eq List.length_replicate

/-- A script writes as many line ends as a stream keeps bytes. -/
def lineEnds : List PipeRead :=
  List.replicate 4 lineEndBlock

private theorem streamOf_lineEnds :
    streamOf lineEnds = List.replicate 262144 10 := by
  rw [streamOf, lineEnds, List.flatMap_replicate]
  exact List.flatten_replicate_replicate

/-- Each line end takes two bytes. -/
theorem room_lineEnds (stream : String) :
    524288 ≤ room (shown stream (streamOf lineEnds)) := by
  have escaped : JsonText.growth (Char.ofNat (10 : UInt8).toNat) = 1 := by
    decide
  have kept : shown stream (streamOf lineEnds) =
      List.replicate 262144 10 := by
    rw [shown, streamOf_lineEnds, if_pos]
    rw [List.length_replicate]
    decide
  rw [kept, room, List.length_replicate, List.map_replicate, escaped]
  generalize PyBytes.added none 0 _ = replaced
  have ones : (List.replicate 262144 1).sum = 262144 := by
    rw [List.sum_replicate_nat, Nat.mul_one]
  omega

/-- A script that fills both of its streams with line ends leaves a message
that is too large. -/
theorem line_ends_do_not_fit :
    ∃ event bytes,
      Outcome.completed.mapper (framedApi lineEnds lineEnds "v1")
        (succeededPod "").context = .ok (some event) ∧
      message "2024-01-01T00:00:00Z" (fun _ => "0.0") event = some bytes ∧
      maxMessageBytes < bytes.length := by
  have main : (getMainContainer (succeededPod "").context.pod).bind
      terminatedState = some (succeededPod "").terminated := rfl
  have converts : conversions (succeededPod "").terminated =
      some (0, { clkTckHertz := 100 }) := rfl
  have logs := @extractLogs_framed lineEnds lineEnds _ _ _ _ "v1" main
    converts
  have mapped : ∃ event, Outcome.completed.mapper
      (framedApi lineEnds lineEnds "v1") (succeededPod "").context =
        .ok (some event) := by
    simp only [Outcome.mapper, mapCompleted, logs]
    exact ⟨_, rfl⟩
  obtain ⟨event, mapped⟩ := mapped
  obtain ⟨bytes, sent, size⟩ := length_message "2024-01-01T00:00:00Z"
    (fun _ => "0.0") main converts mapped
  refine ⟨event, bytes, mapped, sent, ?_⟩
  have out := room_lineEnds "stdout"
  have err := room_lineEnds "stderr"
  have envelope := Outcome.envelope_pos "2024-01-01T00:00:00Z"
    (fun _ => "0.0") (succeededPod "").context "v1" 0 { clkTckHertz := 100 }
    .completed
  rw [Outcome.stderrRoom, if_neg (by simp)] at size
  have limit : maxMessageBytes = 524288 + 524288 := rfl
  omega

end MessageSize

end Integr8s
