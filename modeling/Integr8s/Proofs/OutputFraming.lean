/-
Module: Integr8s.Proofs.OutputFraming
Purpose: The monitor reads from a pod's log the streams that the script wrote,
  however the pipes chunk them: for every pair of streams, whole or cut off at
  the limit.
Trusted boundary: none
Main exports: OutputFraming.shown, OutputFraming.emit_capture,
  OutputFraming.framed_output_round_trip
-/
import Integr8s.Scripts.Entrypoint
import Integr8s.Services.EventMapper

namespace Integr8s

namespace OutputFraming

open Entrypoint

/-- What is to be shown of a stream. -/
def shown (stream : String) (bytes : PyBytes) : PyBytes :=
  if bytes.length ≤ maxStreamBytes then bytes
  else bytes.take maxStreamBytes ++
    (PyBytes.ofAscii "\n" ++ notice stream ++ PyBytes.ofAscii "\n")

/-- The captured file is the stream, or it is over the limit and starts like
the stream. -/
theorem capture_spec (reads : List PipeRead) (dest : PyBytes) :
    let whole := dest ++ streamOf reads
    if whole.length ≤ maxStreamBytes then capture dest reads = whole
    else maxStreamBytes < (capture dest reads).length ∧
      (capture dest reads).take maxStreamBytes =
        whole.take maxStreamBytes := by
  induction reads generalizing dest with
  | nil =>
      simp only [streamOf, List.flatMap_nil, List.append_nil, capture]
      split
      · trivial
      · next long => exact ⟨by omega, trivial⟩
  | cons read reads inductionHypothesis =>
      have next := inductionHypothesis (dest ++ read.bytes)
      have same : dest ++ read.bytes ++ streamOf reads =
          dest ++ streamOf (read :: reads) := by
        simp [streamOf]
      rw [same] at next
      simp only [capture]
      by_cases room : dest.length ≤ maxStreamBytes
      · rw [if_pos room]
        exact next
      · rw [if_neg room]
        have long : ¬ (dest ++ streamOf (read :: reads)).length ≤
            maxStreamBytes := by
          rw [List.length_append]
          omega
        rw [if_neg long]
        refine ⟨by omega, ?_⟩
        rw [List.take_append_of_le_length (by omega)]

/-- A captured stream is printed as what is to be shown of it, behind its
length. -/
theorem emit_capture (marker stream : String) (reads : List PipeRead) :
    emit marker stream (capture [] reads) =
      header marker (shown stream (streamOf reads)).length ++
        shown stream (streamOf reads) := by
  have captured := capture_spec reads []
  simp only [List.nil_append] at captured
  unfold emit shown
  by_cases short : (streamOf reads).length ≤ maxStreamBytes
  · rw [if_pos short] at captured
    simp [captured, short]
  · rw [if_neg short] at captured
    obtain ⟨long, start⟩ := captured
    have size : (List.take maxStreamBytes (streamOf reads)).length =
        maxStreamBytes := by
      rw [List.length_take]
      omega
    rw [if_neg short]
    dsimp only
    rw [if_neg (by omega), start]
    simp only [List.length_append, size, List.append_assoc]
    congr 2
    simp [PyBytes.ofAscii]
    omega

/-! ### The length in a header -/

section Reading

variable {number : Nat}

private theorem digits_isDigit :
    ∀ c ∈ (toString number).toList, c.isDigit = true := by
  intro c member
  have inDigits : c ∈ Nat.toDigits 10 number := by
    simpa [Nat.toList_repr] using member
  exact Nat.isDigit_of_mem_toDigits (by decide) (by decide) inDigits

/-- A line end is no digit. -/
theorem newline_not_mem_digits :
    (10 : UInt8) ∉ PyBytes.ofAscii (toString number) := by
  intro member
  obtain ⟨c, inText, same⟩ := List.mem_map.mp member
  have bounds := PyText.digit_bounds (digits_isDigit c inText)
  have value := congrArg UInt8.toNat same
  simp at value
  omega

/-- A length on a header line is read back. -/
theorem parseInt_length (small : number < 10 ^ PyText.maxStrDigits) :
    (PyBytes.ofAscii (toString number)).parseInt = some (number : Int) := by
  rw [PyBytes.parseInt_ofAscii]
  · have converts : PyText.parseInt (toString (number : Int)).toList =
        some (number : Int) := PyText.parseInt_toString small
    exact converts
  · intro c member
    have bounds := PyText.digit_bounds (digits_isDigit c member)
    omega

end Reading

/-! ### The frame and what is found in it -/

/-- The bytes of a stream behind its header. -/
def framed (marker : String) (content : PyBytes) : PyBytes :=
  header marker content.length ++ content

/-- What the parser finds where a section starts: the marker, the line end
after the length, the length, the content, and the place behind it. -/
structure Finds (logs marker content : PyBytes) (start : Int)
    (line : Nat) : Prop where
  found : ∃ place, logs.index marker start = some place ∧
    logs.index (PyBytes.ofAscii "\n") ((place + 7 : Nat) : Int) =
      some line ∧
    (logs.slice ((place + 7 : Nat) : Int) line).parseInt =
      some (content.length : Int)
  content : logs.slice (line + 1) (line + 1 + (content.length : Int)) =
    content

/-- A section is found where it starts, whatever stands before and after
it. -/
theorem finds_section {content : PyBytes} {marker : String}
    (before after : PyBytes)
    (small : content.length < 10 ^ PyText.maxStrDigits)
    (seven : (PyBytes.ofAscii (marker ++ " ")).length = 7) :
    ∃ line : Nat, Finds (before ++ (framed marker content ++ after))
        (PyBytes.ofAscii (marker ++ " ")) content before.length line ∧
      line + 1 + content.length =
        (before ++ framed marker content).length := by
  have noLineEnd := @newline_not_mem_digits content.length
  have length := parseInt_length small
  have section_eq : framed marker content = PyBytes.ofAscii (marker ++ " ") ++
      (PyBytes.ofAscii (toString content.length) ++ (10 :: content)) := by
    simp [framed, header, PyBytes.ofAscii]
  rw [section_eq]
  generalize PyBytes.ofAscii (toString content.length) = digits at *
  generalize PyBytes.ofAscii (marker ++ " ") = tag at *
  refine ⟨before.length + 7 + digits.length, ⟨⟨before.length, ?_, ?_, ?_⟩,
    ?_⟩, ?_⟩
  · have found := @PyBytes.index_at before _ _ _ _ rfl
      (PyBytes.search_append tag (digits ++ (10 :: content) ++ after))
    simpa using found
  · have lineEnd : PyBytes.ofAscii "\n" = [10] := rfl
    rw [lineEnd]
    have here : ((before.length + 7 : Nat) : Int) =
        ((before ++ tag).length : Nat) := by
      simp [seven]
    have found := PyBytes.index_at here
      (@PyBytes.search_byte _ _ (content ++ after) noLineEnd)
    simpa [seven] using found
  · rw [← length]
    congr 1
    have starts : ((before.length + 7 : Nat) : Int) =
        ((before ++ tag).length : Nat) := by
      simp [seven]
    have stops : ((before.length + 7 + digits.length : Nat) : Int) =
        ((before ++ tag).length : Nat) + (digits.length : Nat) := by
      simp [seven]
    have cut := @PyBytes.slice_middle _ _ (10 :: (content ++ after)) _ _
      starts stops
    simpa using cut
  · have starts : ((before.length + 7 + digits.length : Nat) : Int) + 1 =
        ((before ++ tag ++ digits ++ [10]).length : Nat) := by
      simp [seven]; omega
    have stops : ((before.length + 7 + digits.length : Nat) : Int) + 1 +
          content.length =
        ((before ++ tag ++ digits ++ [10]).length : Nat) +
          (content.length : Nat) := by
      simp [seven]; omega
    have cut := @PyBytes.slice_middle _ content after _ _ starts stops
    simpa using cut
  · simp [seven]
    omega

/-- What is shown of a stream stays close to the limit. -/
theorem shown_length {stream : String} (bytes : PyBytes)
    (short : (notice stream).length ≤ 60) :
    (shown stream bytes).length ≤ maxStreamBytes + 62 := by
  unfold shown
  split
  · omega
  · have oneOut := List.length_take_le maxStreamBytes bytes
    have one : (PyBytes.ofAscii "\n").length = 1 := rfl
    simp only [List.length_append, one]
    omega

/-- Such a length has few digits. -/
theorem small_length {size : Nat} (bound : size ≤ maxStreamBytes + 62) :
    size < 10 ^ PyText.maxStrDigits := by
  have few : 10 ^ 10 ≤ 10 ^ PyText.maxStrDigits :=
    Nat.pow_le_pow_right (by decide) (by decide)
  have value : maxStreamBytes = 262144 := rfl
  omega

theorem length_digits {size : Nat} (bound : size ≤ maxStreamBytes + 62) :
    (toString size).toList.length ≤ 6 := by
  have value : maxStreamBytes = 262144 := rfl
  have few : size < 10 ^ 6 := by omega
  have digits := (Nat.length_toDigits_le_iff (by decide) (by decide)).2 few
  simpa [Nat.toList_repr] using digits

/-- A section takes its header line besides what it shows. -/
theorem framed_length {marker : String} {content : PyBytes}
    (six : marker.toList.length = 6)
    (bound : content.length ≤ maxStreamBytes + 62) :
    (framed marker content).length ≤ maxStreamBytes + 76 := by
  have digits := length_digits bound
  simp [framed, header, PyBytes.ofAscii] at digits ⊢
  omega

/-- The entrypoint prints the two sections. -/
theorem frame_eq (stdout stderr : List PipeRead) :
    frame stdout stderr =
      framed "STDOUT" (shown "stdout" (streamOf stdout)) ++
        framed "STDERR" (shown "stderr" (streamOf stderr)) := by
  rw [frame, emit_capture, emit_capture, framed, framed]

/-- Two sections are parsed into what they show. -/
theorem framedOutput_sections {stdout stderr : PyBytes}
    (smallOut : stdout.length < 10 ^ PyText.maxStrDigits)
    (smallErr : stderr.length < 10 ^ PyText.maxStrDigits) :
    framedOutput (framed "STDOUT" stdout ++ framed "STDERR" stderr) =
      some (stdout, stderr) := by
  obtain ⟨lineOut, findsOut, endOut⟩ := @finds_section stdout "STDOUT" []
    (framed "STDERR" stderr) smallOut (by decide)
  obtain ⟨lineErr, findsErr, _⟩ := @finds_section stderr "STDERR"
    (framed "STDOUT" stdout) [] smallErr (by decide)
  obtain ⟨⟨placeOut, indexOut, newlineOut, lengthOut⟩, contentOut⟩ := findsOut
  obtain ⟨⟨placeErr, indexErr, newlineErr, lengthErr⟩, contentErr⟩ := findsErr
  simp only [List.nil_append, List.append_nil, List.length_nil] at *
  have here : ((framed "STDOUT" stdout).length : Int) =
      lineOut + 1 + (stdout.length : Int) := by
    omega
  rw [here] at indexErr
  have stdoutTag : PyBytes.ofAscii ("STDOUT" ++ " ") =
      PyBytes.ofAscii "STDOUT " := by decide
  have stderrTag : PyBytes.ofAscii ("STDERR" ++ " ") =
      PyBytes.ofAscii "STDERR " := by decide
  rw [stdoutTag] at indexOut
  rw [stderrTag] at indexErr
  have zero : ((0 : Nat) : Int) = 0 := rfl
  rw [zero] at indexOut
  simp only [framedOutput, indexOut, newlineOut, lengthOut, indexErr,
    newlineErr, lengthErr, contentOut, contentErr, Option.bind_eq_bind,
    Option.bind_some, Option.pure_def]

/-- The frame is within what the monitor reads of a log. -/
theorem frame_length (stdout stderr : List PipeRead) :
    (frame stdout stderr).length ≤ PodEventMapper.maxLogBytes := by
  have boundOut := @shown_length "stdout" (streamOf stdout) (by decide)
  have boundErr := @shown_length "stderr" (streamOf stderr) (by decide)
  have lengthOut := @framed_length "STDOUT" _ (by decide) boundOut
  have lengthErr := @framed_length "STDERR" _ (by decide) boundErr
  have limit : maxStreamBytes + 76 + (maxStreamBytes + 76) ≤
      PodEventMapper.maxLogBytes := by decide
  rw [frame_eq, List.length_append]
  omega

/-- What the monitor reads of the log is parsed into what is to be shown of
the two streams. -/
theorem parseFramedOutput_frame (stdout stderr : List PipeRead) :
    parseFramedOutput
        ((frame stdout stderr).take PodEventMapper.maxLogBytes) =
      ((shown "stdout" (streamOf stdout)).decodeReplace,
        (shown "stderr" (streamOf stderr)).decodeReplace) := by
  have boundOut := @shown_length "stdout" (streamOf stdout) (by decide)
  have boundErr := @shown_length "stderr" (streamOf stderr) (by decide)
  rw [List.take_of_length_le (frame_length stdout stderr), frame_eq,
    parseFramedOutput,
    framedOutput_sections (small_length boundOut) (small_length boundErr)]

/-- **Output framing round trip.**  However the pipes chunk the two streams,
the monitor reads from the log what is to be shown of each of them, and the
frame is within what it reads of the log. -/
theorem framed_output_round_trip (stdout stderr : List PipeRead) :
    (frame stdout stderr).length ≤ PodEventMapper.maxLogBytes ∧
      parseFramedOutput
          ((frame stdout stderr).take PodEventMapper.maxLogBytes) =
        ((shown "stdout" (streamOf stdout)).decodeReplace,
          (shown "stderr" (streamOf stderr)).decodeReplace) := by
  constructor
  · exact frame_length stdout stderr
  · exact parseFramedOutput_frame stdout stderr

end OutputFraming

end Integr8s
