/-
Module: Integr8s.Proofs.EventReading
Purpose: The browser reads whole events: however a response is cut into chunks
  and wherever it breaks off, the stream yields the data of the events that
  were sent, in order, each once and none mixed with another.
Trusted boundary: none
Main exports: EventReading.EventBlock, EventReading.Response,
  EventReading.Shown, EventReading.readBody_yields,
  EventReading.yields_whole_events
-/
import Integr8s.Frontend.ServerSentEvents

namespace Integr8s

namespace EventReading

open SseClient TextChunks

/-- A line with data. -/
def isData (line : List Char) : Bool :=
  (field? "data:" line).isSome

/-- The lines of an event, at most one of them with data. -/
structure EventBlock where
  lines : List (List Char)
  plain : ∀ line ∈ lines, Plain line
  single : (lines.filter isData).length ≤ 1

/-- The events of a response. -/
structure Response where
  ending : LineEnd
  blocks : List EventBlock

/-- The text of some events. -/
def Response.text (response : Response) (blocks : List EventBlock) :
    List Char :=
  paragraphText response.ending (blocks.map EventBlock.lines)

/-! ### The events of a body -/

section Body

variable {Json : Type} (options : Options Json)

/-- The data of some lines. -/
def lineData (lines : List (List Char)) : List (Data Json) :=
  (lines.filterMap (field? "data:")).map (parseData options)

/-- The data of an event. -/
def EventBlock.data (block : EventBlock) : List (Data Json) :=
  lineData options block.lines

/-- The data that is read of a chunk. -/
def chunkData (chunk : List Char) : Option (Data Json) :=
  eventData options ((splitText ['\n'] chunk).filterMap (field? "data:"))

variable {options} {body : Body Json}

private theorem dataLines_readLine (lines : List (List Char))
    (read : Fields × Memory) :
    (lines.foldl readLine read).1.dataLines =
      read.1.dataLines ++ lines.filterMap (field? "data:") := by
  induction lines generalizing read with
  | nil => simp
  | cons line lines inductionHypothesis =>
      rw [List.foldl_cons, inductionHypothesis]
      simp only [readLine]
      cases data : field? "data:" line with
      | some text => simp [data]
      | none =>
          rw [List.filterMap_cons_none data]
          dsimp only
          split
          · rfl
          · split
            · rfl
            · split <;> rfl

/-- The data of an event does not depend on the events before it. -/
theorem data_readEvent (memory : Memory) (chunk : List Char) :
    (readEvent options memory chunk).1.data = chunkData options chunk := by
  simp [readEvent, chunkData, dataLines_readLine]

private theorem data_readEvents (chunks : List (List Char)) :
    (readEvents options body chunks).events.filterMap StreamEvent.data =
      body.events.filterMap StreamEvent.data ++
        chunks.filterMap (chunkData options) := by
  induction chunks generalizing body with
  | nil => simp [readEvents]
  | cons chunk chunks inductionHypothesis =>
      simp only [readEvents, inductionHypothesis, List.filterMap_append,
        List.append_assoc]
      congr 1
      cases data : chunkData options chunk with
      | none => simp [data, data_readEvent]
      | some value => simp [data, data_readEvent]

private theorem buffer_readEvents (chunks : List (List Char)) :
    (readEvents options body chunks).buffer = body.buffer := by
  induction chunks generalizing body with
  | nil => rfl
  | cons chunk chunks inductionHypothesis =>
      simp only [readEvents, inductionHypothesis]

/-- A body is read as the paragraphs of its text. -/
theorem data_foldl_readChunk (values : List (List Char)) {page : Page}
    (buffer : body.buffer = page.current)
    (told : body.events.filterMap StreamEvent.data =
      page.paragraphs.filterMap (chunkData options)) :
    (values.foldl (readChunk options) body).events.filterMap
        StreamEvent.data =
      (values.foldl Page.readChunk page).paragraphs.filterMap
        (chunkData options) := by
  induction values generalizing body page with
  | nil => exact told
  | cons value values inductionHypothesis =>
      apply inductionHypothesis
      · simp only [readChunk, buffer_readEvents, Page.readChunk, buffer]
      · simp only [readChunk, data_readEvents, Page.readChunk, buffer,
          List.filterMap_append, told]

variable (options) in
/-- A chunk with at most one line of data yields this data. -/
theorem chunkData_single {chunk : List Char}
    (single : (chosen isData chunk).length ≤ 1) :
    (chunkData options chunk).toList =
      lineData options (chosen isData chunk) := by
  have lines : (splitText ['\n'] chunk).filterMap (field? "data:") =
      (chosen isData chunk).filterMap (field? "data:") := by
    rw [chosen, List.filterMap_filter]
    congr 1
    funext line
    cases data : field? "data:" line <;> simp [isData, data]
  rw [chunkData, lines, lineData]
  cases one : chosen isData chunk with
  | nil => rfl
  | cons line rest =>
      rw [one, List.length_cons] at single
      have nothing : rest = [] := List.length_eq_zero_iff.mp (by omega)
      subst nothing
      cases data : field? "data:" line with
      | none => simp [data, eventData]
      | some text => simp [data, eventData, List.intercalate]

private theorem lineData_append (first second : List (List Char)) :
    lineData options (first ++ second) =
      lineData options first ++ lineData options second := by
  simp [lineData]

private theorem lineData_mono {first second : List (List Char)}
    (grows : first <+: second) :
    lineData options first <+: lineData options second := by
  obtain ⟨rest, rfl⟩ := grows
  rw [lineData_append]
  exact List.prefix_append ..

/-- Lines without data add none. -/
theorem lineData_filter (lines : List (List Char)) :
    lineData options (lines.filter isData) = lineData options lines := by
  rw [lineData, List.filterMap_filter, lineData]
  congr 2
  funext line
  cases data : field? "data:" line <;> simp [isData, data]

/-- Paragraphs with at most one line of data each yield the data of these
lines. -/
theorem data_paragraphs {paragraphs : List (List Char)}
    (single : ∀ chunk ∈ paragraphs, (chosen isData chunk).length ≤ 1) :
    paragraphs.filterMap (chunkData options) =
      lineData options (paragraphs.flatMap (chosen isData)) := by
  induction paragraphs with
  | nil => rfl
  | cons chunk paragraphs inductionHypothesis =>
      have first := chunkData_single options
        (single chunk List.mem_cons_self)
      have rest := inductionHypothesis fun other among =>
        single other (List.mem_cons_of_mem _ among)
      rw [List.flatMap_cons, lineData_append, ← first, ← rest]
      cases data : chunkData options chunk <;> simp [data]

/-- The data of events is the data of their lines with data. -/
theorem data_blocks (blocks : List EventBlock) :
    blocks.flatMap (EventBlock.data options) =
      lineData options
        ((blocks.map EventBlock.lines).flatMap (List.filter isData)) := by
  induction blocks with
  | nil => rfl
  | cons block blocks inductionHypothesis =>
      rw [List.flatMap_cons, List.map_cons, List.flatMap_cons,
        lineData_append, inductionHypothesis, lineData_filter]
      rfl

/-- A response that arrived in part, cut anywhere, yields the data of the
events that arrived whole, and after them at most that of the next ones. -/
theorem readBody_yields {response : Response} {values : List (List Char)}
    (arrived : values.flatten <+: response.text response.blocks)
    (count : Nat)
    (whole : response.text (response.blocks.take count) <+: values.flatten)
    (memory : Memory) :
    (response.blocks.take count).flatMap (EventBlock.data options) <+:
        (readBody options memory values).events.filterMap StreamEvent.data ∧
      (readBody options memory values).events.filterMap StreamEvent.data <+:
        response.blocks.flatMap (EventBlock.data options) := by
  rw [Response.text, List.map_take] at whole
  obtain ⟨single, least, most⟩ := chosen_readParagraphs isData
    (by decide)
    (fun lines member => by
      obtain ⟨block, -, rfl⟩ := List.mem_map.mp member
      exact block.plain)
    (fun lines member => by
      obtain ⟨block, -, rfl⟩ := List.mem_map.mp member
      exact block.single) arrived whole
  have read : (readBody options memory values).events.filterMap
      StreamEvent.data =
    (readParagraphs values).paragraphs.filterMap (chunkData options) :=
    data_foldl_readChunk values rfl rfl
  rw [read, data_paragraphs single, data_blocks, data_blocks, List.map_take]
  exact ⟨lineData_mono least, lineData_mono most⟩

end Body

/-! ### Attempts to connect

An attempt goes on after the last id that was seen.  If that id makes no header
value the stream raises before it connects again, and what it has yielded by
then is all that it yields. -/

section Attempts

variable {Json : Type} (options : Options Json)

/-- What an attempt shows of the response that was sent for it: whole events
in order, all that arrived whole. -/
def Shown (exchange : Attempt × Response) (part : List (Data Json)) : Prop :=
  match exchange.1 with
  | .response values _ =>
      part <+: exchange.2.blocks.flatMap (EventBlock.data options) ∧
      ∀ count, exchange.2.text (exchange.2.blocks.take count) <+:
          values.flatten →
        (exchange.2.blocks.take count).flatMap (EventBlock.data options) <+:
          part
  | _ => part = []

/-- What arrived is of the response that was sent. -/
def Arrived (exchange : Attempt × Response) : Prop :=
  ∀ values lost, exchange.1 = .response values lost →
    values.flatten <+: exchange.2.text exchange.2.blocks

/-- The client may go on after this many attempts. -/
def WithinLimit (stream : Stream Json) : Prop :=
  stream.ended = false → ∀ limit, options.sseMaxRetryAttempts = some limit →
    stream.attempt < max limit 1

variable {options} {stream : Stream Json}

variable (options) in
/-- A client that waits may go on. -/
theorem withinLimit_retry (stream : Stream Json) :
    WithinLimit options (retry options stream) ∧
      (retry options stream).events = stream.events ∧
      (retry options stream).attempt = stream.attempt := by
  unfold retry
  split
  · exact ⟨(fun ended => by cases ended), rfl, rfl⟩
  · rename_i goesOn
    refine ⟨fun _ limit limited => ?_, rfl, rfl⟩
    simp only [limited, Option.any_some, decide_eq_true_eq] at goesOn
    exact lt_of_lt_of_le (Nat.lt_of_not_le goesOn) (le_max_left limit 1)

variable (options) in
/-- A request that is sent adds what is shown of its response. -/
theorem receive_cases (stream : Stream Json) {exchange : Attempt × Response}
    (arrived : Arrived exchange) :
    ∃ part, Shown options exchange part ∧
      (receive options stream exchange.1).yielded = stream.yielded ++ part ∧
      WithinLimit options (receive options stream exchange.1) ∧
      ((receive options stream exchange.1).ended = true ∨
        (receive options stream exchange.1).attempt = stream.attempt) := by
  obtain ⟨attempt, response⟩ := exchange
  cases attempt with
  | aborted =>
      exact ⟨[], rfl, (List.append_nil _).symm,
        (fun ended => by cases ended), .inl rfl⟩
  | failed =>
      obtain ⟨within, same, counted⟩ := withinLimit_retry options stream
      refine ⟨[], rfl, ?_, within, .inr counted⟩
      rw [receive, List.append_nil, Stream.yielded, same]
      rfl
  | response values lost =>
      have partly := arrived values lost rfl
      refine ⟨(readBody options stream.memory values).events.filterMap
        StreamEvent.data, ⟨?_, fun count whole => ?_⟩, ?_⟩
      · exact (readBody_yields partly 0
          (by simp [Response.text, paragraphText]) stream.memory).2
      · exact (readBody_yields partly count whole stream.memory).1
      · unfold receive
        cases lost with
        | false =>
            refine ⟨?_, (fun ended => by cases ended), .inl rfl⟩
            simp [Stream.yielded]
        | true =>
            obtain ⟨within, same, counted⟩ := withinLimit_retry options
              { stream with
                memory := (readBody options stream.memory values).memory
                events := stream.events ++
                  (readBody options stream.memory values).events }
            refine ⟨?_, within, .inr counted⟩
            dsimp only
            rw [if_pos rfl, Stream.yielded, same]
            simp [Stream.yielded]

/-- A round in which the client can send its request, or was told to stop. -/
def Proceeds (stream : Stream Json) (attempt : Attempt) : Prop :=
  attempt = .aborted ∨ stream.canResume = true

variable (options) in
/-- One attempt adds what it shows. -/
theorem connect_cases (goesOn : stream.ended = false)
    {exchange : Attempt × Response} (arrived : Arrived exchange)
    (proceeds : Proceeds stream exchange.1) :
    ∃ part, Shown options exchange part ∧
      (connect options stream exchange.1).yielded = stream.yielded ++ part ∧
      WithinLimit options (connect options stream exchange.1) ∧
      ((connect options stream exchange.1).ended = true ∨
        (connect options stream exchange.1).attempt =
          stream.attempt + 1) := by
  have sent (notAborted : exchange.1 ≠ .aborted) :
      connect options stream exchange.1 =
        receive options { stream with attempt := stream.attempt + 1 }
          exchange.1 := by
    have resumes : stream.memory.lastEventId.all isHeaderValue = true :=
      proceeds.resolve_left notAborted
    cases attempt : exchange.1 with
    | aborted => exact absurd attempt notAborted
    | failed => simp [connect, goesOn, Stream.canResume, resumes]
    | response values lost =>
        simp [connect, goesOn, Stream.canResume, resumes]
  by_cases stopped : exchange.1 = .aborted
  · refine ⟨[], ?_, ?_, ?_, ?_⟩
    · simp [Shown, stopped]
    · simp [connect, stopped, goesOn, Stream.yielded]
    · intro still
      simp [connect, stopped, goesOn] at still
    · exact .inl (by simp [connect, stopped, goesOn])
  · rw [sent stopped]
    exact receive_cases options { stream with attempt := stream.attempt + 1 }
      arrived

variable (options) in
/-- An id that no header can carry ends the stream with an error, before
anything is sent. -/
theorem connect_raises (goesOn : stream.ended = false) {attempt : Attempt}
    (stuck : ¬ Proceeds stream attempt) :
    connect options stream attempt =
      { stream with
        attempt := stream.attempt + 1
        ended := true
        raised := true } := by
  obtain ⟨notAborted, stays⟩ := not_or.mp stuck
  have refused : stream.memory.lastEventId.all isHeaderValue = false :=
    eq_false_of_ne_true stays
  cases attempt with
  | aborted => exact absurd rfl notAborted
  | failed => simp [connect, goesOn, Stream.canResume, refused]
  | response values lost =>
      simp [connect, goesOn, Stream.canResume, refused]

/-- A client that has given up does nothing more. -/
theorem connect_ended (ended : stream.ended = true)
    (attempts : List Attempt) :
    attempts.foldl (connect options) stream = stream := by
  induction attempts with
  | nil => rfl
  | cons attempt attempts inductionHypothesis =>
      have stays : connect options stream attempt = stream := by
        simp [connect, ended]
      rw [List.foldl_cons, stays]
      exact inductionHypothesis

/-- A stream that has ended with an error was given an id that no header can
carry. -/
def RaisedForId (stream : Stream Json) : Prop :=
  stream.raised = true → stream.ended = true ∧ stream.canResume = false

variable (options) in
private theorem raised_retry (stream : Stream Json) :
    (retry options stream).raised = stream.raised := by
  unfold retry
  split <;> rfl

variable (options) in
/-- Only an id ends a stream with an error. -/
theorem raisedForId_connect (fine : RaisedForId stream) (attempt : Attempt) :
    RaisedForId (connect options stream attempt) := by
  cases goesOn : stream.ended with
  | true => simpa [connect, goesOn] using fine
  | false =>
      have quiet : stream.raised = false := by
        cases raised : stream.raised with
        | false => rfl
        | true => cases goesOn.symm.trans (fine raised).1
      by_cases proceeds : Proceeds stream attempt
      · intro raised
        cases attempt with
        | aborted => simp [connect, goesOn, quiet] at raised
        | failed =>
            obtain ⟨⟨⟩⟩ | resumes := proceeds
            have resumes : stream.memory.lastEventId.all isHeaderValue =
              true := resumes
            simp [connect, goesOn, quiet, Stream.canResume, resumes, receive,
              raised_retry] at raised
        | response values lost =>
            obtain ⟨⟨⟩⟩ | resumes := proceeds
            have resumes : stream.memory.lastEventId.all isHeaderValue =
              true := resumes
            cases lost <;>
              simp [connect, goesOn, quiet, Stream.canResume, resumes,
                receive, raised_retry] at raised
      · rw [connect_raises options goesOn proceeds]
        exact fun _ => ⟨rfl, eq_false_of_ne_true (not_or.mp proceeds).2⟩

variable (options) in
/-- The attempts of a client add what they show one after the other. -/
theorem foldl_connect (stream : Stream Json)
    (within : WithinLimit options stream)
    {exchanges : List (Attempt × Response)}
    (arrived : ∀ exchange ∈ exchanges, Arrived exchange) :
    ∃ used parts, used <+: exchanges ∧
      List.Forall₂ (Shown options) used parts ∧
      ((exchanges.map Prod.fst).foldl (connect options) stream).yielded =
        stream.yielded ++ parts.flatten ∧
      (((exchanges.map Prod.fst).foldl (connect options) stream).ended =
        false → used = exchanges) ∧
      (stream.ended = true → used = []) ∧
      (stream.ended = false → ∀ limit,
        options.sseMaxRetryAttempts = some limit →
          stream.attempt + used.length ≤ max limit 1) := by
  induction exchanges generalizing stream with
  | nil =>
      exact ⟨[], [], List.prefix_rfl, .nil, (List.append_nil _).symm,
        fun _ => rfl, fun _ => rfl,
        fun goesOn limit limited => (within goesOn limit limited).le⟩
  | cons exchange exchanges inductionHypothesis =>
      cases goesOn : stream.ended with
      | true =>
          rw [connect_ended goesOn]
          refine ⟨[], [], List.nil_prefix, .nil, (List.append_nil _).symm,
            fun still => ?_, fun _ => rfl, fun still => ?_⟩
          · cases goesOn.symm.trans still
          · cases still
      | false =>
          by_cases proceeds : Proceeds stream exchange.1
          case neg =>
            rw [List.map_cons, List.foldl_cons,
              connect_raises options goesOn proceeds, connect_ended rfl]
            refine ⟨[], [], List.nil_prefix, .nil, (List.append_nil _).symm,
              fun still => ?_, fun _ => rfl,
              fun _ limit limited => (within goesOn limit limited).le⟩
            cases still
          obtain ⟨part, shown, told, withinThen, counted⟩ :=
            connect_cases options goesOn
              (arrived exchange List.mem_cons_self) proceeds
          obtain ⟨used, parts, prefixed, shows, toldRest, all, ceased, limits⟩ :=
            inductionHypothesis _ withinThen fun other among =>
              arrived other (List.mem_cons_of_mem _ among)
          refine ⟨exchange :: used, part :: parts,
            (List.cons_prefix_cons).mpr ⟨rfl, prefixed⟩, .cons shown shows,
            ?_, fun still => ?_, fun ended => ?_, fun _ limit limited => ?_⟩
          · rw [List.map_cons, List.foldl_cons, toldRest, told,
              List.flatten_cons, List.append_assoc]
          · rw [all still]
          · cases ended
          · have before := within goesOn limit limited
            rw [List.length_cons]
            cases endedThen : (connect options stream exchange.1).ended with
            | true =>
                rw [ceased endedThen]
                exact before
            | false =>
                have after := limits endedThen limit limited
                rcases counted with ended | counted
                · cases endedThen.symm.trans ended
                · omega

variable (options) in
private theorem raisedForId_createStream (attempts : List Attempt) :
    RaisedForId (createStream options attempts) := by
  unfold createStream
  generalize start : ({ memory := { retryDelay :=
    options.sseDefaultRetryDelay } } : Stream Json) = stream
  have fine : RaisedForId stream := by
    subst start
    exact fun raised => by cases raised
  clear start
  induction attempts generalizing stream with
  | nil => exact fine
  | cons attempt attempts inductionHypothesis =>
      exact inductionHypothesis _ (raisedForId_connect options fine attempt)

/-- Over all its attempts a client yields whole events, each attempt those of
its own response in order, however the responses are cut and wherever they
break off; it makes no more attempts than it may; and it ends with an error
only after an event with an id that no header can carry. -/
theorem yields_whole_events {exchanges : List (Attempt × Response)}
    (arrived : ∀ exchange ∈ exchanges, Arrived exchange) :
    ∃ used parts, used <+: exchanges ∧
      List.Forall₂ (Shown options) used parts ∧
      (createStream options (exchanges.map Prod.fst)).yielded =
        parts.flatten ∧
      ((createStream options (exchanges.map Prod.fst)).ended = false →
        used = exchanges) ∧
      RaisedForId (createStream options (exchanges.map Prod.fst)) ∧
      ∀ limit, options.sseMaxRetryAttempts = some limit →
        used.length ≤ max limit 1 := by
  obtain ⟨used, parts, prefixed, shows, told, all, -, limits⟩ :=
    foldl_connect options
      { memory := { retryDelay := options.sseDefaultRetryDelay } }
      (fun _ limit _ => lt_of_lt_of_le Nat.zero_lt_one (le_max_right limit 1))
      arrived
  refine ⟨used, parts, prefixed, shows, told, all,
    raisedForId_createStream options _, fun limit limited => ?_⟩
  simpa using limits rfl limit limited

end Attempts

/-! ### A stream that is cut off once -/

/-- A client of numbers that connects twice. -/
def numbers : Options Nat where
  parseJson text :=
    if !text.isEmpty && text.all Char.isDigit then some (digits text)
    else none
  sseMaxRetryAttempts := some 2

private theorem plain_of_all {lines : List (List Char)}
    (all : lines.all (List.all · fun char => char != '\n' && char != '\r') =
      true) : ∀ line ∈ lines, Plain line := by
  intro line member char among
  have plain := List.all_eq_true.mp (List.all_eq_true.mp all line member) char
    among
  simpa using plain

/-- A named event with the number 7, and one with 8. -/
def sentNumbers : Response where
  ending := .returnNewline
  blocks :=
    [{ lines := ["event: number".toList, "data: 7".toList]
       plain := plain_of_all (by decide)
       single := by decide },
      { lines := ["event: number".toList, "data: 8".toList]
        plain := plain_of_all (by decide)
        single := by decide }]

/-- A response that is cut within line ends and lost before its last event
ended, and one that is cut within a name. -/
def cutNumbers : List (Attempt × Response) :=
  [(.response ["event: number\r".toList, "\ndata: 7\r\n\r".toList,
      "\nevent: number\r\ndata: 8".toList] true, sentNumbers),
    (.response ["ev".toList, "ent: number\r\ndata: 7\r\n\r\n".toList]
      false, sentNumbers)]

theorem yields_whole_numbers :
    (createStream numbers (cutNumbers.map Prod.fst)).yielded =
        [.json 7, .json 7] ∧
      ∃ used parts, used <+: cutNumbers ∧
        List.Forall₂ (Shown numbers) used parts ∧
        (createStream numbers (cutNumbers.map Prod.fst)).yielded =
          parts.flatten ∧
        ((createStream numbers (cutNumbers.map Prod.fst)).ended = false →
          used = cutNumbers) ∧
        RaisedForId (createStream numbers (cutNumbers.map Prod.fst)) ∧
        ∀ limit, numbers.sseMaxRetryAttempts = some limit →
          used.length ≤ max limit 1 := by
  refine ⟨by decide, yields_whole_events ?_⟩
  intro exchange member values lost same
  simp only [cutNumbers, List.mem_cons, List.not_mem_nil, or_false] at member
  rcases member with rfl | rfl
  · cases same
    decide
  · cases same
    decide

end EventReading

end Integr8s
