/-
Module: Integr8s.Frontend.ServerSentEvents
Purpose: The client of the event streams in the browser: how it reads the
  events out of the chunks of a response, and when it connects again.
Trusted boundary: human-reviewed spec
Main exports: SseClient.readChunk, SseClient.readBody, SseClient.Attempt,
  SseClient.isHeaderValue, SseClient.Options, SseClient.createStream,
  SseClient.yielded
-/
import Mathlib.Algebra.Ring.Int.Defs
import Integr8s.Lib.TextChunks

namespace Integr8s

namespace SseClient

open TextChunks

/-- What `\s` stands for. -/
def isSpace (char : Char) : Bool :=
  let code := char.toNat
  (9 ≤ code && code ≤ 13) || code == 0x20 || code == 0xA0 ||
    code == 0x1680 || (0x2000 ≤ code && code ≤ 0x200A) || code == 0x2028 ||
    code == 0x2029 || code == 0x202F || code == 0x205F || code == 0x3000 ||
    code == 0xFEFF

/-! ### Events in chunks -/

/-- What follows the name of a field, if the line starts with it. -/
def field? (name : String) (line : List Char) : Option (List Char) :=
  if name.toList.isPrefixOf line then
    some ((line.drop name.toList.length).dropWhile isSpace)
  else none

/-- The number that decimal digits write. -/
def digits (text : List Char) : Nat :=
  text.foldl (fun number digit => number * 10 + (digit.toNat - '0'.toNat)) 0

/-- `Number.parseInt(text, 10)`, of which `none` is `NaN`. -/
def parseInt (text : List Char) : Option Int :=
  let (negative, rest) : Bool × List Char :=
    match text.dropWhile isSpace with
    | '-' :: rest => (true, rest)
    | '+' :: rest => (false, rest)
    | rest => (false, rest)
  let number := rest.takeWhile Char.isDigit
  if number.isEmpty then none
  else some (if negative then -(digits number : Int) else digits number)

/-- What the client remembers from event to event. -/
structure Memory where
  lastEventId : Option (List Char) := none
  retryDelay : Int := 3000
deriving DecidableEq, Repr

/-- What the lines of an event have said so far. -/
structure Fields where
  dataLines : List (List Char) := []
  eventName : Option (List Char) := none

def readLine (read : Fields × Memory) (line : List Char) : Fields × Memory :=
  match field? "data:" line with
  | some data =>
      ({ read.1 with dataLines := read.1.dataLines ++ [data] }, read.2)
  | none =>
      match field? "event:" line with
      | some name => ({ read.1 with eventName := some name }, read.2)
      | none =>
          match field? "id:" line with
          | some id => (read.1, { read.2 with lastEventId := some id })
          | none =>
              match (field? "retry:" line).bind parseInt with
              | some delay => (read.1, { read.2 with retryDelay := delay })
              | none => read

/-- The data of an event: parsed, or the text if it is not JSON. -/
inductive Data (Json : Type) where
  | json (value : Json)
  | text (raw : List Char)
deriving DecidableEq, Repr

structure StreamEvent (Json : Type) where
  data : Option (Data Json)
  event : Option (List Char)
  id : Option (List Char)
  retry : Int
deriving DecidableEq, Repr

/-- The settings of a client; the JSON parser is the browser's. -/
structure Options (Json : Type) where
  parseJson : List Char → Option Json
  sseDefaultRetryDelay : Int := 3000
  sseMaxRetryAttempts : Option Nat := none
  sseMaxRetryDelay : Int := 30000

variable {Json : Type} (options : Options Json)

def parseData (rawData : List Char) : Data Json :=
  match options.parseJson rawData with
  | some value => .json value
  | none => .text rawData

/-- `dataLines.join('\n')` of the event, if it has data. -/
def eventData (dataLines : List (List Char)) : Option (Data Json) :=
  if dataLines.isEmpty then none
  else some (parseData options (List.intercalate ['\n'] dataLines))

/-- Read one event. -/
def readEvent (memory : Memory) (chunk : List Char) :
    StreamEvent Json × Memory :=
  let (fields, memory) :=
    (splitText ['\n'] chunk).foldl readLine ({}, memory)
  ({ data := eventData options fields.dataLines
     event := fields.eventName
     id := memory.lastEventId
     retry := memory.retryDelay }, memory)

/-- What a client has read of a response. -/
structure Body (Json : Type) where
  memory : Memory
  buffer : List Char := []
  events : List (StreamEvent Json) := []

/-- Read the events of a chunk of a response one after the other. -/
def readEvents (body : Body Json) : List (List Char) → Body Json
  | [] => body
  | chunk :: chunks =>
      let (event, memory) := readEvent options body.memory chunk
      readEvents
        { body with memory := memory, events := body.events ++ [event] }
        chunks

/-- One more chunk of the response. -/
def readChunk (body : Body Json) (value : List Char) : Body Json :=
  let (chunks, buffer) := splitAfter blankLine []
    (unifyLineEnds false (body.buffer ++ value))
  readEvents options { body with buffer := buffer } chunks

def readBody (memory : Memory) (values : List (List Char)) : Body Json :=
  values.foldl (readChunk options) { memory := memory }

/-! ### Connections -/

/-- What `Headers.set` strips off the ends of a value. -/
def isHttpSpace (char : Char) : Bool :=
  char == '\t' || char == '\n' || char == '\r' || char == ' '

/-- `Headers.set` takes a value of bytes, of which none but those it strips off
is a null byte or a line end; it throws a `TypeError` for any other. -/
def isHeaderValue (value : List Char) : Bool :=
  let stripped :=
    ((value.dropWhile isHttpSpace).reverse.dropWhile isHttpSpace).reverse
  value.all (fun char => char.toNat ≤ 0xFF) &&
    stripped.all fun char =>
      char.toNat != 0 && char != '\n' && char != '\r'

/-- What becomes of one round of the client's loop: its signal was aborted
before it, there is no response with a body, or there is one, which comes to
an end or breaks off. -/
inductive Attempt where
  | aborted
  | failed
  | response (values : List (List Char)) (lost : Bool)

/-- What a client has done; it may have ended with an error. -/
structure Stream (Json : Type) where
  memory : Memory
  attempt : Nat := 0
  events : List (StreamEvent Json) := []
  delays : List Int := []
  ended : Bool := false
  raised : Bool := false

/-- Whether the id of the last event can be sent as a header. -/
def Stream.canResume (stream : Stream Json) : Bool :=
  stream.memory.lastEventId.all isHeaderValue

/-- The client waits, twice as long each time, or it gives up. -/
def retry (stream : Stream Json) : Stream Json :=
  if options.sseMaxRetryAttempts.any (· ≤ stream.attempt) then
    { stream with ended := true }
  else
    { stream with
      delays := stream.delays ++
        [min (stream.memory.retryDelay * 2 ^ (stream.attempt - 1))
          options.sseMaxRetryDelay] }

/-- What the client does once its request is sent. -/
def receive (stream : Stream Json) (attempt : Attempt) : Stream Json :=
  match attempt with
  | .aborted => { stream with ended := true }
  | .failed => retry options stream
  | .response values lost =>
      let body := readBody options stream.memory values
      let stream :=
        { stream with
          memory := body.memory
          events := stream.events ++ body.events }
      if lost then retry options stream else { stream with ended := true }

/-- One round of the client's loop.  The headers are set before anything is
caught, so an id that none can carry ends the stream with an error. -/
def connect (stream : Stream Json) (attempt : Attempt) : Stream Json :=
  if stream.ended then stream
  else
    match attempt with
    | .aborted => { stream with ended := true }
    | _ =>
        let stream := { stream with attempt := stream.attempt + 1 }
        if stream.canResume then receive options stream attempt
        else { stream with ended := true, raised := true }

def createStream (attempts : List Attempt) : Stream Json :=
  attempts.foldl (connect options)
    { memory := { retryDelay := options.sseDefaultRetryDelay } }

/-- What a stream yields: the data of its events. -/
def Stream.yielded (stream : Stream Json) : List (Data Json) :=
  stream.events.filterMap StreamEvent.data

end SseClient

end Integr8s
