/-
Module: Integr8s.Services.Idempotency
Purpose: The idempotency manager: reserve a key, let the work run under it,
  and mark the key completed or release it.
Trusted boundary: human-reviewed spec
Main exports: IdempotencyManager.generateKey,
  IdempotencyManager.checkAndReserve, IdempotencyManager.markCompleted,
  IdempotencyManager.markCompletedWithJson, IdempotencyManager.release,
  IdempotencyManager.getCachedJson, underKey
-/
import Integr8s.Infrastructure.World

namespace Integr8s

namespace IdempotencyManager

variable (config : IdempotencyConfig)

/-- The key of an event, `KeyStrategy.EVENT_BASED`. -/
def generateKey (eventType : EventType) (eventId : EventId) : String :=
  config.keyPrefix ++ ":" ++ eventType.value ++ ":" ++ eventId

/-- The key of a caller's own text, `KeyStrategy.CUSTOM`. -/
def generateCustomKey (eventType : EventType) (customKey : String) : String :=
  config.keyPrefix ++ ":" ++ eventType.value ++ ":" ++ customKey

/-- A record that is still processing blocks its key until the processing
timeout; then it is taken for a crashed caller's and taken over. -/
def handleProcessingKey (existing : IdempotencyRecord) (fullKey : String) :
    Program IdempotencyResult := do
  let now ← request .now
  if now - existing.createdAt > seconds config.processingTimeoutSeconds then do
    let _ ← request (.updateRecord existing
      { existing with createdAt := now, status := .processing })
    pure
      { isDuplicate := false
        status := .processing
        createdAt := now
        key := fullKey }
  else
    pure
      { isDuplicate := true
        status := .processing
        createdAt := existing.createdAt
        hasCachedResult := existing.resultJson.isSome
        key := fullKey }

def handleExistingKey (existing : IdempotencyRecord) (fullKey : String) :
    Program IdempotencyResult :=
  match existing.status with
  | .processing => handleProcessingKey config existing fullKey
  | .completed | .failed =>
      pure
        { isDuplicate := true
          status := existing.status
          createdAt := existing.createdAt
          completedAt := existing.completedAt
          processingDurationMs := existing.processingDurationMs
          error := existing.error
          hasCachedResult := existing.resultJson.isSome
          key := fullKey }

/-- A reservation that loses against another reads the key again; when the
key is gone by then, its caller runs without a reservation. -/
def createNewKey (fullKey : String) (eventType : EventType)
    (eventId : EventId) (ttl : Nat) : Program IdempotencyResult := do
  let createdAt ← request .now
  let record : IdempotencyRecord :=
    { key := fullKey
      status := .processing
      eventType := eventType
      eventId := eventId
      createdAt := createdAt
      ttlSeconds := ttl }
  let reserved : IdempotencyResult :=
    { isDuplicate := false
      status := .processing
      createdAt := createdAt
      key := fullKey }
  let insert : Program IdempotencyResult := do
    let _ ← request (.insertProcessing record)
    pure reserved
  insert.attempt fun error =>
    if error = .duplicateKeyError then do
      match ← request (.findKey fullKey) with
      | some existing => handleExistingKey config existing fullKey
      | none => pure reserved
    else Coroutine.raise error

def checkAndReserve (fullKey : String) (eventType : EventType)
    (eventId : EventId) (ttl : Nat) : Program IdempotencyResult := do
  match ← request (.findKey fullKey) with
  | some existing => handleExistingKey config existing fullKey
  | none => createNewKey config fullKey eventType eventId ttl

/-- The cached result of a completed record: a new one when caching is enabled
and it is small enough. -/
def cachedResult (existing : IdempotencyRecord) (cachedJson : Option String) :
    Option String :=
  match cachedJson with
  | some json =>
      if config.enableResultCaching = true ∧
          json.utf8ByteSize ≤ config.maxResultSizeBytes then some json
      else existing.resultJson
  | none => existing.resultJson

/-- Overwrite a record with its final status. -/
def updateKeyStatus (existing : IdempotencyRecord)
    (status : IdempotencyStatus) (cachedJson error : Option String) :
    Program Bool := do
  let completedAt ← request .now
  let written ← request (.updateRecord existing
    { existing with
      status := status
      completedAt := some completedAt
      processingDurationMs := some ((completedAt - existing.createdAt) / 1000)
      error :=
        match error with
        | some text => if text = "" then existing.error else some text
        | none => existing.error
      resultJson := cachedResult config existing cachedJson })
  pure (decide (0 < written))

def markCompleted (fullKey : String) : Program Bool := do
  let load : Program (Option IdempotencyRecord) := request (.findKey fullKey)
  match ← load.attempt fun error =>
      if error = .redisError then pure none else Coroutine.raise error with
  | none => pure false
  | some existing => updateKeyStatus config existing .completed none none

def markCompletedWithJson (fullKey : String) (cachedJson : String) :
    Program Bool := do
  match ← request (.findKey fullKey) with
  | none => pure false
  | some existing =>
      updateKeyStatus config existing .completed (some cachedJson) none

/-- Drop a reserved key so the next caller with the same key runs again. -/
def release (fullKey : String) : Program Bool := do
  let deleted ← request (.deleteKey fullKey)
  pure (decide (0 < deleted))

def getCachedJson (fullKey : String) : Program (Option String) := do
  match ← request (.findKey fullKey) with
  | none => pure none
  | some existing => pure existing.resultJson

end IdempotencyManager

/-- Run some work under a key: a duplicate is answered without running it,
work that raises releases the key, and work that returns is completed. -/
def underKey {α β : Type} (config : IdempotencyConfig) (fullKey : String)
    (eventType : EventType) (eventId : EventId) (ttl : Nat)
    (duplicate : IdempotencyResult → Program α) (work : Program β)
    (complete : β → Program α) : Program α := do
  let reservation ←
    IdempotencyManager.checkAndReserve config fullKey eventType eventId ttl
  if reservation.isDuplicate then duplicate reservation
  else do
    let _ ← request (.letThrough fullKey)
    let result ← work.attempt fun error => do
      let _ ← IdempotencyManager.release fullKey
      Coroutine.raise error
    complete result

end Integr8s
