/-
Module: Integr8s.Services.IdempotentExecutions
Purpose: Submit a script under the idempotency key of a request: repeats get
  the execution that was cached for the first one.
Trusted boundary: human-reviewed spec
Main exports: ExecutionAdapter, ExecutionService.httpKey,
  ExecutionService.executeScriptIdempotent
-/
import Integr8s.Services.Executions
import Integr8s.Services.Idempotency

namespace Integr8s

/-- How executions are written to the cache and read from it. -/
structure ExecutionAdapter where
  dumpJson : ExecutionDocument → String
  validateJson : String → Except PyException ExecutionDocument

namespace ExecutionService

/-- 24 hours. -/
def httpTtlSeconds : Nat := 86400

/-- The full key of a user's idempotency key. -/
def httpKey (config : IdempotencyConfig) (userId : UserId)
    (idempotencyKey : String) : String :=
  IdempotencyManager.generateCustomKey config .executionRequested
    ("http:" ++ userId ++ ":" ++ idempotencyKey)

/-- What a duplicate is told when nothing is cached. -/
def conflict (idempotencyKey : String) (status : IdempotencyStatus) :
    PyException :=
  .conflictError
    (if status = .processing then
      "Duplicate request '" ++ idempotencyKey ++ "' is still being processed"
    else "Previous request '" ++ idempotencyKey ++ "' failed")

/-- A duplicate gets the cached execution. -/
def answerDuplicate (adapter : ExecutionAdapter)
    (fullKey idempotencyKey : String) (reservation : IdempotencyResult) :
    Program ExecutionDocument :=
  if !reservation.hasCachedResult then
    Coroutine.raise (conflict idempotencyKey reservation.status)
  else do
    let gone : PyException := .conflictError
      ("Cached result for '" ++ idempotencyKey ++ "' is no longer available")
    match ← IdempotencyManager.getCachedJson fullKey with
    | none => Coroutine.raise gone
    | some cachedJson =>
        if cachedJson = "" then Coroutine.raise gone
        else
          match adapter.validateJson cachedJson with
          | .ok doc => pure doc
          | .error error => Coroutine.raise error

/-- The result of a submission goes into the cache. -/
def cacheResult (config : IdempotencyConfig) (adapter : ExecutionAdapter)
    (fullKey : String) (execResult : ExecutionDocument) :
    Program ExecutionDocument := do
  let _ ← IdempotencyManager.markCompletedWithJson config fullKey
    (adapter.dumpJson execResult)
  pure execResult

/-- Execute a script with optional idempotency support. -/
def executeScriptIdempotent (deployment : Deployment)
    (config : IdempotencyConfig) (adapter : ExecutionAdapter)
    (submission : Submission) (idempotencyKey : Option String) :
    Program ExecutionDocument :=
  match idempotencyKey with
  | none => executeScript deployment submission
  | some idempotencyKey =>
      if idempotencyKey = "" then executeScript deployment submission
      else do
        let eventId ← request .uuid
        let fullKey := httpKey config submission.userId idempotencyKey
        underKey config fullKey .executionRequested eventId httpTtlSeconds
          (answerDuplicate adapter fullKey idempotencyKey)
          (executeScript deployment submission)
          (cacheResult config adapter fullKey)

end ExecutionService

end Integr8s
