/-
Module: Integr8s.Domain.Exceptions
Purpose: The exceptions that the backend's coroutines raise and tell apart.
Trusted boundary: human-reviewed spec
Main exports: PyException, PyException.isPyMongoError,
  PyException.isPublishError, PyException.isReadError,
  PyException.isProduceError
-/
import Integr8s.Domain.Execution

namespace Integr8s

/-- An exception, by the class a handler matches it against.  No handler
catches `asyncio.CancelledError`, which only extends `BaseException`: a
cancelled call ends where it awaits, like a killed one. -/
inductive PyException where
  | pyMongoError
  | duplicateKeyError
  | redisError
  | kafkaError
  | incorrectState
  | apiException (status : Nat)
  | clientError
  | timeoutError
  | valueError
  | typeError
  | overflowError
  | decimalOverflow
  | queuedRequestLostError (executionId : ExecutionId)
  | infrastructureError
  | validationError
  | executionNotFoundError (executionId : ExecutionId)
  | runtimeNotSupportedError (language version : String)
  | executionLimitExceededError (limit : Nat)
  | notificationNotFoundError (notificationId : String)
  | invalidCredentialsError
  | accountLockedError (message : String)
  | accountDeactivatedError (username : String)
  | csrfValidationError (message : String)
  | conflictError (message : String)
  | notFoundError (entity identifier : String)
  | domainValidationError (message : String)
  | otherError (message : String)
deriving DecidableEq, Repr

namespace PyException

/-- `PyMongoError`, which `DuplicateKeyError` extends. -/
def isPyMongoError : PyException → Bool
  | pyMongoError | duplicateKeyError => true
  | _ => false

/-- `_PUBLISH_ERRORS`. -/
def isPublishError : PyException → Bool
  | kafkaError | incorrectState => true
  | _ => false

/-- The errors with which the log of a pod can fail to be read. -/
def isReadError : PyException → Bool
  | apiException _ | clientError | timeoutError => true
  | _ => false

/-- `PRODUCE_ERRORS`. -/
def isProduceError (error : PyException) : Bool :=
  error.isPyMongoError || error.isPublishError

end PyException

end Integr8s
