import WebhookWise.PythonValues

/-!
# Exceptions and the retry policy

An exception class is known by its name and by those classes of the services' `except`
clauses and `isinstance` checks that it inherits from.  Any subclass of `Exception` is
such a class, also one that inherits from none of them or from several.
-/

namespace WebhookWise

namespace PythonExceptions

inductive KnownClass where
  | osError
  | connectionError
  | timeoutError
  | runtimeError
  | valueError
  | jsonDecodeError
  | unicodeDecodeError
  | keyError
  | typeError
  | attributeError
  | redisError
  | sqlAlchemyError
  | operationalError
  | integrityError
  | queryCanceledError
  | httpxRequestError
  | httpxTimeoutException
  | httpxNetworkError
  | httpxHttpStatusError
  | apiStatusError
  | authenticationError
  | badRequestError
  | permissionDeniedError
  | unprocessableEntityError
  | notFoundError
  | rateLimitError
  | apiConnectionError
  | apiTimeoutError
deriving DecidableEq

def KnownClass.parents : KnownClass → List KnownClass
  | connectionError | timeoutError => [osError]
  | jsonDecodeError | unicodeDecodeError => [valueError]
  | operationalError | integrityError => [sqlAlchemyError]
  | httpxTimeoutException | httpxNetworkError => [httpxRequestError]
  | authenticationError | badRequestError | permissionDeniedError | unprocessableEntityError
  | notFoundError | rateLimitError => [apiStatusError]
  | apiTimeoutError => [apiConnectionError]
  | _ => []

structure ExceptionClass where
  name : String
  bases : List KnownClass
  inherits : ∀ base ∈ bases, ∀ parent ∈ base.parents, parent ∈ bases

/-- An exception object, with what `RetryPolicy` and the recorders read of it. -/
structure RaisedError where
  type : ExceptionClass
  /-- `str(error)`. -/
  message : String
  /-- `error.status_code`, if it is an integer. -/
  statusCode : Option Int
  /-- `error.response.status_code`, if it is an integer. -/
  responseStatusCode : Option Int
  /-- `error.code`, if it is a string. -/
  code : Option String
  /-- `error.body["error"]["code"]`, if it is a string. -/
  bodyErrorCode : Option String

/-- A raised exception, and what `_iter_chain` finds behind it: its cause or context, the
cause or context of that, and so on. -/
structure PyException where
  error : RaisedError
  behind : List RaisedError

/-- `isinstance(error, classes)`. -/
def RaisedError.isInstance (error : RaisedError) (classes : List KnownClass) : Bool :=
  classes.any fun known => error.type.bases.contains known

/-- Whether `except classes` catches the exception. -/
def PyException.isCaughtBy (exception : PyException) (classes : List KnownClass) : Bool :=
  exception.error.isInstance classes

def PyException.plain (type : ExceptionClass) (message : String) : PyException :=
  ⟨⟨type, message, none, none, none, none⟩, []⟩

/-! ## `RetryPolicy` -/

def nonRetryableErrors : List KnownClass :=
  [.valueError, .keyError, .typeError, .jsonDecodeError, .unicodeDecodeError]

def openaiNonRetryableErrors : List KnownClass :=
  [.authenticationError, .badRequestError, .permissionDeniedError, .unprocessableEntityError,
    .notFoundError]

def openaiRetryableErrors : List KnownClass :=
  [.rateLimitError, .apiConnectionError, .apiTimeoutError]

def openaiNonRetryableClassNames : List String :=
  ["AuthenticationError", "BadRequestError", "PermissionDeniedError", "UnprocessableEntityError",
    "NotFoundError"]

def openaiRetryableClassNames : List String :=
  ["RateLimitError", "APIConnectionError", "APITimeoutError"]

def isOpenaiNonRetryable (error : RaisedError) : Bool :=
  error.isInstance openaiNonRetryableErrors || openaiNonRetryableClassNames.contains error.type.name

def isOpenaiRetryable (error : RaisedError) : Bool :=
  error.isInstance openaiRetryableErrors || openaiRetryableClassNames.contains error.type.name

def extractStatusCode (error : RaisedError) : Option Int :=
  if error.isInstance [.httpxHttpStatusError] then error.responseStatusCode.filter (· ≠ 0)
  else (error.statusCode.filter (0 < ·)).or (error.responseStatusCode.filter (0 < ·))

def shouldRetryHttpStatus (statusCode : Int) : Bool :=
  [408, 409, 425, 429, 500, 502, 503, 504].contains statusCode ||
    (500 ≤ statusCode && statusCode < 600)

def openaiErrorCode (error : RaisedError) : Option String :=
  ((error.code.map strip).filter (· ≠ "")).or ((error.bodyErrorCode.map strip).filter (· ≠ ""))

/-- What `should_retry` decides by one error of the chain, if it does not go on to the
next. -/
def decidesRetry (error : RaisedError) : Option Bool :=
  if error.isInstance nonRetryableErrors then some false
  else if error.isInstance [.queryCanceledError] then some true
  else if error.isInstance [.redisError] then some true
  else if error.isInstance [.httpxTimeoutException, .httpxNetworkError, .httpxRequestError,
      .connectionError, .osError] then some true
  else if error.isInstance [.operationalError] then some true
  else if isOpenaiNonRetryable error then some false
  else if isOpenaiRetryable error then some true
  else
    match extractStatusCode error with
    | some statusCode => some (shouldRetryHttpStatus statusCode)
    | none =>
        match openaiErrorCode error with
        | some code =>
            if ["context_length_exceeded", "content_policy_violation"].contains code then some false
            else none
        | none => none

def shouldRetry (exception : PyException) : Bool :=
  ((exception.error :: exception.behind).findSome? decidesRetry).getD false

end PythonExceptions

end WebhookWise
