/-
Errors of the gateway and the replies made of them.

The error handler sees a failed validation, an `AppError` or any other error.
Causes are kept for the log and are not part of a reply.
-/

import ModelMux.Json.Number

namespace ModelMux.Routes

variable {Cause : Type}

/-- The classes of `errors.ts` with what their constructors are given. -/
inductive AppError (Cause : Type) where
  | providerHttpError (provider : String) (upstreamStatus : ℤ) (upstreamDetail : Option JsString)
  | providerConnectionError (provider : String) (cause : Option Cause)
  | providerResponseError (provider : String) (cause : Option Cause)
  | providerTimeoutError (provider : String) (timeoutMs : ℚ) (cause : Option Cause)
  | providerCircuitOpenError (provider : String) (retryAfterMs : ℚ)
  | providerStreamingUnsupportedError
  | authenticationError
  | apiKeyStoreUnavailableError (cause : Option Cause)
  | rateLimitExceededError (retryAfterSeconds : ℤ)
  | rateLimiterUnavailableError (cause : Option Cause)
  | concurrencyQueueFullError (maxConcurrent maxQueueSize : ℕ)
  | concurrencyWaitTimeoutError (waitTimeoutMs : ℕ)
  | jobQueueUnavailableError (cause : Option Cause)
  | jobNotFoundError
  | idempotencyConflictError
deriving DecidableEq

namespace AppError

def statusCode : AppError Cause → ℕ
  | .providerHttpError _ _ _ => 502
  | .providerConnectionError _ _ => 503
  | .providerResponseError _ _ => 502
  | .providerTimeoutError _ _ _ => 504
  | .providerCircuitOpenError _ _ => 503
  | .providerStreamingUnsupportedError => 501
  | .authenticationError => 401
  | .apiKeyStoreUnavailableError _ => 503
  | .rateLimitExceededError _ => 429
  | .rateLimiterUnavailableError _ => 503
  | .concurrencyQueueFullError _ _ => 503
  | .concurrencyWaitTimeoutError _ => 503
  | .jobQueueUnavailableError _ => 503
  | .jobNotFoundError => 404
  | .idempotencyConflictError => 409

def code : AppError Cause → String
  | .providerHttpError _ _ _ => "PROVIDER_ERROR"
  | .providerConnectionError _ _ => "PROVIDER_UNAVAILABLE"
  | .providerResponseError _ _ => "INVALID_PROVIDER_RESPONSE"
  | .providerTimeoutError _ _ _ => "PROVIDER_TIMEOUT"
  | .providerCircuitOpenError _ _ => "PROVIDER_CIRCUIT_OPEN"
  | .providerStreamingUnsupportedError => "STREAMING_UNSUPPORTED"
  | .authenticationError => "INVALID_API_KEY"
  | .apiKeyStoreUnavailableError _ => "API_KEY_STORE_UNAVAILABLE"
  | .rateLimitExceededError _ => "RATE_LIMIT_EXCEEDED"
  | .rateLimiterUnavailableError _ => "RATE_LIMITER_UNAVAILABLE"
  | .concurrencyQueueFullError _ _ => "CONCURRENCY_QUEUE_FULL"
  | .concurrencyWaitTimeoutError _ => "CONCURRENCY_WAIT_TIMEOUT"
  | .jobQueueUnavailableError _ => "JOB_QUEUE_UNAVAILABLE"
  | .jobNotFoundError => "JOB_NOT_FOUND"
  | .idempotencyConflictError => "IDEMPOTENCY_CONFLICT"

def message : AppError Cause → String
  | .providerHttpError provider _ _ => provider ++ " request failed"
  | .providerConnectionError provider _ => "Unable to connect to " ++ provider
  | .providerResponseError provider _ => provider ++ " returned an invalid response"
  | .providerTimeoutError provider _ _ => provider ++ " request timed out"
  | .providerCircuitOpenError provider _ => provider ++ " circuit is temporarily open"
  | .providerStreamingUnsupportedError => "The configured provider does not support streaming"
  | .authenticationError => "Missing or invalid API key"
  | .apiKeyStoreUnavailableError _ => "API key service is unavailable"
  | .rateLimitExceededError _ => "Rate limit exceeded"
  | .rateLimiterUnavailableError _ => "Rate limiter is unavailable"
  | .concurrencyQueueFullError _ _ => "Provider execution queue is full"
  | .concurrencyWaitTimeoutError _ => "Timed out waiting for provider capacity"
  | .jobQueueUnavailableError _ => "Inference job queue is unavailable"
  | .jobNotFoundError => "Job not found"
  | .idempotencyConflictError => "Idempotency key has already been used with a different request"

def retryAfter? : AppError Cause → Option ℤ
  | .providerCircuitOpenError _ retryAfterMs => some (max 1 ⌈retryAfterMs / 1000⌉)
  | .rateLimitExceededError retryAfterSeconds => some retryAfterSeconds
  | .concurrencyQueueFullError _ _ => some 1
  | .concurrencyWaitTimeoutError _ => some 1
  | .jobQueueUnavailableError _ => some 1
  | _ => none

def headers (error : AppError Cause) : List (String × String) :=
  match error with
  | .authenticationError => [("www-authenticate", "Bearer realm=\"modelmux\"")]
  | _ => error.retryAfter?.toList.map (fun seconds => ("retry-after", toString seconds))

end AppError

/-! ### The error handler -/

structure ValidationIssue where
  instancePath : String
  message : Option String
deriving DecidableEq

inductive RequestError (Cause : Type) where
  | validation (validationContext : Option String) (issues : List ValidationIssue)
  | app (error : AppError Cause)
  | other (statusCode : Option ℕ) (code : Option String) (message : String)
deriving DecidableEq

structure ErrorReply where
  status : ℕ
  headers : List (String × String)
  code : String
  message : String
  details : Option (List (String × String))
  requestId : JsString
deriving DecidableEq

def orElseText (left right : String) : String := if left = "" then right else left

def errorReply (requestId : JsString) : RequestError Cause → ErrorReply
  | .validation validationContext issues =>
      { status := 400
        headers := []
        code := "VALIDATION_ERROR"
        message := "Invalid request " ++ validationContext.getD "body"
        details := some (issues.map (fun issue =>
          (orElseText issue.instancePath "/", issue.message.getD "is invalid")))
        requestId := requestId }
  | .app error =>
      { status := error.statusCode
        headers := error.headers
        code := error.code
        message := error.message
        details := none
        requestId := requestId }
  | .other statusCode code message =>
      if 400 ≤ statusCode.getD 500 && statusCode.getD 500 < 500 then
        { status := statusCode.getD 500
          headers := []
          code := orElseText (code.getD "") "BAD_REQUEST"
          message := message
          details := none
          requestId := requestId }
      else
        { status := 500
          headers := []
          code := "INTERNAL_SERVER_ERROR"
          message := "Internal server error"
          details := none
          requestId := requestId }

end ModelMux.Routes
