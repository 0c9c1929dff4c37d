/-
The handler of `POST /v1/chat`.

The handler runs from one await to the next.  A continuation is a function of
the awaited result and of whether the request has been cancelled; it returns
the handler, which awaits again or has settled, and the calls made on the way.
Log lines are left out.
-/

import ModelMux.Concurrency.InMemoryConcurrencyLimiter
import ModelMux.Providers.Router

namespace ModelMux.Routes

open Concurrency (AcquireError)
open Providers (ChatRequest)

/-! ### Errors -/

/-- What a handler can throw or see thrown.  `failure` is an error that the
handlers do not tell apart, with the code of an `AppError`. -/
inductive RouteError (Failure : Type) where
  | requestAbortedError
  | acquireError (error : AcquireError)
  | cacheTimedOut
  | providerStreamingUnsupportedError
  | failure (code : Option String) (failure : Failure)
deriving DecidableEq

variable {Response Failure : Type}

namespace RouteError

def isRequestAbortedError : RouteError Failure → Bool
  | .requestAbortedError => true
  | .acquireError .requestAbortedError => true
  | _ => false

def code : RouteError Failure → String
  | .requestAbortedError => "INTERNAL_SERVER_ERROR"
  | .acquireError .requestAbortedError => "INTERNAL_SERVER_ERROR"
  | .acquireError (.concurrencyQueueFullError _ _) => "CONCURRENCY_QUEUE_FULL"
  | .acquireError (.concurrencyWaitTimeoutError _) => "CONCURRENCY_WAIT_TIMEOUT"
  | .cacheTimedOut => "INTERNAL_SERVER_ERROR"
  | .providerStreamingUnsupportedError => "STREAMING_UNSUPPORTED"
  | .failure (some code) _ => code
  | .failure none _ => "INTERNAL_SERVER_ERROR"

end RouteError

/-! ### Request headers -/

def lowerUnit (unit : CodeUnit) : CodeUnit :=
  if (0x41 ≤ unit && unit ≤ 0x5A) || (0xC0 ≤ unit && unit ≤ 0xDE && unit ≠ 0xD7) then unit + 0x20
  else unit

def toLowerCase (text : JsString) : JsString := text.map lowerUnit

def refusedDirectives : List JsString :=
  [JsString.ofString "no-store", JsString.ofString "no-cache"]

def isRefusedDirective (directive : JsString) : Bool :=
  refusedDirectives.any (fun name =>
    name.isPrefixOf directive &&
      (directive.length = name.length ||
        ((directive.drop name.length).dropWhile CodeUnit.isSpace).head? = some 0x3D))

structure ChatCall where
  ownerId : JsString
  body : ChatRequest
  cacheMode : Option JsString
  cacheControl : Option JsString

def ChatCall.refusesCache (call : ChatCall) : Bool :=
  ((toLowerCase (call.cacheControl.getD [])).splitOn 0x2C).any
    (fun directive => isRefusedDirective (JsString.trim directive))

def ChatCall.usesCache (call : ChatCall) (chatCache : Bool) : Bool :=
  chatCache && call.cacheMode = some (JsString.ofString "use") && !call.refusesCache

/-! ### The handler -/

inductive CacheStatus where
  | bypass
  | miss
  | hit
deriving DecidableEq

/-- How the request ends: with an answer, with an error for the error handler, or
hijacked and destroyed. -/
inductive ChatOutcome (Response Failure : Type) where
  | answered (response : Response)
  | thrown (error : RouteError Failure)
  | cancelled
deriving DecidableEq

inductive ChatAwait (Response Failure : Type) where
  | cacheGet
  | acquire
  | providerChat
  | cachePut (result : Response)
  | settled (outcome : ChatOutcome Response Failure)
deriving DecidableEq

structure ChatHandler (Response Failure : Type) where
  call : ChatCall
  useCache : Bool
  cacheStatus : CacheStatus
  permit : Option ℕ
  awaiting : ChatAwait Response Failure

inductive ChatEffect (Response : Type) where
  | cacheGet (ownerId : JsString) (request : ChatRequest)
  | acquire
  | providerChat (request : ChatRequest)
  | release (permit : ℕ)
  | cachePut (ownerId : JsString) (request : ChatRequest) (response : Response)
  | destroy
  | cacheMetric (status : CacheStatus)
  | abort
deriving DecidableEq

inductive ChatInput (Response Failure : Type) where
  | cacheGot (result : Except (RouteError Failure) (Option Response))
  | acquired (result : Except AcquireError ℕ)
  | providerSettled (result : Except (RouteError Failure) Response)
  | cacheWritten (result : Except (RouteError Failure) Unit)

abbrev ChatProgress (Response Failure : Type) :=
  ChatHandler Response Failure × List (ChatEffect Response)

namespace ChatHandler

def settle (handler : ChatHandler Response Failure) (aborted : Bool)
    (result : Except (RouteError Failure) Response) : ChatProgress Response Failure :=
  let ending : ChatOutcome Response Failure × List (ChatEffect Response) := match result with
    | .ok response => (.answered response, [])
    | .error error =>
        if error.isRequestAbortedError || aborted then (.cancelled, [.destroy])
        else (.thrown error, [])
  ({ handler with awaiting := .settled ending.1 },
    ending.2 ++ [.cacheMetric handler.cacheStatus, .abort] ++
      handler.permit.toList.map ChatEffect.release)

def enqueue (handler : ChatHandler Response Failure) : ChatProgress Response Failure :=
  ({ handler with awaiting := .acquire }, [.acquire])

def start (chatCache : Bool) (call : ChatCall) : ChatProgress Response Failure :=
  let handler : ChatHandler Response Failure :=
    { call := call
      useCache := call.usesCache chatCache
      cacheStatus := .bypass
      permit := none
      awaiting := .cacheGet }
  if handler.useCache then (handler, [.cacheGet call.ownerId call.body])
  else handler.enqueue

def onCacheGot (handler : ChatHandler Response Failure) (aborted : Bool) :
    Except (RouteError Failure) (Option Response) → ChatProgress Response Failure
  | .ok cached =>
      if aborted then handler.settle aborted (.error .requestAbortedError)
      else
        match cached with
        | some response => { handler with cacheStatus := .hit }.settle aborted (.ok response)
        | none => { handler with cacheStatus := .miss }.enqueue
  | .error error =>
      if aborted then handler.settle aborted (.error .requestAbortedError)
      else if error.isRequestAbortedError then handler.settle aborted (.error error)
      else { handler with useCache := false }.enqueue

def onAcquired (handler : ChatHandler Response Failure) (aborted : Bool) :
    Except AcquireError ℕ → ChatProgress Response Failure
  | .ok permit =>
      let admitted := { handler with permit := some permit }
      if aborted then admitted.settle aborted (.error .requestAbortedError)
      else ({ admitted with awaiting := .providerChat }, [.providerChat handler.call.body])
  | .error error => handler.settle aborted (.error (.acquireError error))

/-- The inner `finally` releases the permit whatever the provider did. -/
def onProviderSettled (handler : ChatHandler Response Failure) (aborted : Bool)
    (result : Except (RouteError Failure) Response) : ChatProgress Response Failure :=
  let released := { handler with permit := none }
  let following := match result with
    | .error error => released.settle aborted (.error error)
    | .ok response =>
        if aborted then released.settle aborted (.error .requestAbortedError)
        else if handler.useCache then
          ({ released with awaiting := .cachePut response },
            [.cachePut handler.call.ownerId handler.call.body response])
        else released.settle aborted (.ok response)
  (following.1, handler.permit.toList.map ChatEffect.release ++ following.2)

def onCacheWritten (handler : ChatHandler Response Failure) (aborted : Bool) (response : Response) :
    Except (RouteError Failure) Unit → ChatProgress Response Failure
  | .ok () =>
      if aborted then handler.settle aborted (.error .requestAbortedError)
      else handler.settle aborted (.ok response)
  | .error error =>
      if aborted then handler.settle aborted (.error .requestAbortedError)
      else if error.isRequestAbortedError then handler.settle aborted (.error error)
      else handler.settle aborted (.ok response)

/-- The awaited promise settles; nothing else lets the handler go on. -/
def resume (handler : ChatHandler Response Failure) (aborted : Bool) :
    ChatInput Response Failure → Option (ChatProgress Response Failure)
  | .cacheGot result =>
      match handler.awaiting with
      | .cacheGet => some (handler.onCacheGot aborted result)
      | _ => none
  | .acquired result =>
      match handler.awaiting with
      | .acquire => some (handler.onAcquired aborted result)
      | _ => none
  | .providerSettled result =>
      match handler.awaiting with
      | .providerChat => some (handler.onProviderSettled aborted result)
      | _ => none
  | .cacheWritten result =>
      match handler.awaiting with
      | .cachePut response => some (handler.onCacheWritten aborted response result)
      | _ => none

end ChatHandler

end ModelMux.Routes
