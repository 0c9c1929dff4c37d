/-
The handler of `POST /v1/chat/stream` and the writer of server-sent events.

As for the chat handler, a continuation is a function of what has happened and
of whether the request has been cancelled.  The consumer that the handler hands
to the provider runs beside it, so a call of the consumer and the settling of
its write are inputs as well.  How `response.write` behaves is an argument of
the continuation, which writes at most one event.
-/

import ModelMux.Json.Parser
import ModelMux.Routes.ChatHandler

namespace ModelMux.Routes

open Concurrency (AcquireError)
open Providers (ChatRequest)

/-! ### Server-sent events -/

inductive SseEvent where
  | delta (content requestId : JsString)
  | done (requestId : JsString)
  | error (code message : String) (requestId : JsString)
deriving DecidableEq

namespace SseEvent

def name : SseEvent → String
  | .delta _ _ => "delta"
  | .done _ => "done"
  | .error _ _ _ => "error"

def data : SseEvent → Json
  | .delta content requestId =>
      .object
        [(JsString.ofString "content", .string content),
          (JsString.ofString "requestId", .string requestId)]
  | .done requestId => .object [(JsString.ofString "requestId", .string requestId)]
  | .error code message requestId =>
      .object
        [(JsString.ofString "code", .string (JsString.ofString code)),
          (JsString.ofString "message", .string (JsString.ofString message)),
          (JsString.ofString "requestId", .string requestId)]

def frame (event : SseEvent) : JsString :=
  JsString.ofString "event: " ++ JsString.ofString event.name ++ JsString.ofString "\ndata: " ++
    event.data.print ++ JsString.ofString "\n\n"

end SseEvent

def sseHeaders : List (String × String) :=
  [("content-type", "text/event-stream; charset=utf-8"),
    ("cache-control", "no-cache, no-transform"),
    ("x-accel-buffering", "no")]

/-! ### State -/

inductive StreamOutcome where
  | completed
  | failed
  | cancelled
deriving DecidableEq

/-- The handler returns, or throws an error that is answered as JSON. -/
inductive StreamEnding (Failure : Type) where
  | returned
  | thrown (error : RouteError Failure)
deriving DecidableEq

inductive StreamAwait (Failure : Type) where
  | acquire
  | providerStream
  | doneWrite
  | errorWrite (error : RouteError Failure)
  | settled (ending : StreamEnding Failure)
deriving DecidableEq

structure RawResponse where
  needDrain : Bool
  destroyed : Bool
deriving DecidableEq

def RawResponse.writableNeedDrain (raw : RawResponse) : Bool := raw.needDrain && !raw.destroyed

/-- `providerStreams` says that the provider has a method `stream`, and `consuming`
is the delta whose write the consumer awaits. -/
structure StreamHandler (Failure : Type) where
  body : ChatRequest
  requestId : JsString
  providerStreams : Bool
  permit : Option ℕ
  started : Bool
  outcome : StreamOutcome
  raw : RawResponse
  consuming : Option JsString
  awaiting : StreamAwait Failure

inductive StreamEffect where
  | acquire
  | providerStream (request : ChatRequest)
  | writeHead (status : ℕ) (headers : List (String × String))
  | wrote (event : SseEvent) (full : Bool)
  | accepted (event : SseEvent)
  | endResponse
  | destroy
  | streamMetric (outcome : StreamOutcome)
  | abort
  | release (permit : ℕ)
deriving DecidableEq

/-- `writeFailed` is a close, an error, an abort or the timer that ends the wait for
`drain`; `closed` is the response destroyed from outside. -/
inductive StreamInput (Failure : Type) where
  | acquired (result : Except AcquireError ℕ)
  | delta (content : JsString)
  | providerSettled (result : Except (RouteError Failure) Unit)
  | drain
  | writeFailed
  | closed

abbrev StreamProgress (Failure : Type) := StreamHandler Failure × List StreamEffect

variable {Failure : Type}

def StreamProgress.after (effects : List StreamEffect) (progress : StreamProgress Failure) :
    StreamProgress Failure :=
  (progress.1, effects ++ progress.2)

namespace StreamHandler

/-! ### Writing -/

/-- What `response.write` does: it takes the text, takes it and asks to wait for
`drain`, or throws. -/
inductive WriteOutcome where
  | taken
  | full
  | throws
deriving DecidableEq

/-- The promise of `writeSse` when the call returns.  It rejects with a
`RequestAbortedError` in every case. -/
inductive WriteResult where
  | resolved
  | pending
  | rejected
deriving DecidableEq

def writeSse (handler : StreamHandler Failure) (aborted : Bool) (write : WriteOutcome)
    (event : SseEvent) : WriteResult × StreamProgress Failure :=
  if aborted then (.rejected, handler, [])
  else if handler.raw.destroyed then (.rejected, handler, [])
  else
    match write with
    | .taken => (.resolved, handler, [.wrote event false, .accepted event])
    | .full =>
        (.pending, { handler with raw := { handler.raw with needDrain := true } },
          [.wrote event true])
    | .throws => (.rejected, handler, [])

theorem writeSse_cases (handler : StreamHandler Failure) (aborted : Bool) (write : WriteOutcome)
    (event : SseEvent) :
    handler.writeSse aborted write event = (.rejected, handler, []) ∨
      handler.raw.destroyed = false ∧
        (handler.writeSse aborted write event =
            (.resolved, handler, [.wrote event false, .accepted event]) ∨
          handler.writeSse aborted write event =
            (.pending, { handler with raw := { handler.raw with needDrain := true } },
              [.wrote event true])) := by
  unfold StreamHandler.writeSse
  cases aborted with
  | true => exact Or.inl rfl
  | false =>
      cases handler.raw.destroyed with
      | true => exact Or.inl rfl
      | false =>
          cases write with
          | taken => exact Or.inr ⟨rfl, Or.inl rfl⟩
          | full => exact Or.inr ⟨rfl, Or.inr rfl⟩
          | throws => exact Or.inl rfl

def start (handler : StreamHandler Failure) (aborted : Bool) : Option (StreamProgress Failure) :=
  if aborted then none
  else if handler.started then some (handler, [])
  else some ({ handler with started := true }, [.writeHead 200 sseHeaders])

theorem start_cases (handler : StreamHandler Failure) (aborted : Bool) :
    aborted = true ∧ handler.start aborted = none ∨
      aborted = false ∧ ∃ head, handler.start aborted = some ({ handler with started := true }, head) ∧
        (∀ effect ∈ head, effect = .writeHead 200 sseHeaders) := by
  unfold StreamHandler.start
  cases aborted with
  | true => exact Or.inl ⟨rfl, rfl⟩
  | false =>
      refine Or.inr ⟨rfl, ?_⟩
      cases started : handler.started with
      | true => exact ⟨[], by simp [← started], by simp⟩
      | false => exact ⟨[.writeHead 200 sseHeaders], rfl, by simp⟩

/-! ### Settling -/

def finish (handler : StreamHandler Failure) (ending : StreamEnding Failure) :
    StreamProgress Failure :=
  ({ handler with awaiting := .settled ending },
    [.streamMetric handler.outcome, .abort] ++ handler.permit.toList.map StreamEffect.release)

def closed (handler : StreamHandler Failure) : StreamHandler Failure :=
  { handler with raw := { handler.raw with destroyed := true } }

def destroyAndFinish (handler : StreamHandler Failure) : StreamProgress Failure :=
  StreamProgress.after [.destroy] (handler.closed.finish .returned)

def endAndFinish (handler : StreamHandler Failure) : StreamProgress Failure :=
  StreamProgress.after [.endResponse] (handler.finish .returned)

def complete (handler : StreamHandler Failure) : StreamProgress Failure :=
  { handler with outcome := .completed }.endAndFinish

def errorEvent (handler : StreamHandler Failure) (error : RouteError Failure) : SseEvent :=
  .error error.code "The response could not be completed" handler.requestId

/-- The outer `catch`.  An event is not queued behind one that waits for `drain`. -/
def fail (handler : StreamHandler Failure) (aborted : Bool) (write : WriteOutcome)
    (error : RouteError Failure) : StreamProgress Failure :=
  if error.isRequestAbortedError || aborted then
    { handler with outcome := .cancelled }.destroyAndFinish
  else if !handler.started then handler.finish (.thrown error)
  else if handler.raw.writableNeedDrain then handler.destroyAndFinish
  else
    match handler.writeSse aborted write (handler.errorEvent error) with
    | (.resolved, next, effects) => StreamProgress.after effects next.endAndFinish
    | (.pending, next, effects) => ({ next with awaiting := .errorWrite error }, effects)
    | (.rejected, next, effects) => StreamProgress.after effects next.destroyAndFinish

/-! ### Continuations -/

def enter (body : ChatRequest) (requestId : JsString) (providerStreams : Bool) :
    StreamProgress Failure :=
  ({ body := body
     requestId := requestId
     providerStreams := providerStreams
     permit := none
     started := false
     outcome := .failed
     raw := { needDrain := false, destroyed := false }
     consuming := none
     awaiting := .acquire },
    [.acquire])

def onAcquired (handler : StreamHandler Failure) (aborted : Bool) (write : WriteOutcome) :
    Except AcquireError ℕ → StreamProgress Failure
  | .ok permit =>
      let admitted := { handler with permit := some permit }
      if aborted then admitted.fail aborted write .requestAbortedError
      else if handler.providerStreams then
        ({ admitted with awaiting := .providerStream }, [.providerStream handler.body])
      else admitted.fail aborted write .providerStreamingUnsupportedError
  | .error error => handler.fail aborted write (.acquireError error)

/-- The consumer.  When the call rejects, the handler itself has nothing to do; a
write that failed cancels the request. -/
def onDelta (handler : StreamHandler Failure) (aborted : Bool) (write : WriteOutcome)
    (content : JsString) : StreamProgress Failure :=
  if content = [] then (handler, [])
  else
    match handler.start aborted with
    | none => (handler, [])
    | some (starting, head) =>
        match starting.writeSse aborted write (.delta content handler.requestId) with
        | (.resolved, next, effects) => (next, head ++ effects)
        | (.pending, next, effects) => ({ next with consuming := some content }, head ++ effects)
        | (.rejected, next, effects) => (next, head ++ effects ++ [.abort])

def onProviderSettled (handler : StreamHandler Failure) (aborted : Bool) (write : WriteOutcome) :
    Except (RouteError Failure) Unit → StreamProgress Failure
  | .error error => handler.fail aborted write error
  | .ok () =>
      match handler.start aborted with
      | none => handler.fail aborted write .requestAbortedError
      | some (starting, head) =>
          match starting.writeSse aborted write (.done handler.requestId) with
          | (.resolved, next, effects) => StreamProgress.after (head ++ effects) next.complete
          | (.pending, next, effects) => ({ next with awaiting := .doneWrite }, head ++ effects)
          | (.rejected, next, effects) =>
              StreamProgress.after (head ++ effects)
                (next.fail aborted write .requestAbortedError)

def drained (handler : StreamHandler Failure) : StreamHandler Failure :=
  { handler with raw := { handler.raw with needDrain := false } }

/-- `drain` resolves the write that waits for it, unless an abort has rejected that
write before. -/
def onDrain (handler : StreamHandler Failure) (aborted : Bool) : StreamProgress Failure :=
  if aborted then (handler.drained, [])
  else
    match handler.consuming, handler.awaiting with
    | some content, _ =>
        ({ handler.drained with consuming := none },
          [.accepted (.delta content handler.requestId)])
    | none, .doneWrite =>
        StreamProgress.after [.accepted (.done handler.requestId)] handler.drained.complete
    | none, .errorWrite error =>
        StreamProgress.after [.accepted (handler.errorEvent error)] handler.drained.endAndFinish
    | none, _ => (handler.drained, [])

def onWriteFailed (handler : StreamHandler Failure) (aborted : Bool) (write : WriteOutcome) :
    Option (StreamProgress Failure) :=
  match handler.consuming, handler.awaiting with
  | some _, _ => some ({ handler with consuming := none }, [.abort])
  | none, .doneWrite => some (handler.fail aborted write .requestAbortedError)
  | none, .errorWrite _ => some handler.destroyAndFinish
  | none, _ => none

/-- A provider awaits each call of the consumer before it makes the next or resolves,
and makes none once it has settled; it may reject while a call is pending. -/
def resume (handler : StreamHandler Failure) (aborted : Bool) (write : WriteOutcome) :
    StreamInput Failure → Option (StreamProgress Failure)
  | .acquired result =>
      match handler.awaiting with
      | .acquire => some (handler.onAcquired aborted write result)
      | _ => none
  | .delta content =>
      match handler.awaiting, handler.consuming with
      | .providerStream, none => some (handler.onDelta aborted write content)
      | _, _ => none
  | .providerSettled (.ok ()) =>
      match handler.awaiting, handler.consuming with
      | .providerStream, none => some (handler.onProviderSettled aborted write (.ok ()))
      | _, _ => none
  | .providerSettled (.error error) =>
      match handler.awaiting with
      | .providerStream => some (handler.onProviderSettled aborted write (.error error))
      | _ => none
  | .drain => if handler.raw.needDrain then some (handler.onDrain aborted) else none
  | .writeFailed => handler.onWriteFailed aborted write
  | .closed => some (handler.closed, [])

end StreamHandler

end ModelMux.Routes
