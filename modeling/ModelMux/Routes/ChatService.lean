/-
Chat requests with the cache and the router.

Any number of executions of the chat handler share the entries in Redis and the
router, which also runs the passes of other handlers.  Redis carries out a command at
some time after it has been sent, or never: also when the handler has given the
command up in the meantime.  The limiter may answer in any way.  The signal of an
execution is that of its commands and of its pass.
-/

import ModelMux.Cache.CacheHistory
import ModelMux.Jobs.StoredOutcomes
import ModelMux.Routes.CacheTransparency

namespace ModelMux.Routes

open Cache (CacheCommand CacheError CacheEvent CacheLimits CacheState CacheStep ChatResponse
  CommandEvent chatCacheKey entryText getrange readEntry responseJson)
open Concurrency (AcquireError)
open Providers (ProviderRouter RouterEvent RouterStep RouterSystem Thrown)
open Queue (Document)

variable {Failure : Type}

/-! ### Errors -/

/-- The error of a pass as the handler sees it; `isResponseError` picks out the errors
that the router does not tell apart. -/
def RouteError.ofThrown (isResponseError : Failure → Bool) (error : Thrown Failure) :
    RouteError (Thrown Failure) :=
  match error with
  | .requestAbortedError => .requestAbortedError
  | .providerStreamingUnsupportedError => .providerStreamingUnsupportedError
  | .providerCircuitOpenError _ _ => .failure (some "PROVIDER_CIRCUIT_OPEN") error
  | .providerConnectionError _ => .failure (some "PROVIDER_UNAVAILABLE") error
  | .providerTimeoutError _ _ => .failure (some "PROVIDER_TIMEOUT") error
  | .providerHttpError _ _ _ => .failure (some "PROVIDER_ERROR") error
  | .circuitOpenError _ => .failure none error
  | .streamConsumerError => .failure none error
  | .other cause =>
      .failure (if isResponseError cause then some "INVALID_PROVIDER_RESPONSE" else none) error

/-! ### Calls of the cache -/

/-- A call of `get`.  `data` is what Redis has read for its command. -/
structure GetCall (Failure : Type) where
  command : CacheCommand (List UInt8) (Thrown Failure)
  sent : Bool
  data : Option (List UInt8)

namespace GetCall

/-- A signal that is already aborted keeps the command from being sent. -/
def start (aborted : Bool) : GetCall Failure :=
  if aborted then
    { command := { CacheCommand.initial with result := some (.error .requestAbortedError) }
      sent := false
      data := none }
  else { command := .initial, sent := true, data := none }

def receive (call : GetCall Failure) (event : CommandEvent (List UInt8) (Thrown Failure)) :
    GetCall Failure :=
  { call with command := call.command.receive event }

/-- Redis answers with what it has read.  The signal is not the command's own. -/
def Possible (call : GetCall Failure) : CommandEvent (List UInt8) (Thrown Failure) → Prop
  | .replied data => call.data = some data
  | .parentAborted => False
  | _ => True

end GetCall

/-- A call of `put`, which makes no command for an answer that is not stored.
`carriedOut` tells that Redis has carried out the command. -/
structure PutCall (Failure : Type) where
  response : ChatResponse
  command : Option (CacheCommand Unit (Thrown Failure))
  carriedOut : Bool

namespace PutCall

def start (limits : CacheLimits) (response : ChatResponse) : PutCall Failure :=
  { response := response
    command := (entryText limits (responseJson response)).map (fun _ => .initial)
    carriedOut := false }

def receive (call : PutCall Failure) (event : CommandEvent Unit (Thrown Failure)) :
    PutCall Failure :=
  { call with command := call.command.map (fun command => command.receive event) }

def Possible (call : PutCall Failure) : CommandEvent Unit (Thrown Failure) → Prop
  | .replied () => call.carriedOut = true
  | .parentAborted => False
  | _ => True

def result (call : PutCall Failure) : Option (Except (CacheError (Thrown Failure)) Unit) :=
  match call.command with
  | none => some (.ok ())
  | some command => command.result

end PutCall

/-! ### Executions -/

/-- An execution of the handler with its calls.  The document is the parsed body, the
conversation in it is that of the handler's call. -/
structure ChatExecution (Failure : Type) where
  document : Document
  handler : ChatHandler ChatResponse (Thrown Failure)
  aborted : Bool
  get : Option (GetCall Failure)
  put : Option (PutCall Failure)
  pass : Option ℕ

namespace ChatExecution

def call (execution : ChatExecution Failure) : ChatCall := execution.handler.call

def start (document : Document) (call : ChatCall) (aborted : Bool) : ChatExecution Failure :=
  { document := document
    handler := (ChatHandler.start true call).1
    aborted := aborted
    get := if call.usesCache true then some (.start aborted) else none
    put := none
    pass := none }

def afterProvider (limits : CacheLimits) (execution : ChatExecution Failure)
    (handler : ChatHandler ChatResponse (Thrown Failure)) : ChatExecution Failure :=
  { execution with
    handler := handler
    put := match handler.awaiting with
      | .cachePut response => some (.start limits response)
      | _ => none }

/-- The signal is aborted, and with it the commands that listen to it.  The abort with
which the handler ends is read by nothing any more and left out. -/
def abort (execution : ChatExecution Failure) : ChatExecution Failure :=
  { execution with
    aborted := true
    get := execution.get.map (fun call => call.receive .parentAborted)
    put := execution.put.map (fun call => call.receive .parentAborted) }

end ChatExecution

structure ServiceState (Failure : Type) where
  executions : List (ChatExecution Failure)
  cache : CacheState
  router : RouterSystem ChatResponse Failure

def ServiceState.initial (nowMs : ℤ) (clock : ℚ) (circuits : Providers.Circuits) :
    ServiceState Failure :=
  { executions := []
    cache := ⟨nowMs, ExpiringStore.empty⟩
    router := .initial clock circuits }

def ServiceState.replace (state : ServiceState Failure) (index : ℕ)
    (execution : ChatExecution Failure) : ServiceState Failure :=
  { state with executions := state.executions.set index execution }

/-- `read` and `write` are the commands as Redis carries them out. -/
inductive ServiceEvent (Failure : Type) where
  | elapse (milliseconds : ℕ)
  | arrive (document : Document) (call : ChatCall) (aborted : Bool)
  | read (index : ℕ) (ownerId : JsString) (document : Document) (answer : Option ChatResponse)
  | getEvent (index : ℕ) (event : CommandEvent (List UInt8) (Thrown Failure))
  | got (index : ℕ)
  | acquired (index : ℕ) (result : Except AcquireError ℕ)
  | route (event : RouterEvent ChatResponse Failure)
  | provided (index : ℕ)
  | write (index : ℕ) (ownerId : JsString) (document : Document) (response : ChatResponse)
  | putEvent (index : ℕ) (event : CommandEvent Unit (Thrown Failure))
  | written (index : ℕ)
  | abort (index : ℕ)

section Steps

variable (digest : JsString → JsString) (limits : CacheLimits) (namespaceId : JsString)
  (router : ProviderRouter) (isResponseError : Failure → Bool)

/-- The body of an accepted request is a conversation with its properties in any
order. -/
inductive ServiceStep : ServiceState Failure → ServiceEvent Failure → ServiceState Failure → Prop
  | elapse (state : ServiceState Failure) (milliseconds : ℕ) :
      ServiceStep state (.elapse milliseconds)
        { state with cache := { state.cache with nowMs := state.cache.nowMs + milliseconds } }
  | arrive (state : ServiceState Failure) (document : Document) (call : ChatCall) (aborted : Bool)
      (accepted : Cache.Represents document call.body) :
      ServiceStep state (.arrive document call aborted)
        { state with executions := state.executions ++ [.start document call aborted] }
  | read (state : ServiceState Failure) {index : ℕ} {execution : ChatExecution Failure}
      {call : GetCall Failure} (present : state.executions[index]? = some execution)
      (calling : execution.get = some call) (sent : call.sent = true) (pending : call.data = none) :
      ServiceStep state
        (.read index execution.call.ownerId execution.document
          (Cache.get digest limits state.cache namespaceId execution.call.ownerId
            execution.document))
        (state.replace index
          { execution with
            get := some { call with
              data := some (getrange state.cache.redis state.cache.nowMs
                (chatCacheKey digest namespaceId execution.call.ownerId execution.document)
                limits.maxEntryBytes) } })
  | getEvent (state : ServiceState Failure) {index : ℕ} {execution : ChatExecution Failure}
      {call : GetCall Failure} {event : CommandEvent (List UInt8) (Thrown Failure)}
      (present : state.executions[index]? = some execution) (calling : execution.get = some call)
      (possible : call.Possible event) :
      ServiceStep state (.getEvent index event)
        (state.replace index { execution with get := some (call.receive event) })
  | got (state : ServiceState Failure) {index : ℕ} {execution : ChatExecution Failure}
      {call : GetCall Failure} {result : Except (CacheError (Thrown Failure)) (List UInt8)}
      {handler : ChatHandler ChatResponse (Thrown Failure)}
      {effects : List (ChatEffect ChatResponse)}
      (present : state.executions[index]? = some execution) (calling : execution.get = some call)
      (settled : call.command.result = some result)
      (resumed : execution.handler.resume execution.aborted
        (.cacheGot ((result.map (readEntry limits)).mapError RouteError.ofCacheError)) =
          some (handler, effects)) :
      ServiceStep state (.got index) (state.replace index { execution with handler := handler })
  | turnedAway (state : ServiceState Failure) {index : ℕ} {execution : ChatExecution Failure}
      {result : Except AcquireError ℕ} {handler : ChatHandler ChatResponse (Thrown Failure)}
      {effects : List (ChatEffect ChatResponse)}
      (present : state.executions[index]? = some execution)
      (resumed : execution.handler.resume execution.aborted (.acquired result) =
        some (handler, effects))
      (ends : handler.awaiting ≠ .providerChat) :
      ServiceStep state (.acquired index result)
        (state.replace index { execution with handler := handler })
  | admitted (state : ServiceState Failure) {index id : ℕ} {execution : ChatExecution Failure}
      {result : Except AcquireError ℕ} {handler : ChatHandler ChatResponse (Thrown Failure)}
      {effects : List (ChatEffect ChatResponse)} {now : ℚ}
      {system : RouterSystem ChatResponse Failure}
      (present : state.executions[index]? = some execution)
      (resumed : execution.handler.resume execution.aborted (.acquired result) =
        some (handler, effects))
      (asks : handler.awaiting = .providerChat)
      (started : RouterStep router state.router
        ⟨now, id, .start .chat execution.call.body execution.aborted⟩ system) :
      ServiceStep state (.acquired index result)
        { state.replace index { execution with handler := handler, pass := some id } with
          router := system }
  | route (state : ServiceState Failure) {event : RouterEvent ChatResponse Failure}
      {system : RouterSystem ChatResponse Failure}
      (others : ∀ execution ∈ state.executions, execution.pass = some event.pass →
        event.input ≠ .abort)
      (taken : RouterStep router state.router event system) :
      ServiceStep state (.route event) { state with router := system }
  | provided (state : ServiceState Failure) {index id : ℕ} {execution : ChatExecution Failure}
      {pass : Providers.Pass ChatResponse Failure}
      {outcome : Except (Thrown Failure) ChatResponse}
      {handler : ChatHandler ChatResponse (Thrown Failure)}
      {effects : List (ChatEffect ChatResponse)}
      (present : state.executions[index]? = some execution) (asked : execution.pass = some id)
      (running : state.router.passes[id]? = some pass) (finished : pass.phase = .finished outcome)
      (resumed : execution.handler.resume execution.aborted
        (.providerSettled (outcome.mapError (RouteError.ofThrown isResponseError))) =
          some (handler, effects)) :
      ServiceStep state (.provided index)
        (state.replace index (execution.afterProvider limits handler))
  | write (state : ServiceState Failure) {index : ℕ} {execution : ChatExecution Failure}
      {call : PutCall Failure} (present : state.executions[index]? = some execution)
      (calling : execution.put = some call) (sent : call.command.isSome = true)
      (pending : call.carriedOut = false) :
      ServiceStep state (.write index execution.call.ownerId execution.document call.response)
        { state.replace index { execution with put := some { call with carriedOut := true } } with
          cache := Cache.put digest limits state.cache namespaceId execution.call.ownerId
            execution.document (responseJson call.response) }
  | putEvent (state : ServiceState Failure) {index : ℕ} {execution : ChatExecution Failure}
      {call : PutCall Failure} {event : CommandEvent Unit (Thrown Failure)}
      (present : state.executions[index]? = some execution) (calling : execution.put = some call)
      (possible : call.Possible event) :
      ServiceStep state (.putEvent index event)
        (state.replace index { execution with put := some (call.receive event) })
  | written (state : ServiceState Failure) {index : ℕ} {execution : ChatExecution Failure}
      {call : PutCall Failure} {result : Except (CacheError (Thrown Failure)) Unit}
      {handler : ChatHandler ChatResponse (Thrown Failure)}
      {effects : List (ChatEffect ChatResponse)}
      (present : state.executions[index]? = some execution) (calling : execution.put = some call)
      (settled : call.result = some result)
      (resumed : execution.handler.resume execution.aborted
        (.cacheWritten (result.mapError RouteError.ofCacheError)) = some (handler, effects)) :
      ServiceStep state (.written index) (state.replace index { execution with handler := handler })
  | abortUnrouted (state : ServiceState Failure) {index : ℕ} {execution : ChatExecution Failure}
      (present : state.executions[index]? = some execution) (first : execution.aborted = false)
      (unrouted : execution.pass = none) :
      ServiceStep state (.abort index) (state.replace index execution.abort)
  | abortRouted (state : ServiceState Failure) {index id : ℕ} {execution : ChatExecution Failure}
      {now : ℚ} {system : RouterSystem ChatResponse Failure}
      (present : state.executions[index]? = some execution) (first : execution.aborted = false)
      (routed : execution.pass = some id)
      (taken : RouterStep router state.router ⟨now, id, .abort⟩ system) :
      ServiceStep state (.abort index)
        { state.replace index execution.abort with router := system }

end Steps

/-! ### The service as a run of the cache -/

def ServiceEvent.cacheEvents (namespaceId : JsString) : ServiceEvent Failure → List CacheEvent
  | .elapse milliseconds => [.elapse milliseconds]
  | .read _ ownerId document answer => [.get namespaceId ownerId document answer]
  | .write _ ownerId document response => [.put namespaceId ownerId document (responseJson response)]
  | _ => []

variable {digest : JsString → JsString} {limits : CacheLimits} {namespaceId : JsString}
  {router : ProviderRouter} {isResponseError : Failure → Bool}

theorem serviceStep_cache {state next : ServiceState Failure} {event : ServiceEvent Failure}
    (taken : ServiceStep digest limits namespaceId router isResponseError state event next) :
    Run (CacheStep digest limits) state.cache (event.cacheEvents namespaceId) next.cache := by
  cases taken with
  | elapse milliseconds => exact .single rfl
  | read present calling sent pending => exact .single ⟨rfl, rfl⟩
  | write present calling sent pending => exact .single rfl
  | arrive => exact .refl _
  | getEvent => exact .refl _
  | got => exact .refl _
  | turnedAway => exact .refl _
  | admitted => exact .refl _
  | route => exact .refl _
  | provided => exact .refl _
  | putEvent => exact .refl _
  | written => exact .refl _
  | abortUnrouted => exact .refl _
  | abortRouted => exact .refl _

theorem service_cache {first last : ServiceState Failure} {events : List (ServiceEvent Failure)}
    (run : Run (ServiceStep digest limits namespaceId router isResponseError) first events last) :
    Run (CacheStep digest limits) first.cache
      (events.flatMap (ServiceEvent.cacheEvents namespaceId)) last.cache :=
  run.simulate (fun _ => True) trivial (fun _ _ _ _ _ => trivial) ServiceState.cache _
    (fun _ _ _ _ taken => serviceStep_cache taken)

end ModelMux.Routes
