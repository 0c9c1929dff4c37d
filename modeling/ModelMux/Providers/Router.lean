/-
Routing passes over a primary and a fallback provider.

A pass of `ProviderRouter.chat` or `stream` runs without interruption between
two awaits, so it is a machine that stops at each of them: in the operation
wrapper, in `execute`, in `call` and in `route`.  Any number of passes share
the two circuits.  Providers, the consumer of a stream and the abort signal act
at every stop in any way; a provider may use its consumer even after its
promise has settled.  Metrics are recorded in the log of the pass; sinks and
loggers have no other effect.
-/

import ModelMux.Json.Text
import ModelMux.Providers.CircuitBreaker

namespace ModelMux.Providers

/-! ### Requests and errors -/

inductive ChatRole where
  | system
  | user
  | assistant
deriving DecidableEq

structure ChatMessage where
  role : ChatRole
  content : JsString
deriving DecidableEq

structure ChatRequest where
  model : JsString
  messages : List ChatMessage
deriving DecidableEq

/-- What a pass or a provider can throw; `other` is any value that the router
does not tell apart. -/
inductive Thrown (Failure : Type) where
  | circuitOpenError (error : CircuitOpenError)
  | providerCircuitOpenError (provider : String) (retryAfterMs : ℚ)
  | providerConnectionError (provider : String)
  | providerTimeoutError (provider : String) (timeoutMs : ℚ)
  | providerHttpError (provider : String) (upstreamStatus : JsNumber)
      (upstreamDetail : Option JsString)
  | providerStreamingUnsupportedError
  | requestAbortedError
  | streamConsumerError
  | other (failure : Failure)
deriving DecidableEq

variable {Response Failure : Type}

def isTransientStatus : JsNumber → Bool
  | .finite status => status = 429 || 500 ≤ status
  | .infinite negative => !negative
  | .notANumber => false

def isRetryableProviderError : Thrown Failure → Bool
  | .providerCircuitOpenError _ _ => true
  | .providerConnectionError _ => true
  | .providerTimeoutError _ _ => true
  | .providerHttpError _ upstreamStatus _ => isTransientStatus upstreamStatus
  | .circuitOpenError _ => false
  | .providerStreamingUnsupportedError => false
  | .requestAbortedError => false
  | .streamConsumerError => false
  | .other _ => false

/-- The third argument that `call` passes to `execute`. -/
def isIgnoredError : Thrown Failure → Bool
  | .requestAbortedError => true
  | .streamConsumerError => true
  | _ => false

def throwIfCancelled (aborted : Bool) : Except (Thrown Failure) Unit :=
  if aborted then .error .requestAbortedError else .ok ()

/-! ### Targets -/

inductive TargetRole where
  | primary
  | fallback
deriving DecidableEq

/-- `streams` tells whether the provider implements the optional `stream`
method. -/
structure ProviderTarget where
  name : String
  circuit : CircuitBreakerOptions
  streams : Bool

/-- `modelMap` gives the own properties of the record. -/
structure FallbackTarget extends ProviderTarget where
  modelMap : JsString → Option JsString

structure ProviderRouter where
  primary : ProviderTarget
  fallback : Option FallbackTarget

abbrev Circuits := TargetRole → CircuitBreaker

/-! ### Passes -/

inductive PassMode where
  | chat
  | stream
deriving DecidableEq

inductive ProviderOutcome where
  | success
  | transientError
  | permanentError
  | cancelled
  | consumerError
deriving DecidableEq

inductive MetricEvent where
  | providerStart (provider : String) (mode : PassMode)
  | providerEnd (provider : String) (mode : PassMode) (outcome : ProviderOutcome)
  | circuitRejection (provider : String) (mode : PassMode)
  | fallback (origin destination : String)
deriving DecidableEq

/-- What can be seen of a pass from outside.  `tried` marks the start of `call`,
`invoked` the invocation of the provider's method and `concluded` what `call`
returns or throws. -/
inductive PassEvent (Response Failure : Type) where
  | aborted
  | tried (role : TargetRole) (data : ChatRequest)
  | skipped (role : TargetRole) (error : CircuitOpenError)
  | invoked (role : TargetRole) (data : ChatRequest)
  | handed (role : TargetRole) (content : JsString)
  | consumed (role : TargetRole) (answer : Except (Thrown Failure) Unit)
  | answered (role : TargetRole) (outcome : Except (Thrown Failure) Response)
  | concluded (role : TargetRole) (outcome : Except (Thrown Failure) Response)
  | metric (event : MetricEvent)

/-- The await at which a pass has stopped. -/
inductive PassPhase (Response Failure : Type) where
  | operating (role : TargetRole) (target : ProviderTarget) (generation : ℕ)
  | executing (role : TargetRole) (target : ProviderTarget) (generation : ℕ)
      (outcome : Except (Thrown Failure) Response)
  | calling (role : TargetRole) (target : ProviderTarget)
      (outcome : Except (Thrown Failure) Response)
  | routing (outcome : Except (Thrown Failure) Response)
  | finished (outcome : Except (Thrown Failure) Response)

structure Pass (Response Failure : Type) where
  mode : PassMode
  request : ChatRequest
  aborted : Bool
  emitted : Bool
  attempted : Bool
  writes : List TargetRole
  phase : PassPhase Response Failure
  log : List (PassEvent Response Failure)

namespace Pass

def record (pass : Pass Response Failure) (event : PassEvent Response Failure) :
    Pass Response Failure :=
  { pass with log := pass.log ++ [event] }

def stop (pass : Pass Response Failure) (phase : PassPhase Response Failure) :
    Pass Response Failure :=
  { pass with phase := phase }

/-- `() => true` for `chat` and `() => !emitted` for `stream`. -/
def canFallback (pass : Pass Response Failure) : Bool :=
  match pass.mode with
  | .chat => true
  | .stream => !pass.emitted

/-- The operation given to `execute`, up to the invocation of the provider. -/
def operate (pass : Pass Response Failure) (role : TargetRole) (target : ProviderTarget)
    (data : ChatRequest) (generation : ℕ) : Pass Response Failure :=
  if pass.aborted then
    pass.stop (.executing role target generation (.error .requestAbortedError))
  else
    let started := { pass with attempted := true }.record
      (.metric (.providerStart target.name pass.mode))
    if pass.mode = .stream ∧ target.streams = false then
      started.stop
        (.executing role target generation (.error .providerStreamingUnsupportedError))
    else
      (started.record (.invoked role data)).stop (.operating role target generation)

def call (pass : Pass Response Failure) (role : TargetRole) (target : ProviderTarget)
    (data : ChatRequest) (circuits : Circuits) (now : ℚ) : Pass Response Failure × Circuits :=
  let trying := { pass with attempted := false }.record (.tried role data)
  match (circuits role).enter target.circuit now with
  | .error error =>
      ((trying.record (.skipped role error)).stop
        (.calling role target (.error (.circuitOpenError error))), circuits)
  | .ok breaker =>
      (trying.operate role target data breaker.generation, Function.update circuits role breaker)

def wrap (aborted : Bool) (outcome : Except (Thrown Failure) Response) :
    Except (Thrown Failure) Response :=
  tryCatch
    (do
      let result ← outcome
      throwIfCancelled aborted
      return result)
    (fun error => do
      throwIfCancelled aborted
      throw error)

theorem wrap_eq (aborted : Bool) (outcome : Except (Thrown Failure) Response) :
    wrap aborted outcome = if aborted then .error .requestAbortedError else outcome := by
  cases aborted <;> cases outcome <;> rfl

def answer (pass : Pass Response Failure) (role : TargetRole) (target : ProviderTarget)
    (generation : ℕ) (outcome : Except (Thrown Failure) Response) : Pass Response Failure :=
  (pass.record (.answered role outcome)).stop
    (.executing role target generation (wrap pass.aborted outcome))

def report (target : ProviderTarget) : Thrown Failure → Thrown Failure
  | .circuitOpenError error => .providerCircuitOpenError target.name error.retryAfterMs
  | error => error

def providerOutcome : Except (Thrown Failure) Response → ProviderOutcome
  | .ok _ => .success
  | .error .requestAbortedError => .cancelled
  | .error .streamConsumerError => .consumerError
  | .error cause => if isRetryableProviderError cause then .transientError else .permanentError

def isCircuitOpenError : Except (Thrown Failure) Response → Bool
  | .error (.circuitOpenError _) => true
  | _ => false

/-- The metrics of `call` after `execute` has settled, in its `catch` and `finally`
blocks. -/
def recordMetrics (pass : Pass Response Failure) (target : ProviderTarget)
    (outcome : Except (Thrown Failure) Response) : Pass Response Failure :=
  let caught :=
    if isCircuitOpenError outcome then
      pass.record (.metric (.circuitRejection target.name pass.mode))
    else pass
  if pass.attempted then
    caught.record (.metric (.providerEnd target.name pass.mode (providerOutcome outcome)))
  else caught

/-- `call` after `execute` has settled.  The call of the primary is awaited in
`route`; that of the fallback is what the pass returns. -/
def leave (pass : Pass Response Failure) (role : TargetRole) (target : ProviderTarget)
    (outcome : Except (Thrown Failure) Response) : Pass Response Failure :=
  let reported := outcome.mapError (report target)
  ((pass.recordMetrics target outcome).record (.concluded role reported)).stop
    (match role with
      | .primary => .routing reported
      | .fallback => .finished reported)

/-- The fallback and the mapped model, where the error of the primary allows it. -/
def fallbackFor (router : ProviderRouter) (pass : Pass Response Failure) (error : Thrown Failure) :
    Option (FallbackTarget × JsString) :=
  if pass.canFallback && isRetryableProviderError error then
    match router.fallback with
    | none => none
    | some fallback =>
        match fallback.modelMap pass.request.model with
        | none => none
        | some model => if model = [] then none else some (fallback, model)
  else none

def route (router : ProviderRouter) (pass : Pass Response Failure)
    (outcome : Except (Thrown Failure) Response) (circuits : Circuits) (now : ℚ) :
    Pass Response Failure × Circuits :=
  match outcome with
  | .ok response => (pass.stop (.finished (.ok response)), circuits)
  | .error error =>
      if pass.aborted then (pass.stop (.finished (.error .requestAbortedError)), circuits)
      else
        match pass.fallbackFor router error with
        | none => (pass.stop (.finished (.error error)), circuits)
        | some (fallback, model) =>
            (pass.record (.metric (.fallback router.primary.name fallback.name))).call .fallback
              fallback.toProviderTarget { pass.request with model := model } circuits now

/-- The local state of `chat` or `stream`.  The signal may already be aborted. -/
def initial (mode : PassMode) (request : ChatRequest) (aborted : Bool) : Pass Response Failure :=
  { mode := mode
    request := request
    aborted := aborted
    emitted := false
    attempted := false
    writes := []
    phase := .finished (.error .requestAbortedError)
    log := if aborted then [.aborted] else [] }

def start (router : ProviderRouter) (mode : PassMode) (request : ChatRequest) (aborted : Bool)
    (circuits : Circuits) (now : ℚ) : Pass Response Failure × Circuits :=
  if aborted then (initial mode request aborted, circuits)
  else (initial mode request aborted).call .primary router.primary request circuits now

/-! ### The consumer of a stream -/

def consume (pass : Pass Response Failure) (role : TargetRole) (content : JsString) :
    Pass Response Failure :=
  match (throwIfCancelled pass.aborted : Except (Thrown Failure) Unit) with
  | .error error => pass.record (.consumed role (.error error))
  | .ok () =>
      if content = [] then pass.record (.consumed role (.ok ()))
      else
        { pass with emitted := true, writes := role :: pass.writes }.record (.handed role content)

def deliver (pass : Pass Response Failure) (role : TargetRole) (accepted : Bool) :
    Pass Response Failure :=
  let answer : Except (Thrown Failure) Unit :=
    if accepted then .ok ()
    else do
      throwIfCancelled pass.aborted
      throw .streamConsumerError
  { pass with writes := pass.writes.erase role }.record (.consumed role answer)

/-- The provider has been given the consumer of the pass. -/
def HasConsumer (pass : Pass Response Failure) (role : TargetRole) : Prop :=
  pass.mode = .stream ∧ ∃ data, .invoked role data ∈ pass.log

def abort (pass : Pass Response Failure) : Pass Response Failure :=
  { pass with aborted := true }.record .aborted

end Pass

/-! ### Many passes -/

structure RouterSystem (Response Failure : Type) where
  clock : ℚ
  circuits : Circuits
  passes : List (Pass Response Failure)

/-- No pass has started; the circuits may have a past. -/
def RouterSystem.initial (clock : ℚ) (circuits : Circuits) : RouterSystem Response Failure :=
  { clock := clock, circuits := circuits, passes := [] }

inductive PassInput (Response Failure : Type) where
  | start (mode : PassMode) (request : ChatRequest) (aborted : Bool)
  | abort
  | consume (role : TargetRole) (content : JsString)
  | deliver (role : TargetRole) (accepted : Bool)
  | answer (outcome : Except (Thrown Failure) Response)
  | resume

/-- One step of a pass that has started. -/
inductive PassStep (router : ProviderRouter) (now : ℚ) (pass : Pass Response Failure)
    (circuits : Circuits) :
    PassInput Response Failure → Pass Response Failure → Circuits → Prop
  | abort : PassStep router now pass circuits .abort pass.abort circuits
  | consume {role : TargetRole} {content : JsString} (allowed : pass.HasConsumer role) :
      PassStep router now pass circuits (.consume role content) (pass.consume role content) circuits
  | deliver {role : TargetRole} {accepted : Bool} (writing : role ∈ pass.writes) :
      PassStep router now pass circuits (.deliver role accepted) (pass.deliver role accepted)
        circuits
  | answer {role : TargetRole} {target : ProviderTarget} {generation : ℕ}
      {outcome : Except (Thrown Failure) Response}
      (stopped : pass.phase = .operating role target generation) :
      PassStep router now pass circuits (.answer outcome)
        (pass.answer role target generation outcome) circuits
  | execute {role : TargetRole} {target : ProviderTarget} {generation : ℕ}
      {outcome : Except (Thrown Failure) Response}
      (stopped : pass.phase = .executing role target generation outcome) :
      PassStep router now pass circuits .resume (pass.stop (.calling role target outcome))
        (Function.update circuits role ((circuits role).settle target.circuit generation now
          (settlement isRetryableProviderError isIgnoredError outcome)))
  | call {role : TargetRole} {target : ProviderTarget}
      {outcome : Except (Thrown Failure) Response}
      (stopped : pass.phase = .calling role target outcome) :
      PassStep router now pass circuits .resume (pass.leave role target outcome) circuits
  | route {outcome : Except (Thrown Failure) Response}
      (stopped : pass.phase = .routing outcome) :
      PassStep router now pass circuits .resume (pass.route router outcome circuits now).1
        (pass.route router outcome circuits now).2

structure RouterEvent (Response Failure : Type) where
  now : ℚ
  pass : ℕ
  input : PassInput Response Failure

inductive RouterStep (router : ProviderRouter) :
    RouterSystem Response Failure → RouterEvent Response Failure →
      RouterSystem Response Failure → Prop
  | start {system : RouterSystem Response Failure} {now : ℚ} {mode : PassMode}
      {request : ChatRequest} {aborted : Bool} {pass : Pass Response Failure}
      {circuits : Circuits} (later : system.clock ≤ now)
      (started : Pass.start router mode request aborted system.circuits now = (pass, circuits)) :
      RouterStep router system ⟨now, system.passes.length, .start mode request aborted⟩
        { clock := now, circuits := circuits, passes := system.passes ++ [pass] }
  | step {system : RouterSystem Response Failure} {now : ℚ} {id : ℕ}
      {pass next : Pass Response Failure} {input : PassInput Response Failure}
      {circuits : Circuits} (later : system.clock ≤ now)
      (present : system.passes[id]? = some pass)
      (taken : PassStep router now pass system.circuits input next circuits) :
      RouterStep router system ⟨now, id, input⟩
        { clock := now, circuits := circuits, passes := system.passes.set id next }

end ModelMux.Providers
