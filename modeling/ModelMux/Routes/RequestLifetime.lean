/-
The lifetime of HTTP requests.

Two hooks listen to the transport of a request.  `observeHttp` counts it as active
until its response has finished or its connection has closed, and then records one
end.  `requestCancellation` gives its handler a signal that is aborted when the
client goes away, when the response fails or when the gateway shuts down.  The
transports may report their events in any order.  Without the listeners, a request
is in flight until its first ending, and its signal is a flag that any cause raises
while the handler is busy: the code refines this.
-/

import Mathlib.Data.Int.Notation
import Mathlib.Logic.Function.Basic
import ModelMux.Foundation.LabelledRun

namespace ModelMux.Routes

/-! ### The metrics of a request -/

inductive HttpOutcome where
  | completed
  | aborted
deriving DecidableEq

structure HttpEnd where
  method : String
  route : String
  status : Option ℕ
  outcome : HttpOutcome
deriving DecidableEq

structure HttpLabels where
  method : String
  route : String
  outcome : HttpOutcome
  status : String
deriving DecidableEq

def knownMethods : List String := ["GET", "POST", "HEAD", "OPTIONS"]

def knownRoutes : List String :=
  ["/health", "/v1/chat", "/v1/chat/stream", "/v1/jobs", "/v1/jobs/:id", "/v1/providers"]

def statusLabel : Option ℕ → String
  | none => "none"
  | some status => if 100 ≤ status ∧ status ≤ 599 then toString status else "none"

def httpLabels (event : HttpEnd) : HttpLabels :=
  { method := if event.method ∈ knownMethods then event.method else "OTHER"
    route := if event.route ∈ knownRoutes then event.route else "unmatched"
    outcome := event.outcome
    status := statusLabel event.status }

/-- What `record` keeps of the requests: the gauge, and a counter for each combination of
labels. -/
structure HttpMetrics where
  httpActive : ℤ
  httpRequests : HttpLabels → ℕ

namespace HttpMetrics

def initial : HttpMetrics := ⟨0, fun _ => 0⟩

def recordStart (metrics : HttpMetrics) : HttpMetrics :=
  { metrics with httpActive := metrics.httpActive + 1 }

def recordEnd (metrics : HttpMetrics) (event : HttpEnd) : HttpMetrics :=
  { httpActive := metrics.httpActive - 1
    httpRequests := Function.update metrics.httpRequests (httpLabels event)
      (metrics.httpRequests (httpLabels event) + 1) }

end HttpMetrics

/-! ### Listeners -/

/-- The signal of a request and the listeners that can abort it.  `disposed` tells whether
the handler is done with it. -/
structure Cancellation where
  aborted : Bool
  onAborted : Bool
  onClose : Bool
  onError : Bool
  onShutdown : Bool
  disposed : Bool

/-- A request with the state of its transport, the variable and the listeners of
`observeHttp`, and the cancellation of its handler. -/
structure Lifetime where
  method : String
  route : Option String
  status : Option ℕ
  requestAborted : Bool
  writableFinished : Bool
  finishEmitted : Bool
  closeEmitted : Bool
  finished : Bool
  onFinish : Bool
  onClose : Bool
  cancellation : Option Cancellation

namespace Lifetime

def start (method : String) (route : Option String) : Lifetime :=
  { method := method
    route := route
    status := none
    requestAborted := false
    writableFinished := false
    finishEmitted := false
    closeEmitted := false
    finished := false
    onFinish := true
    onClose := true
    cancellation := none }

def httpEnd (life : Lifetime) (outcome : HttpOutcome) : HttpEnd :=
  { method := life.method
    route := life.route.getD "unmatched"
    status := life.status
    outcome := outcome }

def finish (life : Lifetime) (outcome : HttpOutcome) : Lifetime × Option HttpEnd :=
  if life.finished then (life, none)
  else ({ life with finished := true, onFinish := false, onClose := false },
    some (life.httpEnd outcome))

/-- A listener of `once` is removed before it is called. -/
def emitFinish (life : Lifetime) : Lifetime × Option HttpEnd :=
  let emitted := { life with finishEmitted := true }
  if life.onFinish then { emitted with onFinish := false }.finish .completed else (emitted, none)

def closeOutcome (life : Lifetime) : HttpOutcome :=
  if life.writableFinished then .completed else .aborted

def cancelOnClose (writableFinished : Bool) (cancellation : Cancellation) : Cancellation :=
  if cancellation.onClose then
    { cancellation with onClose := false, aborted := cancellation.aborted || !writableFinished }
  else cancellation

def emitClose (life : Lifetime) : Lifetime × Option HttpEnd :=
  let emitted := { life with
    closeEmitted := true
    cancellation := life.cancellation.map (cancelOnClose life.writableFinished) }
  if life.onClose then { emitted with onClose := false }.finish life.closeOutcome
  else (emitted, none)

def cancelOnAborted (cancellation : Cancellation) : Cancellation :=
  if cancellation.onAborted then { cancellation with onAborted := false, aborted := true }
  else cancellation

def cancelOnError (cancellation : Cancellation) : Cancellation :=
  if cancellation.onError then { cancellation with onError := false, aborted := true }
  else cancellation

def cancelOnShutdown (cancellation : Cancellation) : Cancellation :=
  if cancellation.onShutdown then { cancellation with onShutdown := false, aborted := true }
  else cancellation

/-- `requestCancellation`: the listeners come first, then what has happened before. -/
def subscribe (life : Lifetime) (shutdown destroyed : Bool) : Lifetime :=
  { life with
    cancellation := some
      { aborted := life.requestAborted || destroyed || shutdown
        onAborted := true
        onClose := true
        onError := true
        onShutdown := true
        disposed := false } }

def dispose (cancellation : Cancellation) : Cancellation :=
  { cancellation with
    onAborted := false
    onClose := false
    onError := false
    onShutdown := false
    disposed := true }

end Lifetime

/-! ### Events of one request -/

inductive RequestEvent where
  | head (status : ℕ)
  | flushed
  | requestAborted
  | finish
  | close
  | error
  | subscribe (destroyed : Bool)
  | abort
  | dispose

namespace Lifetime

def withCancellation (life : Lifetime) (change : Cancellation → Cancellation) : Lifetime :=
  { life with cancellation := life.cancellation.map change }

def abortSignal (cancellation : Cancellation) : Cancellation := { cancellation with aborted := true }

def apply (shutdown : Bool) (life : Lifetime) : RequestEvent → Lifetime × Option HttpEnd
  | .head status => ({ life with status := some status }, none)
  | .flushed => ({ life with writableFinished := true }, none)
  | .requestAborted =>
      ({ life with requestAborted := true }.withCancellation cancelOnAborted, none)
  | .finish => life.emitFinish
  | .close => life.emitClose
  | .error => (life.withCancellation cancelOnError, none)
  | .subscribe destroyed => (life.subscribe shutdown destroyed, none)
  | .abort => (life.withCancellation abortSignal, none)
  | .dispose => (life.withCancellation Lifetime.dispose, none)

/-- A response closes once and is destroyed when it has closed, and a handler has one
cancellation. -/
def Allowed (life : Lifetime) : RequestEvent → Prop
  | .close => life.closeEmitted = false
  | .subscribe destroyed =>
      life.cancellation = none ∧ (life.closeEmitted = true → destroyed = true)
  | _ => True

end Lifetime

/-! ### The system -/

structure LifeState where
  shutdown : Bool
  lifetimes : List Lifetime
  metrics : HttpMetrics
  recorded : List HttpEnd

def LifeState.initial : LifeState := ⟨false, [], HttpMetrics.initial, []⟩

inductive LifeEvent where
  | request (method : String) (route : Option String)
  | happens (id : Nat) (event : RequestEvent)
  | preClose

def recordOption (metrics : HttpMetrics) (ended : Option HttpEnd) : HttpMetrics :=
  ended.elim metrics metrics.recordEnd

inductive LifeStep : LifeState → LifeEvent → LifeState → Prop
  | request (state : LifeState) (method : String) (route : Option String) :
      LifeStep state (.request method route)
        { state with
          lifetimes := state.lifetimes ++ [Lifetime.start method route]
          metrics := state.metrics.recordStart }
  | happens (state : LifeState) (id : Nat) (event : RequestEvent) (life : Lifetime)
      (present : state.lifetimes[id]? = some life) (allowed : life.Allowed event) :
      LifeStep state (.happens id event)
        { state with
          lifetimes := state.lifetimes.set id (life.apply state.shutdown event).1
          metrics := recordOption state.metrics (life.apply state.shutdown event).2
          recorded := state.recorded ++ (life.apply state.shutdown event).2.toList }
  | preClose (state : LifeState) :
      LifeStep state .preClose
        { state with
          shutdown := true
          -- A signal that is aborted already calls nobody.
          lifetimes := if state.shutdown then state.lifetimes
            else state.lifetimes.map (fun life => life.withCancellation Lifetime.cancelOnShutdown) }

/-! ### Requests without listeners -/

inductive SignalPhase where
  | absent
  | live (aborted : Bool)
  | disposed (aborted : Bool)
deriving DecidableEq

namespace SignalPhase

def cancel (cause : Bool) : SignalPhase → SignalPhase
  | .live aborted => .live (aborted || cause)
  | signal => signal

def abort : SignalPhase → SignalPhase
  | .absent => .absent
  | .live _ => .live true
  | .disposed _ => .disposed true

def dispose : SignalPhase → SignalPhase
  | .live aborted => .disposed aborted
  | signal => signal

end SignalPhase

structure Request where
  requestAborted : Bool
  flushed : Bool
  finished : Bool
  closed : Bool
  signal : SignalPhase
deriving DecidableEq

namespace Request

def inFlight (request : Request) : Bool := !request.finished && !request.closed

def apply (shutdown : Bool) (request : Request) : RequestEvent → Request
  | .head _ => request
  | .flushed => { request with flushed := true }
  | .requestAborted => { request with requestAborted := true, signal := request.signal.cancel true }
  | .finish => { request with finished := true }
  | .close => { request with closed := true, signal := request.signal.cancel (!request.flushed) }
  | .error => { request with signal := request.signal.cancel true }
  | .subscribe destroyed =>
      { request with signal := .live (request.requestAborted || destroyed || shutdown) }
  | .abort => { request with signal := request.signal.abort }
  | .dispose => { request with signal := request.signal.dispose }

/-- The end that is recorded, if the request is in flight until this event. -/
def ends (request : Request) : RequestEvent → Option HttpOutcome
  | .finish => if request.inFlight then some .completed else none
  | .close =>
      if request.inFlight then some (if request.flushed then .completed else .aborted) else none
  | _ => none

end Request

structure RequestsState where
  shutdown : Bool
  requests : List Request
  ended : List HttpOutcome

def RequestsState.initial : RequestsState := ⟨false, [], []⟩

inductive RequestsStep : RequestsState → LifeEvent → RequestsState → Prop
  | request (state : RequestsState) (method : String) (route : Option String) :
      RequestsStep state (.request method route)
        { state with requests := state.requests ++ [⟨false, false, false, false, .absent⟩] }
  | happens (state : RequestsState) (id : Nat) (event : RequestEvent) (request : Request)
      (present : state.requests[id]? = some request) :
      RequestsStep state (.happens id event)
        { state with
          requests := state.requests.set id (request.apply state.shutdown event)
          ended := state.ended ++ (request.ends event).toList }
  | preClose (state : RequestsState) :
      RequestsStep state .preClose
        { state with
          shutdown := true
          requests := state.requests.map
            (fun request => { request with signal := request.signal.cancel true }) }

/-! ### What the listeners stand for -/

def Cancellation.phase (cancellation : Cancellation) : SignalPhase :=
  if cancellation.disposed then .disposed cancellation.aborted else .live cancellation.aborted

def Lifetime.view (life : Lifetime) : Request :=
  { requestAborted := life.requestAborted
    flushed := life.writableFinished
    finished := life.finishEmitted
    closed := life.closeEmitted
    signal := life.cancellation.elim .absent Cancellation.phase }

def LifeState.view (state : LifeState) : RequestsState :=
  { shutdown := state.shutdown
    requests := state.lifetimes.map Lifetime.view
    ended := state.recorded.map HttpEnd.outcome }

/-- While the handler is busy a listener is only missing if it has been called; afterwards
there is none. -/
structure Cancellation.Wired (shutdown closed : Bool) (cancellation : Cancellation) : Prop where
  onAborted : cancellation.disposed = false → cancellation.onAborted = false →
    cancellation.aborted = true
  onError : cancellation.disposed = false → cancellation.onError = false →
    cancellation.aborted = true
  onShutdown : cancellation.disposed = false → cancellation.onShutdown = false →
    cancellation.aborted = true
  onClose : cancellation.disposed = false → cancellation.onClose = false → closed = true
  stopped : cancellation.disposed = false → shutdown = true → cancellation.aborted = true
  removed : cancellation.disposed = true → cancellation.onAborted = false ∧
    cancellation.onClose = false ∧ cancellation.onError = false ∧ cancellation.onShutdown = false

structure Lifetime.Wired (shutdown : Bool) (life : Lifetime) : Prop where
  finished : life.finished = (life.finishEmitted || life.closeEmitted)
  onFinish : life.onFinish = !life.finished
  onClose : life.onClose = !life.finished
  cancellation : ∀ cancellation, life.cancellation = some cancellation →
    cancellation.Wired shutdown life.closeEmitted

section Listeners

variable {shutdown closed : Bool} {cancellation : Cancellation}

theorem phase_eq_cancel {changed : Cancellation} {cause : Bool}
    (same : changed.disposed = cancellation.disposed)
    (live : cancellation.disposed = false → changed.aborted = (cancellation.aborted || cause))
    (done : cancellation.disposed = true → changed.aborted = cancellation.aborted) :
    changed.phase = cancellation.phase.cancel cause := by
  unfold Cancellation.phase
  rw [same]
  cases disposed : cancellation.disposed with
  | false => simp [SignalPhase.cancel, live disposed]
  | true => simp [SignalPhase.cancel, done disposed]

theorem Cancellation.Wired.raise {changed : Cancellation} {later : Bool}
    (wired : cancellation.Wired shutdown closed) (live : cancellation.disposed = false)
    (same : changed.disposed = cancellation.disposed) (raised : changed.aborted = true)
    (kept : changed.onClose = cancellation.onClose) :
    changed.phase = cancellation.phase.cancel true ∧ changed.Wired later closed := by
  constructor
  · apply phase_eq_cancel same
    · intro _
      rw [raised, Bool.or_true]
    · intro done
      cases live.symm.trans done
  · exact
      { onAborted := fun _ _ => raised
        onError := fun _ _ => raised
        onShutdown := fun _ _ => raised
        onClose := fun _ missing => wired.onClose live (kept ▸ missing)
        stopped := fun _ _ => raised
        removed := by
          intro done
          cases live.symm.trans (same ▸ done) }

/-- A listener that is missing has been called before, or the handler is done. -/
theorem phase_of_missing (missing : cancellation.disposed = false → cancellation.aborted = true) :
    cancellation.phase = cancellation.phase.cancel true := by
  apply phase_eq_cancel rfl
  · intro live
    rw [missing live, Bool.true_or]
  · intro _
    rfl

theorem live_of_listening {listening : Bool} (on : listening = true)
    (removed : cancellation.disposed = true → listening = false) :
    cancellation.disposed = false := by
  cases done : cancellation.disposed with
  | false => rfl
  | true => cases on.symm.trans (removed done)

theorem Cancellation.Wired.cancelOnAborted (wired : cancellation.Wired shutdown closed) :
    (Lifetime.cancelOnAborted cancellation).phase = cancellation.phase.cancel true ∧
      (Lifetime.cancelOnAborted cancellation).Wired shutdown closed := by
  unfold Lifetime.cancelOnAborted
  cases listening : cancellation.onAborted with
  | true =>
      have live := live_of_listening listening (fun done => (wired.removed done).1)
      exact wired.raise live rfl rfl rfl
  | false => exact ⟨phase_of_missing (fun live => wired.onAborted live listening), wired⟩

theorem Cancellation.Wired.cancelOnError (wired : cancellation.Wired shutdown closed) :
    (Lifetime.cancelOnError cancellation).phase = cancellation.phase.cancel true ∧
      (Lifetime.cancelOnError cancellation).Wired shutdown closed := by
  unfold Lifetime.cancelOnError
  cases listening : cancellation.onError with
  | true =>
      have live := live_of_listening listening (fun done => (wired.removed done).2.2.1)
      exact wired.raise live rfl rfl rfl
  | false => exact ⟨phase_of_missing (fun live => wired.onError live listening), wired⟩

theorem Cancellation.Wired.cancelOnShutdown (wired : cancellation.Wired shutdown closed) :
    (Lifetime.cancelOnShutdown cancellation).phase = cancellation.phase.cancel true ∧
      (Lifetime.cancelOnShutdown cancellation).Wired true closed := by
  unfold Lifetime.cancelOnShutdown
  cases listening : cancellation.onShutdown with
  | true =>
      have live := live_of_listening listening (fun done => (wired.removed done).2.2.2)
      exact wired.raise live rfl rfl rfl
  | false =>
      exact ⟨phase_of_missing (fun live => wired.onShutdown live listening),
        { wired with stopped := fun live _ => wired.onShutdown live listening }⟩

theorem Cancellation.Wired.cancelOnClose (wired : cancellation.Wired shutdown false)
    (writableFinished : Bool) :
    (Lifetime.cancelOnClose writableFinished cancellation).phase =
        cancellation.phase.cancel (!writableFinished) ∧
      (Lifetime.cancelOnClose writableFinished cancellation).Wired shutdown true := by
  unfold Lifetime.cancelOnClose
  cases listening : cancellation.onClose with
  | true =>
      have live := live_of_listening listening (fun done => (wired.removed done).2.1)
      constructor
      · apply phase_eq_cancel
        · rfl
        · intro _
          rfl
        · intro done
          cases live.symm.trans done
      · exact
          { onAborted := fun busy missing => by simp [wired.onAborted busy missing]
            onError := fun busy missing => by simp [wired.onError busy missing]
            onShutdown := fun busy missing => by simp [wired.onShutdown busy missing]
            onClose := fun _ _ => rfl
            stopped := fun busy stopping => by simp [wired.stopped busy stopping]
            removed := by
              intro done
              cases live.symm.trans done }
  | false =>
      constructor
      · apply phase_eq_cancel rfl
        · intro live
          cases wired.onClose live listening
        · intro _
          rfl
      · exact { wired with onClose := fun _ _ => rfl }

theorem Cancellation.Wired.abortSignal (wired : cancellation.Wired shutdown closed) :
    (Lifetime.abortSignal cancellation).phase = cancellation.phase.abort ∧
      (Lifetime.abortSignal cancellation).Wired shutdown closed := by
  constructor
  · unfold Lifetime.abortSignal Cancellation.phase
    cases cancellation.disposed <;> rfl
  · exact
      { onAborted := fun _ _ => rfl
        onError := fun _ _ => rfl
        onShutdown := fun _ _ => rfl
        onClose := wired.onClose
        stopped := fun _ _ => rfl
        removed := wired.removed }

theorem wired_dispose (cancellation : Cancellation) :
    (Lifetime.dispose cancellation).phase = cancellation.phase.dispose ∧
      (Lifetime.dispose cancellation).Wired shutdown closed := by
  constructor
  · unfold Lifetime.dispose Cancellation.phase
    cases cancellation.disposed <;> rfl
  · constructor <;> intro live
    · cases live
    · cases live
    · cases live
    · cases live
    · cases live
    · exact ⟨rfl, rfl, rfl, rfl⟩

end Listeners

/-! ### One request -/

section Request

variable {shutdown : Bool} {life : Lifetime}

theorem Lifetime.Wired.withCancellation {later : Bool} (wired : life.Wired shutdown)
    {change : Cancellation → Cancellation}
    (kept : ∀ cancellation, cancellation.Wired shutdown life.closeEmitted →
      (change cancellation).Wired later life.closeEmitted) :
    (life.withCancellation change).Wired later where
  finished := wired.finished
  onFinish := wired.onFinish
  onClose := wired.onClose
  cancellation := by
    intro changed given
    obtain ⟨cancellation, before, rfl⟩ := Option.map_eq_some_iff.mp given
    exact kept cancellation (wired.cancellation cancellation before)

theorem view_withCancellation (wired : life.Wired shutdown) {change : Cancellation → Cancellation}
    {move : SignalPhase → SignalPhase} (absent : move .absent = .absent)
    (moved : ∀ cancellation, cancellation.Wired shutdown life.closeEmitted →
      (change cancellation).phase = move cancellation.phase) :
    (life.withCancellation change).view = { life.view with signal := move life.view.signal } := by
  unfold Lifetime.withCancellation Lifetime.view
  cases given : life.cancellation with
  | none => simp [absent]
  | some cancellation => simp [moved cancellation (wired.cancellation cancellation given)]

theorem Lifetime.Wired.inFlight (wired : life.Wired shutdown) :
    life.view.inFlight = !life.finished := by
  rw [wired.finished, Bool.not_or]
  rfl

theorem Lifetime.Wired.emitFinish (wired : life.Wired shutdown) :
    life.emitFinish.1.Wired shutdown ∧
      life.emitFinish.1.view = { life.view with finished := true } ∧
      life.emitFinish.2.map HttpEnd.outcome =
        if life.view.inFlight then some .completed else none := by
  rw [wired.inFlight]
  cases ended : life.finished with
  | false =>
      have listening : life.onFinish = true := by rw [wired.onFinish, ended]; rfl
      simp only [Lifetime.emitFinish, listening, if_true, Lifetime.finish, ended,
        Bool.false_eq_true, if_false]
      exact ⟨⟨rfl, rfl, rfl, wired.cancellation⟩, rfl, rfl⟩
  | true =>
      have silent : life.onFinish = false := by rw [wired.onFinish, ended]; rfl
      simp only [Lifetime.emitFinish, silent, Bool.false_eq_true, if_false]
      exact ⟨⟨ended, by simp [ended], wired.onClose, wired.cancellation⟩, rfl, rfl⟩

theorem Lifetime.Wired.emitClose (wired : life.Wired shutdown)
    (first : life.closeEmitted = false) :
    life.emitClose.1.Wired shutdown ∧
      life.emitClose.1.view = { life.view with
        closed := true, signal := life.view.signal.cancel (!life.view.flushed) } ∧
      life.emitClose.2.map HttpEnd.outcome =
        if life.view.inFlight then some (if life.view.flushed then .completed else .aborted)
        else none := by
  have closing : ∀ cancellation, life.cancellation = some cancellation →
      cancellation.Wired shutdown false := by
    intro cancellation given
    exact first ▸ wired.cancellation cancellation given
  have cancelled : ∀ changed,
      life.cancellation.map (Lifetime.cancelOnClose life.writableFinished) = some changed →
        changed.Wired shutdown true := by
    intro changed given
    obtain ⟨cancellation, before, rfl⟩ := Option.map_eq_some_iff.mp given
    exact ((closing cancellation before).cancelOnClose life.writableFinished).2
  have signal : (life.cancellation.map (Lifetime.cancelOnClose life.writableFinished)).elim
      SignalPhase.absent Cancellation.phase =
        life.view.signal.cancel (!life.writableFinished) := by
    unfold Lifetime.view
    cases given : life.cancellation with
    | none => rfl
    | some cancellation =>
        exact ((closing cancellation given).cancelOnClose life.writableFinished).1
  rw [wired.inFlight]
  cases ended : life.finished with
  | false =>
      have listening : life.onClose = true := by rw [wired.onClose, ended]; rfl
      simp only [Lifetime.emitClose, listening, if_true, Lifetime.finish, ended,
        Bool.false_eq_true, if_false]
      refine ⟨⟨?_, rfl, rfl, cancelled⟩, ?_, rfl⟩
      · simp
      · exact congrArg (fun signal => { life.view with closed := true, signal := signal }) signal
  | true =>
      have silent : life.onClose = false := by rw [wired.onClose, ended]; rfl
      simp only [Lifetime.emitClose, silent, Bool.false_eq_true, if_false]
      refine ⟨⟨?_, wired.onFinish, ?_, cancelled⟩, ?_, rfl⟩
      · simp [ended]
      · simp [ended]
      · exact congrArg (fun signal => { life.view with closed := true, signal := signal }) signal

theorem Lifetime.Wired.apply (wired : life.Wired shutdown) {event : RequestEvent}
    (allowed : life.Allowed event) :
    (life.apply shutdown event).1.Wired shutdown ∧
      (life.apply shutdown event).1.view = life.view.apply shutdown event ∧
      (life.apply shutdown event).2.map HttpEnd.outcome = life.view.ends event := by
  cases event with
  | head status | flushed =>
      exact ⟨⟨wired.finished, wired.onFinish, wired.onClose, wired.cancellation⟩, rfl, rfl⟩
  | requestAborted =>
      have noted : ({ life with requestAborted := true } : Lifetime).Wired shutdown :=
        ⟨wired.finished, wired.onFinish, wired.onClose, wired.cancellation⟩
      refine ⟨noted.withCancellation fun _ held => held.cancelOnAborted.2, ?_, rfl⟩
      exact view_withCancellation noted rfl (fun _ held => held.cancelOnAborted.1)
  | finish => exact wired.emitFinish
  | close => exact wired.emitClose allowed
  | error =>
      refine ⟨wired.withCancellation fun _ held => held.cancelOnError.2, ?_, rfl⟩
      exact view_withCancellation wired rfl (fun _ held => held.cancelOnError.1)
  | subscribe destroyed =>
      refine ⟨⟨wired.finished, wired.onFinish, wired.onClose, ?_⟩, rfl, rfl⟩
      intro cancellation given
      cases given
      constructor <;> intro live
      · intro missing
        cases missing
      · intro missing
        cases missing
      · intro missing
        cases missing
      · intro missing
        cases missing
      · intro stopping
        simp [stopping]
      · cases live
  | abort =>
      refine ⟨wired.withCancellation fun _ held => held.abortSignal.2, ?_, rfl⟩
      exact view_withCancellation wired rfl (fun _ held => held.abortSignal.1)
  | dispose =>
      refine ⟨wired.withCancellation fun cancellation _ => (wired_dispose cancellation).2, ?_, rfl⟩
      exact view_withCancellation wired rfl
        (fun cancellation _ => (@wired_dispose shutdown life.closeEmitted cancellation).1)

end Request

/-! ### All requests -/

def LifeState.Wired (state : LifeState) : Prop :=
  ∀ life ∈ state.lifetimes, life.Wired state.shutdown

section Steps

variable {state next : LifeState} {event : LifeEvent}

theorem lifeStep_wired (wired : state.Wired) (taken : LifeStep state event next) : next.Wired := by
  cases taken with
  | request method route =>
      intro life member
      rcases List.mem_append.mp member with old | new
      · exact wired life old
      · rw [List.mem_singleton.mp new]
        exact ⟨rfl, rfl, rfl, by intro cancellation impossible; cases impossible⟩
  | happens id event life present allowed =>
      intro other member
      rcases List.mem_or_eq_of_mem_set member with old | rfl
      · exact wired other old
      · exact ((wired life (List.mem_of_getElem? present)).apply allowed).1
  | preClose =>
      intro life member
      dsimp only at member
      cases stopped : state.shutdown with
      | true =>
          rw [stopped, if_pos rfl] at member
          exact stopped ▸ wired life member
      | false =>
          rw [stopped, if_neg Bool.false_ne_true] at member
          obtain ⟨old, before, rfl⟩ := List.mem_map.mp member
          exact (wired old before).withCancellation fun _ held => held.cancelOnShutdown.2

/-- Once the gateway has been told to shut down, another call changes nothing. -/
theorem Lifetime.Wired.stopped {life : Lifetime} (wired : life.Wired true) :
    life.view.signal.cancel true = life.view.signal := by
  unfold Lifetime.view
  cases given : life.cancellation with
  | none => rfl
  | some cancellation =>
      have held := wired.cancellation cancellation given
      exact (phase_of_missing (fun live => held.stopped live rfl)).symm

theorem preClose_view (wired : state.Wired) :
    (if state.shutdown then state.lifetimes
      else state.lifetimes.map (fun life => life.withCancellation Lifetime.cancelOnShutdown)).map
        Lifetime.view =
      state.lifetimes.map
        (fun life => { life.view with signal := life.view.signal.cancel true }) := by
  unfold LifeState.Wired at wired
  cases stopped : state.shutdown with
  | true =>
      rw [stopped] at wired
      rw [if_pos rfl]
      apply List.map_congr_left
      intro life member
      rw [(wired life member).stopped]
  | false =>
      rw [stopped] at wired
      rw [if_neg Bool.false_ne_true, List.map_map]
      apply List.map_congr_left
      intro life member
      exact view_withCancellation (wired life member) rfl (fun _ held => held.cancelOnShutdown.1)

theorem lifeStep_view (wired : state.Wired) (taken : LifeStep state event next) :
    RequestsStep state.view event next.view := by
  cases taken with
  | request method route =>
      have step := RequestsStep.request state.view method route
      simpa [LifeState.view, Lifetime.view, Lifetime.start] using step
  | happens id event life present allowed =>
      obtain ⟨_, view, ended⟩ := (wired life (List.mem_of_getElem? present)).apply allowed
      have here : state.view.requests[id]? = some life.view := by
        simp [LifeState.view, present]
      have step := RequestsStep.happens state.view id event life.view here
      have same : state.view.shutdown = state.shutdown := rfl
      rw [same, ← view, ← ended] at step
      simpa [LifeState.view, List.map_set, Option.toList_map] using step
  | preClose =>
      have step := RequestsStep.preClose state.view
      have mapped : state.view.requests.map
            (fun request => { request with signal := request.signal.cancel true }) =
          state.lifetimes.map
            (fun life => { life.view with signal := life.view.signal.cancel true }) := by
        simp [LifeState.view]
      rw [mapped, ← preClose_view wired] at step
      exact step

structure Counted (state : LifeState) : Prop where
  active : state.metrics.httpActive = state.view.requests.countP Request.inFlight
  ended : state.recorded.length + state.view.requests.countP Request.inFlight =
    state.lifetimes.length
  labelled : ∀ labels, state.metrics.httpRequests labels =
    state.recorded.countP (fun event => httpLabels event = labels)

/-- An event ends a request exactly if it was in flight before and is not any more. -/
theorem inFlight_apply (request : Request) (shutdown : Bool) (event : RequestEvent) :
    ((request.apply shutdown event).inFlight = request.inFlight ∧ request.ends event = none) ∨
      (request.inFlight = true ∧ (request.apply shutdown event).inFlight = false ∧
        ∃ outcome, request.ends event = some outcome) := by
  cases flying : request.inFlight with
  | false =>
      apply Or.inl
      cases event <;> simp_all [Request.apply, Request.ends, Request.inFlight]
  | true =>
      cases event with
      | finish =>
          exact Or.inr ⟨rfl, by simp [Request.apply, Request.inFlight], _, by
            rw [Request.ends, flying, if_pos rfl]⟩
      | close =>
          exact Or.inr ⟨rfl, by simp [Request.apply, Request.inFlight], _, by
            rw [Request.ends, flying, if_pos rfl]⟩
      | _ => exact Or.inl ⟨flying, rfl⟩

theorem Counted.request (counted : Counted state) (method : String) (route : Option String) :
    Counted { state with
      lifetimes := state.lifetimes ++ [Lifetime.start method route]
      metrics := state.metrics.recordStart } := by
  have flying : (Lifetime.start method route).view.inFlight = true := rfl
  have before := counted.active
  have ends := counted.ended
  simp only [LifeState.view] at before ends
  refine ⟨?_, ?_, counted.labelled⟩
  · simp [LifeState.view, HttpMetrics.recordStart, flying, before, List.countP_append]
  · simp only [LifeState.view, List.map_append, List.countP_append, List.length_append, flying,
      List.map_cons, List.map_nil, List.countP_singleton, List.length_cons, List.length_nil, if_true]
    omega

theorem countP_change {Item : Type} {items : List Item} {id : Nat} {old new : Item}
    (count : Item → Bool) (present : items[id]? = some old) :
    (items.set id new).countP count + (if count old then 1 else 0) =
      items.countP count + if count new then 1 else 0 := by
  obtain ⟨bound, here⟩ := List.getElem?_eq_some_iff.mp present
  have counted : (if count old then 1 else 0) ≤ items.countP count := by
    split
    · next holds => exact List.countP_pos_iff.mpr ⟨old, List.mem_of_getElem? present, holds⟩
    · exact Nat.zero_le _
  rw [List.countP_set bound, here]
  omega

theorem Counted.happens (counted : Counted state) (wired : state.Wired) {id : Nat}
    {event : RequestEvent} {life : Lifetime} (present : state.lifetimes[id]? = some life)
    (allowed : life.Allowed event) :
    Counted { state with
      lifetimes := state.lifetimes.set id (life.apply state.shutdown event).1
      metrics := recordOption state.metrics (life.apply state.shutdown event).2
      recorded := state.recorded ++ (life.apply state.shutdown event).2.toList } := by
  obtain ⟨_, view, ended⟩ := (wired life (List.mem_of_getElem? present)).apply allowed
  have here : state.view.requests[id]? = some life.view := by
    simp [LifeState.view, present]
  have change := @countP_change Request state.view.requests id life.view
    (life.view.apply state.shutdown event) Request.inFlight here
  have requests : (state.lifetimes.set id (life.apply state.shutdown event).1).map Lifetime.view =
      state.view.requests.set id (life.view.apply state.shutdown event) := by
    rw [List.map_set, view]
    rfl
  have active := counted.active
  have total := counted.ended
  simp only [LifeState.view] at change requests active total
  rcases inFlight_apply life.view state.shutdown event with
    ⟨same, none⟩ | ⟨before, after, outcome, some⟩
  · rw [none, Option.map_eq_none_iff] at ended
    rw [same] at change
    constructor
    · simp only [LifeState.view, requests, ended, recordOption, Option.elim_none]
      omega
    · simp only [LifeState.view, requests, ended, Option.toList_none, List.append_nil,
        List.length_set]
      omega
    · intro labels
      simp only [ended, recordOption, Option.elim_none, Option.toList_none, List.append_nil]
      exact counted.labelled labels
  · rw [some] at ended
    obtain ⟨recorded, given, _⟩ := Option.map_eq_some_iff.mp ended
    rw [before, after] at change
    simp only [if_true, Bool.false_eq_true, if_false] at change
    constructor
    · simp only [LifeState.view, requests, given, recordOption, Option.elim_some,
        HttpMetrics.recordEnd]
      omega
    · simp only [LifeState.view, requests, given, Option.toList_some, List.length_append,
        List.length_singleton, List.length_set]
      omega
    · intro labels
      simp only [given, recordOption, Option.elim_some, HttpMetrics.recordEnd, Option.toList_some,
        List.countP_append, List.countP_singleton]
      by_cases own : httpLabels recorded = labels
      · subst own
        rw [Function.update_self, counted.labelled]
        simp
      · rw [Function.update_of_ne (Ne.symm own), counted.labelled]
        simp [own]

theorem Counted.preClose (counted : Counted state) (wired : state.Wired) :
    Counted { state with
      shutdown := true
      lifetimes := if state.shutdown then state.lifetimes
        else state.lifetimes.map (fun life => life.withCancellation Lifetime.cancelOnShutdown) } := by
  have requests := preClose_view wired
  have flights : (state.lifetimes.map
        (fun life => { life.view with signal := life.view.signal.cancel true })).countP
          Request.inFlight = state.view.requests.countP Request.inFlight := by
    simp only [LifeState.view, List.countP_map]
    rfl
  have lengths : (if state.shutdown then state.lifetimes
      else state.lifetimes.map
        (fun life => life.withCancellation Lifetime.cancelOnShutdown)).length =
      state.lifetimes.length := by
    split
    · rfl
    · exact List.length_map _
  have active := counted.active
  have total := counted.ended
  simp only [LifeState.view] at flights active total
  refine ⟨?_, ?_, counted.labelled⟩
  · simp only [LifeState.view, requests, flights]
    exact active
  · simp only [LifeState.view, requests, flights, lengths]
    exact total

theorem lifeStep_counted (counted : Counted state) (wired : state.Wired)
    (taken : LifeStep state event next) : Counted next := by
  cases taken with
  | request method route => exact counted.request method route
  | happens id event life present allowed => exact counted.happens wired present allowed
  | preClose => exact counted.preClose wired

structure KnownLabels (labels : HttpLabels) : Prop where
  method : labels.method ∈ "OTHER" :: knownMethods
  route : labels.route ∈ "unmatched" :: knownRoutes
  status : labels.status ∈ "none" :: (List.range 500).map (fun offset => toString (100 + offset))

theorem knownLabels (event : HttpEnd) : KnownLabels (httpLabels event) := by
  constructor
  · simp only [httpLabels]
    split
    · next listed => exact List.mem_cons_of_mem _ listed
    · exact List.mem_cons_self
  · simp only [httpLabels]
    split
    · next listed => exact List.mem_cons_of_mem _ listed
    · exact List.mem_cons_self
  · simp only [httpLabels]
    cases event.status with
    | none => exact List.mem_cons_self
    | some status =>
        simp only [statusLabel]
        split
        · next bounds =>
            apply List.mem_cons_of_mem
            apply List.mem_map.mpr
            refine ⟨status - 100, List.mem_range.mpr (by omega), ?_⟩
            rw [Nat.add_sub_cancel' bounds.1]
        · exact List.mem_cons_self

/-- No listener is left once there is nothing to listen for, and a signal that a handler
still looks at is aborted when the gateway shuts down. -/
structure Released (shutdown : Bool) (life : Lifetime) : Prop where
  observed : life.view.inFlight = false → life.onFinish = false ∧ life.onClose = false
  disposed : ∀ cancellation aborted, life.cancellation = some cancellation →
    cancellation.phase = .disposed aborted → cancellation.onAborted = false ∧
      cancellation.onClose = false ∧ cancellation.onError = false ∧ cancellation.onShutdown = false
  stopped : shutdown = true → ∀ aborted, life.view.signal = .live aborted → aborted = true

theorem Lifetime.Wired.released {shutdown : Bool} {life : Lifetime} (wired : life.Wired shutdown) :
    Released shutdown life where
  observed := by
    intro landed
    rw [wired.inFlight, Bool.not_eq_false'] at landed
    rw [wired.onFinish, wired.onClose, landed]
    exact ⟨rfl, rfl⟩
  disposed := by
    intro cancellation aborted given phase
    apply (wired.cancellation cancellation given).removed
    unfold Cancellation.phase at phase
    split at phase
    · assumption
    · cases phase
  stopped := by
    rintro rfl aborted live
    have same := wired.stopped
    rw [live, SignalPhase.cancel, Bool.or_true] at same
    exact (SignalPhase.live.inj same).symm

/-- Whatever the transports report: the code does what requests without listeners do, the
gauge is the number of requests in flight, every request that is not has been counted once
under labels from a fixed list, and no listener outlives its use. -/
theorem lifetimes_refine {events : List LifeEvent} (run : Run LifeStep .initial events state) :
    Run RequestsStep .initial events state.view ∧ Counted state ∧
      (∀ labels, state.metrics.httpRequests labels ≠ 0 → KnownLabels labels) ∧
      ∀ life ∈ state.lifetimes, Released state.shutdown life := by
  have initially : LifeState.initial.Wired ∧ Counted LifeState.initial := by
    refine ⟨?_, rfl, rfl, fun _ => rfl⟩
    intro life impossible
    cases impossible
  have preserved : ∀ state event next, state.Wired ∧ Counted state → LifeStep state event next →
      next.Wired ∧ Counted next := by
    intro state event next held taken
    exact ⟨lifeStep_wired held.1 taken, lifeStep_counted held.2 held.1 taken⟩
  obtain ⟨wired, counted⟩ := run.invariant _ initially preserved
  refine ⟨?_, counted, ?_, fun life member => (wired life member).released⟩
  · have simulated := run.simulate _ initially preserved LifeState.view (fun event => [event])
      (fun _ _ _ held taken => .single (lifeStep_view held.1 taken))
    rwa [List.flatMap_singleton'] at simulated
  · intro labels used
    rw [counted.labelled] at used
    obtain ⟨event, _, same⟩ := List.countP_pos_iff.mp (Nat.pos_of_ne_zero used)
    rw [← of_decide_eq_true same]
    exact knownLabels event

end Steps

def sampleLifeEvents : List LifeEvent :=
  [.request "POST" (some "/v1/chat"), .happens 0 (.subscribe false), .happens 0 .close, .preClose]

theorem lifetimes_refine_closed :
    ∃ state, Run LifeStep .initial sampleLifeEvents state ∧
      Run RequestsStep .initial sampleLifeEvents state.view ∧
      state.view = ⟨true, [⟨false, false, false, true, .live true⟩], [.aborted]⟩ ∧
      state.metrics.httpActive = 0 := by
  have run : Run LifeStep .initial sampleLifeEvents _ :=
    (((Run.single (.request .initial "POST" (some "/v1/chat"))).snoc
      (.happens _ 0 (.subscribe false) _ rfl ⟨rfl, fun closed => by cases closed⟩)).snoc
        (.happens _ 0 .close _ rfl rfl)).snoc (.preClose _)
  have refined := lifetimes_refine run
  exact ⟨_, run, refined.1, rfl, rfl⟩

end ModelMux.Routes
