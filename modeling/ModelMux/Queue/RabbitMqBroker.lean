/-
The connection of a worker to the broker, from `connect` to `close`.

`RabbitMqJobWorker.run` starts the loop of the worker and `close` its shutdown;
both call `RabbitMqBroker`, whose methods stop at each of their awaits.  A phase
tells where a call stops, with the phase of the call that it awaits inside.  The
server, the database and the handlers of the deliveries may answer at any time
and in any order, also after the shutdown has begun.
-/

import Mathlib.Logic.Function.Basic
import ModelMux.Queue.Worker

namespace ModelMux.Queue

/-! ### The state of the broker -/

structure ConsumerTag where
  text : String
  named : text ≠ ""
deriving DecidableEq

inductive BrokerError (Error : Type) where
  | raised (error : Error)
  | message (text : String)

/-- The promise of `handle` for one delivery.  A handler may throw any value; `none`
is one that is not an `Error`. -/
inductive TaskPhase (Error : Type) where
  | handling
  | returned (result : Except (Option Error) Action)
  | leaving (failure : Option (BrokerError Error))
  | settled

/-- Deliveries are numbered in the order of their arrival; one that is left alone has
no task.  `subscribed` tells whether `channel.consume` has been called. -/
structure BrokerState (Error : Type) where
  failure : Option (BrokerError Error)
  hasConnection : Bool
  hasConsumer : Bool
  consumerTag : Option ConsumerTag
  active : List ℕ
  draining : Bool
  closing : Bool
  subscribed : Bool
  arrived : ℕ
  tasks : ℕ → Option (TaskPhase Error)

def BrokerState.initial (Error : Type) : BrokerState Error :=
  { failure := none
    hasConnection := false
    hasConsumer := false
    consumerTag := none
    active := []
    draining := false
    closing := false
    subscribed := false
    arrived := 0
    tasks := fun _ => none }

/-- What is called of the broker, of the handlers and of the server. -/
inductive BrokerEntry (Error : Type) where
  | stopped
  | arrived (tag : ℕ) (content : JsString)
  | started (tag : ℕ)
  | returned (tag : ℕ) (result : Except (Option Error) Action)
  | acked (tag : ℕ)
  | rejected (tag : ℕ)
  | registered (consumer : ConsumerTag)
  | cancelled (consumer : ConsumerTag)
  | closed

variable {Error : Type}

/-! ### Deliveries -/

namespace BrokerState

def taskFailure : Option Error → BrokerError Error
  | some error => .raised error
  | none => .message "Job delivery failed"

def setTask (broker : BrokerState Error) (tag : ℕ) (phase : TaskPhase Error) : BrokerState Error :=
  { broker with tasks := Function.update broker.tasks tag (some phase) }

def addTask (broker : BrokerState Error) (phase : TaskPhase Error) : BrokerState Error :=
  { broker.setTask broker.arrived phase with
    active := broker.active ++ [broker.arrived]
    arrived := broker.arrived + 1 }

/-- The callback of `channel.consume` with a message; `thrown` is what the rejection of
a malformed one throws, if anything. -/
def deliver (broker : BrokerState Error) (content : JsString) (thrown : Option (Option Error)) :
    Option (BrokerState Error × List (BrokerEntry Error)) :=
  if broker.subscribed then
    if broker.draining then
      some ({ broker with arrived := broker.arrived + 1 }, [.arrived broker.arrived content])
    else
      match readEnvelope content with
      | none =>
          some (broker.addTask (.leaving (thrown.map taskFailure)),
            [.arrived broker.arrived content, .rejected broker.arrived])
      | some _ =>
          some (broker.addTask .handling,
            [.arrived broker.arrived content, .started broker.arrived])
  else none

def handlerReturns (broker : BrokerState Error) (tag : ℕ)
    (result : Except (Option Error) Action) :
    Option (BrokerState Error × List (BrokerEntry Error)) :=
  match broker.tasks tag with
  | some .handling => some (broker.setTask tag (.returned result), [.returned tag result])
  | _ => none

/-- `handle` goes on after the handler; `thrown` is what `ack` or `reject` throws. -/
def handle (broker : BrokerState Error) (tag : ℕ) (thrown : Option (Option Error)) :
    Option (BrokerState Error × List (BrokerEntry Error)) :=
  match broker.tasks tag with
  | some (.returned (.ok .ack)) =>
      some (broker.setTask tag (.leaving (thrown.map taskFailure)), [.acked tag])
  | some (.returned (.ok .deadLetter)) =>
      some (broker.setTask tag (.leaving (thrown.map taskFailure)), [.rejected tag])
  | some (.returned (.error error)) =>
      some (broker.setTask tag (.leaving (some (taskFailure error))), [])
  | _ => none

def settleTask (broker : BrokerState Error) (tag : ℕ) : Option (BrokerState Error) :=
  match broker.tasks tag with
  | some (.leaving failure) =>
      some { broker.setTask tag .settled with failure := failure.or broker.failure }
  | _ => none

def isSettled (broker : BrokerState Error) (tag : ℕ) : Bool :=
  match broker.tasks tag with
  | some .settled => true
  | _ => false

def deleteTask (broker : BrokerState Error) (tag : ℕ) : Option (BrokerState Error) :=
  if broker.isSettled tag then some { broker with active := broker.active.erase tag } else none

/-! ### What the server reports -/

/-- The callback of `channel.consume` without a message. -/
def consumerCancelled (broker : BrokerState Error) : BrokerState Error :=
  if broker.closing then broker
  else { broker with failure := some (.message "RabbitMQ cancelled the consumer") }

def observeError (broker : BrokerState Error) (error : Error) : BrokerState Error :=
  if broker.closing then broker else { broker with failure := some (.raised error) }

def observeClose (broker : BrokerState Error) : BrokerState Error :=
  if broker.closing then broker
  else
    { broker with
      failure := broker.failure.or (some (.message "RabbitMQ connection or channel closed")) }

end BrokerState

/-! ### Calls of the broker -/

/-- Where a call stops, the broker then, and what it has called. -/
structure Advance (Phase Error : Type) where
  phase : Phase
  broker : BrokerState Error
  added : List (BrokerEntry Error)

def Advance.map {Inner Outer : Type} (wrap : Inner → Outer) (advance : Advance Inner Error) :
    Advance Outer Error :=
  ⟨wrap advance.phase, advance.broker, advance.added⟩

inductive Answer (Error : Type) where
  | resolved
  | rejected (error : Error)

/-- `stopConsuming`, which awaits the tasks that were active when it was called. -/
inductive StopPhase (Error : Type) where
  | waiting (snapshot : List ℕ)
  | cancelling
  | finished (outcome : Except (BrokerError Error) Unit)

def stopConsuming (broker : BrokerState Error) : Advance (StopPhase Error) Error :=
  ⟨.waiting broker.active, { broker with draining := true }, [.stopped]⟩

def StopPhase.step (broker : BrokerState Error) :
    StopPhase Error → Answer Error → Option (Advance (StopPhase Error) Error)
  | .waiting snapshot, .resolved =>
      if snapshot.all broker.isSettled then
        match broker.consumerTag, broker.hasConsumer with
        | some tag, true =>
            some ⟨.cancelling, { broker with consumerTag := none }, [.cancelled tag]⟩
        | _, _ => some ⟨.finished (.ok ()), broker, []⟩
      else none
  | .cancelling, .resolved => some ⟨.finished (.ok ()), broker, []⟩
  | .cancelling, .rejected error =>
      some ⟨.finished (if broker.failure.isSome then .ok () else .error (.raised error)), broker, []⟩
  | _, _ => none

/-- `close`; `pending` is the error that its `finally` throws again. -/
inductive ClosePhase (Error : Type) where
  | stopping (inner : StopPhase Error)
  | waiting (snapshot : List ℕ)
  | closing (pending : Option (BrokerError Error)) (connected : Bool)
  | finished (outcome : Except (BrokerError Error) Unit)

def close (broker : BrokerState Error) : Advance (ClosePhase Error) Error :=
  (stopConsuming { broker with closing := true }).map .stopping

def closeConnection (broker : BrokerState Error) (pending : Option (BrokerError Error)) :
    Advance (ClosePhase Error) Error :=
  ⟨.closing pending broker.hasConnection, broker, if broker.hasConnection then [.closed] else []⟩

def rethrow : Option (BrokerError Error) → Except (BrokerError Error) Unit
  | none => .ok ()
  | some error => .error error

def ClosePhase.step (broker : BrokerState Error) :
    ClosePhase Error → Answer Error → Option (Advance (ClosePhase Error) Error)
  | .stopping (.finished (.ok ())), .resolved => some ⟨.waiting broker.active, broker, []⟩
  | .stopping (.finished (.error error)), .resolved => some (closeConnection broker (some error))
  | .stopping inner, answer => (inner.step broker answer).map (Advance.map .stopping)
  | .waiting snapshot, .resolved =>
      if snapshot.all broker.isSettled then some (closeConnection broker none) else none
  | .closing pending _, .resolved => some ⟨.finished (rethrow pending), broker, []⟩
  | .closing pending true, .rejected error =>
      some ⟨.finished (if broker.failure.isSome then rethrow pending else .error (.raised error)),
        broker, []⟩
  | _, _ => none

/-! ### The worker -/

inductive ConnectStage where
  | dialing
  | openingPublisher
  | openingConsumer
  | assertingFailedQueue
  | assertingQueue
  | prefetching

inductive LoopPhase (Error : Type) where
  | connecting (stage : ConnectStage)
  | connected
  | consuming
  | consumed
  | maintaining
  | dispatching (count : ℕ)
  | delaying
  | finished (outcome : Except (BrokerError Error) Unit)

inductive LoopAnswer (Error : Type) where
  | resolved
  | rejected (error : Error)
  | registered (consumer : ConsumerTag)
  | dispatched (sent : Bool)

namespace LoopPhase

def head (aborted : Bool) (broker : BrokerState Error) : LoopPhase Error :=
  if aborted then .finished (.ok ())
  else
    match broker.failure with
    | some failure => .finished (.error failure)
    | none => .maintaining

def dispatchHead (aborted : Bool) (count : ℕ) : LoopPhase Error :=
  if count < 100 && !aborted then .dispatching count else .delaying

def connectStep (broker : BrokerState Error) : ConnectStage → Advance (LoopPhase Error) Error
  | .dialing => ⟨.connecting .openingPublisher, { broker with hasConnection := true }, []⟩
  | .openingPublisher => ⟨.connecting .openingConsumer, broker, []⟩
  | .openingConsumer => ⟨.connecting .assertingFailedQueue, { broker with hasConsumer := true }, []⟩
  | .assertingFailedQueue => ⟨.connecting .assertingQueue, broker, []⟩
  | .assertingQueue => ⟨.connecting .prefetching, broker, []⟩
  | .prefetching => ⟨.connected, broker, []⟩

/-- `consume` up to its await, or `return` if the worker has been stopped. -/
def afterConnect (aborted : Bool) (broker : BrokerState Error) : Advance (LoopPhase Error) Error :=
  if aborted then ⟨.finished (.ok ()), broker, []⟩
  else if broker.hasConsumer then ⟨.consuming, { broker with subscribed := true }, []⟩
  else ⟨.finished (.error (.message "RabbitMQ is not connected")), broker, []⟩

/-- An abort ends the delay with a rejection, which is not thrown then. -/
def step (aborted : Bool) (broker : BrokerState Error) :
    LoopPhase Error → LoopAnswer Error → Option (Advance (LoopPhase Error) Error)
  | .connecting stage, .resolved => some (connectStep broker stage)
  | .connecting _, .rejected error => some ⟨.finished (.error (.raised error)), broker, []⟩
  | .connected, .resolved => some (afterConnect aborted broker)
  | .consuming, .registered consumer =>
      some ⟨.consumed, { broker with consumerTag := some consumer }, [.registered consumer]⟩
  | .consuming, .rejected error => some ⟨.finished (.error (.raised error)), broker, []⟩
  | .consumed, .resolved => some ⟨head aborted broker, broker, []⟩
  | .maintaining, .resolved => some ⟨dispatchHead aborted 0, broker, []⟩
  | .maintaining, .rejected error => some ⟨.finished (.error (.raised error)), broker, []⟩
  | .dispatching count, .dispatched true =>
      some ⟨dispatchHead aborted (count + 1), broker, []⟩
  | .dispatching _, .dispatched false => some ⟨.delaying, broker, []⟩
  | .dispatching _, .rejected error => some ⟨.finished (.error (.raised error)), broker, []⟩
  | .delaying, .resolved => some ⟨head aborted broker, broker, []⟩
  | .delaying, .rejected error =>
      some ⟨if aborted then head aborted broker else .finished (.error (.raised error)), broker, []⟩
  | _, _ => none

def isFinished : LoopPhase Error → Bool
  | .finished _ => true
  | _ => false

end LoopPhase

/-- `drain`; `joined` tells whether `running` was set when it was awaited. -/
inductive DrainPhase (Error : Type) where
  | stopping (inner : StopPhase Error)
  | joining (joined : Bool)
  | closing (pending : Option (BrokerError Error)) (inner : ClosePhase Error)
  | finished (outcome : Except (BrokerError Error) Unit)

def DrainPhase.step (broker : BrokerState Error) (loop : Option (LoopPhase Error)) :
    DrainPhase Error → Answer Error → Option (Advance (DrainPhase Error) Error)
  | .stopping (.finished (.ok ())), .resolved => some ⟨.joining loop.isSome, broker, []⟩
  | .stopping (.finished (.error error)), .resolved =>
      some ((close broker).map (.closing (some error)))
  | .stopping inner, answer => (inner.step broker answer).map (Advance.map .stopping)
  | .joining joined, .resolved =>
      if !joined || loop.any LoopPhase.isFinished then some ((close broker).map (.closing none))
      else none
  | .closing pending (.finished (.ok ())), .resolved =>
      some ⟨.finished (rethrow pending), broker, []⟩
  | .closing _ (.finished (.error error)), .resolved => some ⟨.finished (.error error), broker, []⟩
  | .closing pending inner, answer =>
      (inner.step broker answer).map (Advance.map (.closing pending))
  | _, _ => none

/-! ### The system -/

inductive BrokerCall (Error : Type) where
  | stopConsuming (phase : StopPhase Error)
  | close (phase : ClosePhase Error)

def BrokerCall.step (broker : BrokerState Error) :
    BrokerCall Error → Answer Error → Option (Advance (BrokerCall Error) Error)
  | .stopConsuming phase, answer => (phase.step broker answer).map (Advance.map .stopConsuming)
  | .close phase, answer => (phase.step broker answer).map (Advance.map .close)

/-- The stop signal of the worker is aborted as soon as `drain` is called. -/
structure WorkerProcess (Error : Type) where
  broker : BrokerState Error
  loop : Option (LoopPhase Error)
  drain : Option (DrainPhase Error)
  calls : List (BrokerCall Error)
  log : List (BrokerEntry Error)

inductive WorkerInput (Error : Type) where
  | run
  | close
  | loopAnswered (answer : LoopAnswer Error)
  | drainAnswered (answer : Answer Error)
  | delivered (content : JsString) (thrown : Option (Option Error))
  | handlerReturned (tag : ℕ) (result : Except (Option Error) Action)
  | handled (tag : ℕ) (thrown : Option (Option Error))
  | taskSettled (tag : ℕ)
  | taskDeleted (tag : ℕ)
  | consumerCancelled
  | observedError (error : Error)
  | observedClose
  | stopConsumingCalled
  | closeCalled
  | callAnswered (index : ℕ) (answer : Answer Error)

namespace WorkerProcess

def initial (Error : Type) : WorkerProcess Error :=
  { broker := .initial Error
    loop := none
    drain := none
    calls := []
    log := [] }

def update (process : WorkerProcess Error)
    (result : BrokerState Error × List (BrokerEntry Error)) : WorkerProcess Error :=
  { process with broker := result.1, log := process.log ++ result.2 }

/-- Another call of `run` or `close` returns the promise of the first. -/
def step (process : WorkerProcess Error) : WorkerInput Error → Option (WorkerProcess Error)
  | .run => some { process with loop := process.loop.or (some (.connecting .dialing)) }
  | .close =>
      match process.drain with
      | some _ => some process
      | none =>
          let called := stopConsuming process.broker
          some
            { process.update (called.broker, called.added) with
              drain := some (.stopping called.phase) }
  | .loopAnswered answer =>
      match process.loop with
      | none => none
      | some phase =>
          (phase.step process.drain.isSome process.broker answer).map (fun advance =>
            { process.update (advance.broker, advance.added) with loop := some advance.phase })
  | .drainAnswered answer =>
      match process.drain with
      | none => none
      | some phase =>
          (phase.step process.broker process.loop answer).map (fun advance =>
            { process.update (advance.broker, advance.added) with drain := some advance.phase })
  | .delivered content thrown => (process.broker.deliver content thrown).map process.update
  | .handlerReturned tag result => (process.broker.handlerReturns tag result).map process.update
  | .handled tag thrown => (process.broker.handle tag thrown).map process.update
  | .taskSettled tag =>
      (process.broker.settleTask tag).map (fun broker => process.update (broker, []))
  | .taskDeleted tag =>
      (process.broker.deleteTask tag).map (fun broker => process.update (broker, []))
  | .consumerCancelled =>
      if process.broker.subscribed then
        some (process.update (process.broker.consumerCancelled, []))
      else none
  | .observedError error =>
      if process.broker.hasConnection then
        some (process.update (process.broker.observeError error, []))
      else none
  | .observedClose =>
      if process.broker.hasConnection then
        some (process.update (process.broker.observeClose, []))
      else none
  | .stopConsumingCalled =>
      let called := stopConsuming process.broker
      some
        { process.update (called.broker, called.added) with
          calls := process.calls ++ [.stopConsuming called.phase] }
  | .closeCalled =>
      let called := close process.broker
      some
        { process.update (called.broker, called.added) with
          calls := process.calls ++ [.close called.phase] }
  | .callAnswered index answer =>
      match process.calls[index]? with
      | none => none
      | some call =>
          (call.step process.broker answer).map (fun advance =>
            { process.update (advance.broker, advance.added) with
              calls := process.calls.set index advance.phase })

end WorkerProcess

end ModelMux.Queue
