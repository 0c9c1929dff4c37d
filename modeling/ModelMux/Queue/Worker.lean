/-
The job system: the store, the broker and any number of workers.

A worker runs two kinds of tasks.  A dispatcher keeps the selected row locked
in an open transaction while it publishes; a delivery runs `execute` up to the
next awaited call.  Each step below is one statement, one broker action or one
failure, so any interleaving and a crash between any two statements is a run.
The broker is as hostile as the network allows: it may add any text to the
queue at any time, which covers duplicates, late confirmations and forgeries,
but it does not lose a message that is not acknowledged or rejected.
-/

import ModelMux.Queue.AttemptClaims
import ModelMux.Queue.Envelope

namespace ModelMux.Queue

variable {Data Result Digest : Type}

/-! ### execute, between two awaited calls -/

inductive Action where
  | ack
  | deadLetter
deriving Repr, DecidableEq

inductive ExecutePhase (Data Result : Type) where
  | claiming
  | processing (job : ProcessingJob Data)
  | failing (job : ProcessingJob Data) (failure : JobProcessingError)
  | completing (job : ProcessingJob Data) (response : Result)
  | returned (action : Action)
  | thrown

def afterClaim : Option (ProcessingJob Data) → ExecutePhase Data Result
  | none => .returned .ack
  | some job => .processing job

inductive ProcessorOutcome (Result : Type) where
  | response (response : Result)
  | processingError (error : JobProcessingError)
  | otherError

/-- An error that is not a `JobProcessingError` becomes a permanent `JOB_FAILED`. -/
def afterProcessor (job : ProcessingJob Data) :
    ProcessorOutcome Result → ExecutePhase Data Result
  | .response response => .completing job response
  | .processingError error => .failing job error
  | .otherError => .failing job { code := .jobFailed, retryable := false }

def afterFail (status : Option FailStatus) : ExecutePhase Data Result :=
  .returned (if status = some .failed then .deadLetter else .ack)

def afterComplete : ExecutePhase Data Result := .returned .ack

/-! ### System states -/

inductive DispatchPhase where
  | selected
  | published
  | marked
deriving Repr, DecidableEq

/-- A dispatcher between `BEGIN` and `COMMIT`; its row is locked. -/
structure Transaction where
  options : JobStoreOptions
  now : Timestamp
  message : JobEnvelope
  phase : DispatchPhase

structure Delivery (Data Result : Type) where
  tag : Nat
  options : JobStoreOptions
  content : JsString
  message : JobEnvelope
  deliveredAt : Timestamp
  attached : Bool
  phase : ExecutePhase Data Result

structure SystemState (Data Result Digest : Type) where
  clock : Timestamp
  store : StoreState Data Result Digest
  transactions : List Transaction
  ready : List JsString
  deliveries : List (Delivery Data Result)
  nextTag : Nat

namespace SystemState

def initial (clock : Timestamp) : SystemState Data Result Digest :=
  { clock := clock
    store := StoreState.initial
    transactions := []
    ready := []
    deliveries := []
    nextTag := 0 }

def locked (state : SystemState Data Result Digest) : List JobId :=
  state.transactions.map (fun transaction => transaction.message.id)

/-- A message is unacknowledged while it is queued or belongs to a delivery on
an open connection. -/
def HoldsUnacknowledged (state : SystemState Data Result Digest) (message : JobEnvelope) : Prop :=
  stringifyEnvelope message ∈ state.ready ∨
    ∃ delivery ∈ state.deliveries,
      delivery.attached = true ∧ delivery.content = stringifyEnvelope message

end SystemState

/-! ### Steps -/

inductive WorkerEvent (Data Result : Type) where
  | tick
  | gateway (event : StoreEvent Data Result)
  | maintain (event : StoreEvent Data Result)
  | begin
  | publish
  | mark
  | rollback
  | commit (event : StoreEvent Data Result)
  | inject (content : JsString)
  | deliver (tag : Nat) (message : JobEnvelope)
  | rejectMalformed (content : JsString)
  | claim (tag : Nat) (message : JobEnvelope) (event : StoreEvent Data Result) (reported : Bool)
  | process (tag : Nat)
  | complete (tag : Nat) (message : JobEnvelope) (response : Result)
      (event : StoreEvent Data Result) (reported : Bool)
  | fail (tag : Nat) (message : JobEnvelope) (event : StoreEvent Data Result) (reported : Bool)
  | statementError (tag : Nat) (phase : ExecutePhase Data Result)
  | settle (tag : Nat) (message : JobEnvelope) (action : Action)
  | detach (tag : Nat)
  | crash (tag : Nat)

def WorkerEvent.storeEvents : WorkerEvent Data Result → List (StoreEvent Data Result)
  | .gateway event | .maintain event | .commit event => [event]
  | .claim _ _ event _ | .complete _ _ _ event _ | .fail _ _ event _ => [event]
  | _ => []

def IsGatewayOp (queue : JsString) : StoreOp Data Result → Prop
  | .insert _ options _ _ _ => options.name = queue
  | .select _ => True
  | .getJob _ _ _ => True
  | _ => False

def IsMaintainOp (queue : JsString) : StoreOp Data Result → Prop
  | .maintainRecover options _ => options.name = queue
  | .maintainDelete options _ => options.name = queue
  | _ => False

/-- The dispatch that a commit makes visible: every other row counts as locked. -/
def commitOp (table : JobTable Data Result Digest) (transaction : Transaction) :
    StoreOp Data Result :=
  .dispatchOne transaction.options transaction.now
    ((table.rows.map JobRow.id).filter (fun id => id ≠ transaction.message.id)) true

section Steps

variable [DecidableEq Digest] (hashing : Hashing Data Digest) (collation : JobId → JobId → Bool)
  (queue : JsString)

inductive WorkerStep : SystemState Data Result Digest → WorkerEvent Data Result →
    SystemState Data Result Digest → Prop
  | tick (state : SystemState Data Result Digest) (later : Timestamp)
      (forward : state.clock ≤ later) :
      WorkerStep state .tick { state with clock := later }
  | gateway (state : SystemState Data Result Digest) {event : StoreEvent Data Result}
      {store : StoreState Data Result Digest} (submits : IsGatewayOp queue event.1)
      (taken : storeStep hashing collation state.store event store) :
      WorkerStep state (.gateway event) { state with store := store }
  | maintain (state : SystemState Data Result Digest) {event : StoreEvent Data Result}
      {store : StoreState Data Result Digest} (maintains : IsMaintainOp queue event.1)
      (taken : storeStep hashing collation state.store event store) :
      WorkerStep state (.maintain event) { state with store := store }
  | begin (state : SystemState Data Result Digest) (options : JobStoreOptions) (now : Timestamp)
      (row : JobRow Data Result Digest) (named : options.name = queue)
      (started : now ≤ state.clock)
      (chosen : dispatchSelect collation options now state.locked state.store.table = some row) :
      WorkerStep state .begin
        { state with
          transactions :=
            { options := options, now := now, message := dispatchMessage row, phase := .selected } ::
              state.transactions }
  | publish (state : SystemState Data Result Digest) (transaction : Transaction)
      (before after : List Transaction)
      (running : state.transactions = before ++ transaction :: after)
      (phase : transaction.phase = .selected) :
      WorkerStep state .publish
        { state with
          transactions := before ++ { transaction with phase := .published } :: after
          ready := stringifyEnvelope transaction.message :: state.ready }
  | mark (state : SystemState Data Result Digest) (transaction : Transaction)
      (before after : List Transaction)
      (running : state.transactions = before ++ transaction :: after)
      (phase : transaction.phase = .published) :
      WorkerStep state .mark
        { state with
          transactions := before ++ { transaction with phase := .marked } :: after }
  | rollback (state : SystemState Data Result Digest) (transaction : Transaction)
      (before after : List Transaction)
      (running : state.transactions = before ++ transaction :: after) (enqueued : Bool) :
      WorkerStep state .rollback
        { state with
          transactions := before ++ after
          ready := if enqueued then stringifyEnvelope transaction.message :: state.ready
            else state.ready }
  | commit (state : SystemState Data Result Digest) (transaction : Transaction)
      (before after : List Transaction)
      (running : state.transactions = before ++ transaction :: after)
      (phase : transaction.phase = .marked) :
      WorkerStep state
        (.commit (commitOp state.store.table transaction, .dispatched (some transaction.message)))
        { state with
          store := { state.store with
            table := dispatchMark transaction.message.id state.store.table }
          transactions := before ++ after }
  | inject (state : SystemState Data Result Digest) (content : JsString) :
      WorkerStep state (.inject content) { state with ready := content :: state.ready }
  | deliver (state : SystemState Data Result Digest) (options : JobStoreOptions)
      (content : JsString) (message : JobEnvelope) (before after : List JsString)
      (named : options.name = queue) (queued : state.ready = before ++ content :: after)
      (wellFormed : readEnvelope content = some message) :
      WorkerStep state (.deliver state.nextTag message)
        { state with
          ready := before ++ after
          deliveries :=
            { tag := state.nextTag
              options := options
              content := content
              message := message
              deliveredAt := state.clock
              attached := true
              phase := .claiming } :: state.deliveries
          nextTag := state.nextTag + 1 }
  | rejectMalformed (state : SystemState Data Result Digest) (content : JsString)
      (before after : List JsString) (queued : state.ready = before ++ content :: after)
      (malformed : readEnvelope content = none) :
      WorkerStep state (.rejectMalformed content) { state with ready := before ++ after }
  | claim (state : SystemState Data Result Digest) (delivery : Delivery Data Result)
      (before after : List (Delivery Data Result)) (now : Timestamp)
      (job : Option (ProcessingJob Data)) {store : StoreState Data Result Digest}
      (reported : Bool) (running : state.deliveries = before ++ delivery :: after)
      (phase : delivery.phase = .claiming) (received : delivery.deliveredAt ≤ now)
      (started : now ≤ state.clock)
      (unlocked : ∀ row ∈ state.store.table.rows,
        claimWhere delivery.options now delivery.message row = true →
          row.id ∉ state.locked)
      (taken : storeStep hashing collation state.store
        (.claim delivery.options now delivery.message, .claimed job) store) :
      WorkerStep state
        (.claim delivery.tag delivery.message
          (.claim delivery.options now delivery.message, .claimed job) reported)
        { state with
          store := store
          deliveries := before ++
            { delivery with phase := if reported then afterClaim job else .thrown } :: after }
  | process (state : SystemState Data Result Digest) (delivery : Delivery Data Result)
      (before after : List (Delivery Data Result)) (job : ProcessingJob Data)
      (outcome : ProcessorOutcome Result)
      (running : state.deliveries = before ++ delivery :: after)
      (phase : delivery.phase = .processing job) :
      WorkerStep state (.process delivery.tag)
        { state with
          deliveries := before ++ { delivery with phase := afterProcessor job outcome } :: after }
  | complete (state : SystemState Data Result Digest) (delivery : Delivery Data Result)
      (before after : List (Delivery Data Result)) (now : Timestamp) (job : ProcessingJob Data)
      (response : Result) {store : StoreState Data Result Digest} (reported : Bool)
      (running : state.deliveries = before ++ delivery :: after)
      (phase : delivery.phase = .completing job response)
      (taken : storeStep hashing collation state.store
        (.complete delivery.options now delivery.message response, .done) store) :
      WorkerStep state
        (.complete delivery.tag delivery.message response
          (.complete delivery.options now delivery.message response, .done) reported)
        { state with
          store := store
          deliveries := before ++
            { delivery with phase := if reported then afterComplete else .thrown } :: after }
  | fail (state : SystemState Data Result Digest) (delivery : Delivery Data Result)
      (before after : List (Delivery Data Result)) (now : Timestamp) (job : ProcessingJob Data)
      (failure : JobProcessingError) (status : Option FailStatus)
      {store : StoreState Data Result Digest} (reported : Bool)
      (running : state.deliveries = before ++ delivery :: after)
      (phase : delivery.phase = .failing job failure)
      (taken : storeStep hashing collation state.store
        (.fail delivery.options now delivery.message failure, .failed status) store) :
      WorkerStep state
        (.fail delivery.tag delivery.message
          (.fail delivery.options now delivery.message failure, .failed status) reported)
        { state with
          store := store
          deliveries := before ++
            { delivery with phase := if reported then afterFail status else .thrown } :: after }
  | statementError (state : SystemState Data Result Digest) (delivery : Delivery Data Result)
      (before after : List (Delivery Data Result))
      (running : state.deliveries = before ++ delivery :: after)
      (awaiting : delivery.phase = .claiming ∨
        (∃ job failure, delivery.phase = .failing job failure) ∨
        ∃ job response, delivery.phase = .completing job response) :
      WorkerStep state (.statementError delivery.tag delivery.phase)
        { state with deliveries := before ++ { delivery with phase := .thrown } :: after }
  | settle (state : SystemState Data Result Digest) (delivery : Delivery Data Result)
      (before after : List (Delivery Data Result)) (action : Action)
      (running : state.deliveries = before ++ delivery :: after)
      (phase : delivery.phase = .returned action) :
      WorkerStep state (.settle delivery.tag delivery.message action)
        { state with deliveries := before ++ after }
  | detach (state : SystemState Data Result Digest) (delivery : Delivery Data Result)
      (before after : List (Delivery Data Result))
      (running : state.deliveries = before ++ delivery :: after)
      (connected : delivery.attached = true) :
      WorkerStep state (.detach delivery.tag)
        { state with
          ready := delivery.content :: state.ready
          deliveries := before ++ { delivery with attached := false } :: after }
  | crash (state : SystemState Data Result Digest) (delivery : Delivery Data Result)
      (before after : List (Delivery Data Result))
      (running : state.deliveries = before ++ delivery :: after) :
      WorkerStep state (.crash delivery.tag)
        { state with
          ready := if delivery.attached then delivery.content :: state.ready else state.ready
          deliveries := before ++ after }

end Steps

end ModelMux.Queue
