/-
Publications over a confirm channel.

`publish` settles with the first of four events: the confirmation, the return
of an unroutable message, the end of the channel and the timeout; each of them
takes the handlers away.  The broker returns a message before it confirms it.
The dispatcher commits after a resolved publication only.  Seen without the
channel the system is the worker system, in which a published message is in the
queue.
-/

import ModelMux.Queue.WorkerHistory

namespace ModelMux.Queue

variable {Data Result Digest : Type}

/-! ### One publication -/

inductive Wire where
  | unsent
  | sent
  | routed
  | returning
  | returned
deriving Repr, DecidableEq

inductive PublishError where
  | notConnected
  | sendFailed
  | unroutable
  | channelClosed
  | confirmTimedOut
  | nacked
deriving Repr, DecidableEq

/-- The promise of a publication; `listening` stands for its timer and handlers. -/
structure Publication where
  worker : Nat
  wire : Wire
  answered : Bool
  listening : Bool
  outcome : Option (Except PublishError Unit)

def Publication.finish (publication : Publication) (result : Except PublishError Unit) :
    Publication :=
  { publication with listening := false, outcome := publication.outcome.or (some result) }

def messageId (message : JobEnvelope) : JsString :=
  message.id ++ JsString.ofString "/" ++ (Json.integerToken message.attempt).text

/-! ### Dispatchers -/

inductive DispatchStage where
  | publishing
  | updated
  | committed
  | rolledBack
deriving Repr, DecidableEq

structure Dispatch where
  options : JobStoreOptions
  now : Timestamp
  message : JobEnvelope
  publication : Publication
  stage : DispatchStage

namespace Dispatch

def finish (dispatch : Dispatch) (result : Except PublishError Unit) : Dispatch :=
  { dispatch with publication := dispatch.publication.finish result }

def onWire (dispatch : Dispatch) (wire : Wire) : Dispatch :=
  { dispatch with publication := { dispatch.publication with wire := wire } }

/-- The handlers of `return` on the channel of a worker. -/
def onReturn (worker : Nat) (returned : JsString) (dispatch : Dispatch) : Dispatch :=
  if dispatch.publication.listening && dispatch.publication.worker = worker &&
      messageId dispatch.message = returned then
    dispatch.finish (.error .unroutable)
  else dispatch

def onClose (worker : Nat) (dispatch : Dispatch) : Dispatch :=
  if dispatch.publication.listening && dispatch.publication.worker = worker then
    dispatch.finish (.error .channelClosed)
  else dispatch

/-- The open transaction of a dispatcher, with the message in the queue once it is routed. -/
def transaction? (dispatch : Dispatch) : Option Transaction :=
  match dispatch.stage with
  | .publishing =>
      some
        { options := dispatch.options
          now := dispatch.now
          message := dispatch.message
          phase := if dispatch.publication.wire = .routed then .published else .selected }
  | .updated =>
      some
        { options := dispatch.options
          now := dispatch.now
          message := dispatch.message
          phase := .marked }
  | .committed => none
  | .rolledBack => none

end Dispatch

/-- The system with its dispatchers in the place of the transactions. -/
structure OutboxState (Data Result Digest : Type) where
  system : SystemState Data Result Digest
  dispatches : List Dispatch
  closed : List Nat

namespace OutboxState

def initial (clock : Timestamp) : OutboxState Data Result Digest :=
  ⟨SystemState.initial clock, [], []⟩

def view (state : OutboxState Data Result Digest) : SystemState Data Result Digest :=
  { state.system with transactions := state.dispatches.filterMap Dispatch.transaction? }

end OutboxState

inductive OutboxEvent (Data Result : Type) where
  | other (event : WorkerEvent Data Result)
  | begin
  | publishThrows
  | send
  | route (live : Bool) (content : JsString)
  | unroute
  | returned
  | confirm (positive : Bool)
  | timeout
  | close (worker : Nat)
  | update
  | commit (event : StoreEvent Data Result)
  | rollback

def OutboxEvent.workerEvents : OutboxEvent Data Result → List (WorkerEvent Data Result)
  | .other event => [event]
  | .begin => [.begin]
  | .route live content => if live then [.publish] else [.inject content]
  | .update => [.mark]
  | .commit event => [.commit event]
  | .rollback => [.rollback]
  | _ => []

section Steps

variable [DecidableEq Digest] (hashing : Hashing Data Digest) (collation : JobId → JobId → Bool)
  (queue : JsString)

inductive OutboxStep : OutboxState Data Result Digest → OutboxEvent Data Result →
    OutboxState Data Result Digest → Prop
  | other (state : OutboxState Data Result Digest) {event : WorkerEvent Data Result}
      {next : SystemState Data Result Digest}
      (taken : WorkerStep hashing collation queue state.view event next)
      (apart : next.transactions = state.view.transactions) :
      OutboxStep state (.other event) { state with system := next }
  | begin (state : OutboxState Data Result Digest) (worker : Nat) (options : JobStoreOptions)
      (now : Timestamp) (row : JobRow Data Result Digest) (named : options.name = queue)
      (started : now ≤ state.system.clock)
      (chosen : dispatchSelect collation options now state.view.locked state.system.store.table =
        some row) :
      OutboxStep state .begin
        { state with
          dispatches :=
            { options := options
              now := now
              message := dispatchMessage row
              publication := ⟨worker, .unsent, false, false, none⟩
              stage := .publishing } :: state.dispatches }
  | publishThrows (state : OutboxState Data Result Digest) (dispatch : Dispatch)
      (before after : List Dispatch) (error : PublishError)
      (running : state.dispatches = before ++ dispatch :: after)
      (unsent : dispatch.publication.wire = .unsent) (waiting : dispatch.publication.outcome = none)
      (thrown : error = .notConnected ∨ error = .sendFailed) :
      OutboxStep state .publishThrows
        { state with dispatches := before ++ dispatch.finish (.error error) :: after }
  | send (state : OutboxState Data Result Digest) (dispatch : Dispatch)
      (before after : List Dispatch) (running : state.dispatches = before ++ dispatch :: after)
      (unsent : dispatch.publication.wire = .unsent) (waiting : dispatch.publication.outcome = none)
      (connected : dispatch.publication.worker ∉ state.closed) :
      OutboxStep state .send
        { state with
          dispatches := before ++
            { dispatch with
              publication := { dispatch.publication with wire := .sent, listening := true } } ::
                after }
  | route (state : OutboxState Data Result Digest) (dispatch : Dispatch)
      (before after : List Dispatch) (running : state.dispatches = before ++ dispatch :: after)
      (sent : dispatch.publication.wire = .sent) :
      OutboxStep state
        (.route (dispatch.stage = .publishing) (stringifyEnvelope dispatch.message))
        { state with
          system := { state.system with
            ready := stringifyEnvelope dispatch.message :: state.system.ready }
          dispatches := before ++ dispatch.onWire .routed :: after }
  | unroute (state : OutboxState Data Result Digest) (dispatch : Dispatch)
      (before after : List Dispatch) (running : state.dispatches = before ++ dispatch :: after)
      (sent : dispatch.publication.wire = .sent) :
      OutboxStep state .unroute
        { state with
          dispatches := before ++ dispatch.onWire .returning :: after }
  | returned (state : OutboxState Data Result Digest) (dispatch : Dispatch)
      (before after : List Dispatch) (running : state.dispatches = before ++ dispatch :: after)
      (returning : dispatch.publication.wire = .returning)
      (connected : dispatch.publication.worker ∉ state.closed) :
      OutboxStep state .returned
        { state with
          dispatches :=
            (before ++ dispatch.onWire .returned :: after).map
              (Dispatch.onReturn dispatch.publication.worker (messageId dispatch.message)) }
  | confirmed (state : OutboxState Data Result Digest) (dispatch : Dispatch)
      (before after : List Dispatch) (running : state.dispatches = before ++ dispatch :: after)
      (unanswered : dispatch.publication.answered = false)
      (decided : dispatch.publication.wire = .routed ∨ dispatch.publication.wire = .returned)
      (connected : dispatch.publication.worker ∉ state.closed) :
      OutboxStep state (.confirm true)
        { state with
          dispatches := before ++
            { dispatch with
              publication := { dispatch.publication.finish (.ok ()) with answered := true } } ::
                after }
  | refused (state : OutboxState Data Result Digest) (dispatch : Dispatch)
      (before after : List Dispatch) (running : state.dispatches = before ++ dispatch :: after)
      (unanswered : dispatch.publication.answered = false)
      (sent : dispatch.publication.wire ≠ .unsent) :
      OutboxStep state (.confirm false)
        { state with
          dispatches := before ++
            { dispatch with
              publication :=
                { dispatch.publication.finish (.error .nacked) with answered := true } } ::
                after }
  | timeout (state : OutboxState Data Result Digest) (dispatch : Dispatch)
      (before after : List Dispatch) (running : state.dispatches = before ++ dispatch :: after)
      (armed : dispatch.publication.listening = true) :
      OutboxStep state .timeout
        { state with dispatches := before ++ dispatch.finish (.error .confirmTimedOut) :: after }
  | close (state : OutboxState Data Result Digest) (worker : Nat) :
      OutboxStep state (.close worker)
        { state with
          dispatches := state.dispatches.map (Dispatch.onClose worker)
          closed := worker :: state.closed }
  | update (state : OutboxState Data Result Digest) (dispatch : Dispatch)
      (before after : List Dispatch) (running : state.dispatches = before ++ dispatch :: after)
      (stage : dispatch.stage = .publishing)
      (resolved : dispatch.publication.outcome = some (.ok ())) :
      OutboxStep state .update
        { state with dispatches := before ++ { dispatch with stage := .updated } :: after }
  | commit (state : OutboxState Data Result Digest) (dispatch : Dispatch)
      (before after : List Dispatch) (running : state.dispatches = before ++ dispatch :: after)
      (stage : dispatch.stage = .updated) :
      OutboxStep state
        (.commit
          (.dispatchOne dispatch.options dispatch.now
              ((state.system.store.table.rows.map JobRow.id).filter
                (fun id => id ≠ dispatch.message.id)) true,
            .dispatched (some dispatch.message)))
        { state with
          system := { state.system with
            store := { state.system.store with
              table := dispatchMark dispatch.message.id state.system.store.table } }
          dispatches := before ++ { dispatch with stage := .committed } :: after }
  | rollback (state : OutboxState Data Result Digest) (dispatch : Dispatch)
      (before after : List Dispatch) (running : state.dispatches = before ++ dispatch :: after)
      (started : dispatch.stage = .publishing ∨ dispatch.stage = .updated) :
      OutboxStep state .rollback
        { state with dispatches := before ++ { dispatch with stage := .rolledBack } :: after }

end Steps

/-! ### Sound publications -/

structure DispatchSound (dispatch : Dispatch) : Prop where
  resolved : dispatch.publication.outcome = some (.ok ()) → dispatch.publication.wire = .routed
  returned : dispatch.publication.wire = .returned →
    ∃ error, dispatch.publication.outcome = some (.error error)
  listening : dispatch.publication.listening = true → dispatch.publication.outcome = none
  heard : dispatch.publication.wire ≠ .unsent → dispatch.publication.outcome = none →
    dispatch.publication.listening = true
  marked : dispatch.stage = .updated ∨ dispatch.stage = .committed →
    dispatch.publication.outcome = some (.ok ())

namespace DispatchSound

variable {dispatch : Dispatch}

theorem reject (sound : DispatchSound dispatch) (error : PublishError) (answered : Bool) :
    DispatchSound
      { dispatch with
        publication := { dispatch.publication.finish (.error error) with answered := answered } } := by
  refine
    { resolved := ?_, returned := ?_, listening := ?_, heard := ?_, marked := ?_ }
  · intro ok
    apply sound.resolved
    rcases Option.or_eq_some_iff.mp ok with first | ⟨_, impossible⟩
    · exact first
    · cases impossible
  · intro wire
    obtain ⟨first, known⟩ := sound.returned wire
    exact ⟨first, by simp [Publication.finish, known]⟩
  · intro impossible
    cases impossible
  · intro _ pending
    simp [Publication.finish] at pending
  · intro stage
    simp [Publication.finish, sound.marked stage]

theorem onReturn (sound : DispatchSound dispatch) (worker : Nat) (returned : JsString) :
    DispatchSound (dispatch.onReturn worker returned) := by
  unfold Dispatch.onReturn
  split
  · exact sound.reject .unroutable dispatch.publication.answered
  · exact sound

theorem onClose (sound : DispatchSound dispatch) (worker : Nat) :
    DispatchSound (dispatch.onClose worker) := by
  unfold Dispatch.onClose
  split
  · exact sound.reject .channelClosed dispatch.publication.answered
  · exact sound

/-- The handler of the returned message is in place, or its promise was rejected before. -/
theorem ownReturn (sound : DispatchSound dispatch)
    (returning : dispatch.publication.wire = .returning) :
    DispatchSound
      (Dispatch.onReturn dispatch.publication.worker (messageId dispatch.message)
        (dispatch.onWire .returned)) := by
  cases settled : dispatch.publication.outcome with
  | none =>
      have listening := sound.heard (by simp [returning]) settled
      have pending : dispatch.stage ≠ .updated ∧ dispatch.stage ≠ .committed := by
        constructor
        · intro stage
          rw [sound.marked (.inl stage)] at settled
          cases settled
        · intro stage
          rw [sound.marked (.inr stage)] at settled
          cases settled
      simp only [Dispatch.onReturn, Dispatch.onWire, listening, decide_true, Bool.and_self, if_true]
      refine
        { resolved := ?_, returned := ?_, listening := ?_, heard := ?_, marked := ?_ }
      · simp [Dispatch.finish, Publication.finish, settled]
      · intro _
        exact ⟨.unroutable, by simp [Dispatch.finish, Publication.finish, settled]⟩
      · intro impossible
        cases impossible
      · simp [Dispatch.finish, Publication.finish, settled]
      · rintro (stage | stage)
        · exact absurd stage pending.1
        · exact absurd stage pending.2
  | some result =>
      have silent : dispatch.publication.listening = false := by
        cases listening : dispatch.publication.listening with
        | false => rfl
        | true =>
            rw [sound.listening listening] at settled
            cases settled
      simp only [Dispatch.onReturn, Dispatch.onWire, silent, Bool.false_and, Bool.false_eq_true, if_false]
      have failed : ∃ error, dispatch.publication.outcome = some (.error error) := by
        cases result with
        | error error => exact ⟨error, settled⟩
        | ok =>
            have routed := sound.resolved settled
            rw [returning] at routed
            cases routed
      obtain ⟨error, known⟩ := failed
      refine
        { resolved := ?_, returned := ?_, listening := ?_, heard := ?_, marked := sound.marked }
      · intro ok
        rw [known] at ok
        cases ok
      · intro _
        exact ⟨error, known⟩
      · intro impossible
        cases impossible
      · intro _ pending
        rw [known] at pending
        cases pending

end DispatchSound

def OutboxSound (state : OutboxState Data Result Digest) : Prop :=
  ∀ dispatch ∈ state.dispatches, DispatchSound dispatch

theorem forall_replace {before after : List Dispatch} {dispatch later : Dispatch}
    (all : ∀ other ∈ before ++ dispatch :: after, DispatchSound other) (new : DispatchSound later) :
    ∀ other ∈ before ++ later :: after, DispatchSound other := by
  intro other member
  rw [List.mem_append, List.mem_cons] at member
  rcases member with inBefore | rfl | inAfter
  · exact all other (by simp [inBefore])
  · exact new
  · exact all other (by simp [inAfter])

section Runs

variable [DecidableEq Digest] {hashing : Hashing Data Digest} {collation : JobId → JobId → Bool}
  {queue : JsString} {state next : OutboxState Data Result Digest}
  {event : OutboxEvent Data Result}

theorem outboxStep_sound (sound : OutboxSound state)
    (taken : OutboxStep hashing collation queue state event next) : OutboxSound next := by
  unfold OutboxSound at sound ⊢
  cases taken with
  | other taken apart => exact sound
  | begin worker options now row named started chosen =>
      intro dispatch member
      rcases List.mem_cons.mp member with rfl | old
      · exact
          { resolved := by intro impossible; cases impossible
            returned := by intro impossible; cases impossible
            listening := by intro impossible; cases impossible
            heard := fun sent => absurd rfl sent
            marked := by rintro (impossible | impossible) <;> cases impossible }
      · exact sound dispatch old
  | publishThrows dispatch before after error running unsent waiting thrown =>
      rw [running] at sound
      exact forall_replace sound
        ((sound dispatch (by simp)).reject error dispatch.publication.answered)
  | send dispatch before after running unsent waiting connected =>
      rw [running] at sound
      have old := sound dispatch (by simp)
      refine forall_replace sound
        { resolved := ?_, returned := ?_, listening := ?_, heard := ?_, marked := old.marked }
      · intro ok
        cases waiting.symm.trans ok
      · intro impossible
        cases impossible
      · intro _
        exact waiting
      · intro _ _
        rfl
  | route dispatch before after running sent =>
      rw [running] at sound
      have old := sound dispatch (by simp)
      refine forall_replace sound
        { resolved := fun _ => rfl
          returned := ?_
          listening := old.listening
          heard := fun _ => old.heard (by simp [sent])
          marked := old.marked }
      intro impossible
      cases impossible
  | unroute dispatch before after running sent =>
      rw [running] at sound
      have old := sound dispatch (by simp)
      refine forall_replace sound
        { resolved := ?_
          returned := ?_
          listening := old.listening
          heard := fun _ => old.heard (by simp [sent])
          marked := old.marked }
      · intro ok
        cases sent.symm.trans (old.resolved ok)
      · intro impossible
        cases impossible
  | returned dispatch before after running returning connected =>
      rw [running] at sound
      intro other member
      rw [List.map_append, List.map_cons, List.mem_append, List.mem_cons] at member
      rcases member with inBefore | rfl | inAfter
      · obtain ⟨old, listed, rfl⟩ := List.mem_map.mp inBefore
        exact (sound old (by simp [listed])).onReturn _ _
      · exact (sound dispatch (by simp)).ownReturn returning
      · obtain ⟨old, listed, rfl⟩ := List.mem_map.mp inAfter
        exact (sound old (by simp [listed])).onReturn _ _
  | confirmed dispatch before after running unanswered decided connected =>
      rw [running] at sound
      have old := sound dispatch (by simp)
      refine forall_replace sound
        { resolved := ?_, returned := ?_, listening := ?_, heard := ?_, marked := ?_ }
      · intro ok
        rcases decided with routed | returned
        · exact routed
        · obtain ⟨error, known⟩ := old.returned returned
          simp [Publication.finish, known] at ok
      · intro wire
        obtain ⟨error, known⟩ := old.returned wire
        exact ⟨error, by simp [Publication.finish, known]⟩
      · intro impossible
        cases impossible
      · intro _ pending
        simp [Publication.finish] at pending
      · intro stage
        simp [Publication.finish, old.marked stage]
  | refused dispatch before after running unanswered sent =>
      rw [running] at sound
      exact forall_replace sound ((sound dispatch (by simp)).reject .nacked true)
  | timeout dispatch before after running armed =>
      rw [running] at sound
      exact forall_replace sound
        ((sound dispatch (by simp)).reject .confirmTimedOut dispatch.publication.answered)
  | close worker =>
      intro other member
      obtain ⟨old, listed, rfl⟩ := List.mem_map.mp member
      exact (sound old listed).onClose worker
  | update dispatch before after running stage resolved =>
      rw [running] at sound
      have old := sound dispatch (by simp)
      exact forall_replace sound { old with marked := fun _ => resolved }
  | commit dispatch before after running stage =>
      rw [running] at sound
      have old := sound dispatch (by simp)
      exact forall_replace sound { old with marked := fun _ => old.marked (.inl stage) }
  | rollback dispatch before after running started =>
      rw [running] at sound
      have old := sound dispatch (by simp)
      refine forall_replace sound { old with marked := ?_ }
      rintro (impossible | impossible) <;> cases impossible

/-! ### The channel is invisible -/

omit [DecidableEq Digest] in
theorem transaction_onReturn (worker : Nat) (returned : JsString) (dispatch : Dispatch) :
    (dispatch.onReturn worker returned).transaction? = dispatch.transaction? := by
  unfold Dispatch.onReturn
  split <;> rfl

omit [DecidableEq Digest] in
theorem transaction_onClose (worker : Nat) (dispatch : Dispatch) :
    (dispatch.onClose worker).transaction? = dispatch.transaction? := by
  unfold Dispatch.onClose
  split <;> rfl

omit [DecidableEq Digest] in
theorem view_replace {before after : List Dispatch} {dispatch later : Dispatch}
    (running : state.dispatches = before ++ dispatch :: after)
    (same : later.transaction? = dispatch.transaction?) :
    { state with dispatches := before ++ later :: after }.view = state.view := by
  simp only [OutboxState.view, running, List.filterMap_append, List.filterMap_cons, same]

omit [DecidableEq Digest] in
theorem view_transactions {before after : List Dispatch} {dispatch : Dispatch}
    {transaction : Transaction} (running : state.dispatches = before ++ dispatch :: after)
    (shown : dispatch.transaction? = some transaction) :
    state.view.transactions = before.filterMap Dispatch.transaction? ++
      transaction :: after.filterMap Dispatch.transaction? := by
  simp only [OutboxState.view, running, List.filterMap_append, List.filterMap_cons, shown]

omit [DecidableEq Digest] in
theorem view_map {handler : Dispatch → Dispatch}
    (same : ∀ dispatch, (handler dispatch).transaction? = dispatch.transaction?)
    (dispatches : List Dispatch) :
    (dispatches.map handler).filterMap Dispatch.transaction? =
      dispatches.filterMap Dispatch.transaction? := by
  rw [List.filterMap_map]
  congr 1
  funext dispatch
  exact same dispatch

theorem silent_run (same : next.view = state.view) :
    Run (WorkerStep hashing collation queue) state.view [] next.view := by
  rw [same]
  exact .refl _

/-- A message that is routed belongs to an open transaction, or to none. -/
theorem route_view {before after : List Dispatch} {dispatch : Dispatch}
    (sound : DispatchSound dispatch) (running : state.dispatches = before ++ dispatch :: after)
    (sent : dispatch.publication.wire = .sent) :
    Run (WorkerStep hashing collation queue) state.view
      (OutboxEvent.route (dispatch.stage = .publishing)
        (stringifyEnvelope dispatch.message)).workerEvents
      { state with
        system := { state.system with
          ready := stringifyEnvelope dispatch.message :: state.system.ready }
        dispatches := before ++ dispatch.onWire .routed :: after :
          OutboxState Data Result Digest }.view := by
  have injected (closed : dispatch.transaction? = none)
      (still : (dispatch.onWire .routed).transaction? = none) :
      Run (WorkerStep hashing collation queue) state.view
        [.inject (stringifyEnvelope dispatch.message)]
        { state with
          system := { state.system with
            ready := stringifyEnvelope dispatch.message :: state.system.ready }
          dispatches := before ++ dispatch.onWire .routed :: after :
            OutboxState Data Result Digest }.view := by
    have step : WorkerStep hashing collation queue state.view
        (.inject (stringifyEnvelope dispatch.message))
        { state.view with ready := stringifyEnvelope dispatch.message :: state.view.ready } :=
      .inject state.view _
    simpa [OutboxState.view, running, closed, still] using Run.single step
  cases stage : dispatch.stage with
  | publishing =>
      have shown : dispatch.transaction? =
          some ⟨dispatch.options, dispatch.now, dispatch.message, .selected⟩ := by
        simp [Dispatch.transaction?, stage, sent]
      have step : WorkerStep hashing collation queue state.view .publish _ :=
        .publish state.view _ _ _ (view_transactions running shown) rfl
      simpa [OutboxEvent.workerEvents, OutboxState.view, Dispatch.transaction?, Dispatch.onWire,
        stage] using Run.single step
  | updated => cases sent.symm.trans (sound.resolved (sound.marked (.inl stage)))
  | committed =>
      exact injected (by simp [Dispatch.transaction?, stage])
        (by simp [Dispatch.transaction?, Dispatch.onWire, stage])
  | rolledBack =>
      exact injected (by simp [Dispatch.transaction?, stage])
        (by simp [Dispatch.transaction?, Dispatch.onWire, stage])

theorem outboxStep_view (sound : OutboxSound state)
    (taken : OutboxStep hashing collation queue state event next) :
    Run (WorkerStep hashing collation queue) state.view event.workerEvents next.view := by
  cases taken with
  | @other event later taken apart =>
      have same : { state with system := later }.view = later := by
        simp only [OutboxState.view] at apart ⊢
        rw [← apart]
      rw [same]
      exact .single taken
  | begin worker options now row named started chosen =>
      exact .single (.begin state.view options now row named started chosen)
  | publishThrows dispatch before after error running unsent waiting thrown =>
      exact silent_run (view_replace running rfl)
  | send dispatch before after running unsent waiting connected =>
      exact silent_run (view_replace running (by simp [Dispatch.transaction?, unsent]))
  | route dispatch before after running sent =>
      exact route_view (sound dispatch (by simp [running])) running sent
  | unroute dispatch before after running sent =>
      exact silent_run (view_replace running
        (by simp [Dispatch.transaction?, Dispatch.onWire, sent]))
  | returned dispatch before after running returning connected =>
      apply silent_run
      simp only [OutboxState.view, view_map (transaction_onReturn _ _), running,
        List.filterMap_append, List.filterMap_cons]
      simp [Dispatch.transaction?, Dispatch.onWire, returning]
  | confirmed dispatch before after running unanswered decided connected =>
      exact silent_run (view_replace running rfl)
  | refused dispatch before after running unanswered sent =>
      exact silent_run (view_replace running rfl)
  | timeout dispatch before after running armed =>
      exact silent_run (view_replace running rfl)
  | close worker =>
      apply silent_run
      simp only [OutboxState.view, view_map (transaction_onClose _)]
  | update dispatch before after running stage resolved =>
      have routed := (sound dispatch (by simp [running])).resolved resolved
      have shown : dispatch.transaction? =
          some ⟨dispatch.options, dispatch.now, dispatch.message, .published⟩ := by
        simp [Dispatch.transaction?, stage, routed]
      have step : WorkerStep hashing collation queue state.view .mark _ :=
        .mark state.view _ _ _ (view_transactions running shown) rfl
      simpa [OutboxEvent.workerEvents, OutboxState.view, Dispatch.transaction?] using
        Run.single step
  | commit dispatch before after running stage =>
      have shown : dispatch.transaction? =
          some ⟨dispatch.options, dispatch.now, dispatch.message, .marked⟩ := by
        simp [Dispatch.transaction?, stage]
      have step : WorkerStep hashing collation queue state.view _ _ :=
        .commit state.view _ _ _ (view_transactions running shown) rfl
      have gone : Dispatch.transaction? { dispatch with stage := .committed } = none := rfl
      simpa [OutboxEvent.workerEvents, OutboxState.view, commitOp, List.filterMap_cons, gone] using
        Run.single step
  | rollback dispatch before after running started =>
      obtain ⟨transaction, shown⟩ : ∃ transaction, dispatch.transaction? = some transaction := by
        rcases started with stage | stage <;> simp [Dispatch.transaction?, stage]
      have step : WorkerStep hashing collation queue state.view .rollback _ :=
        .rollback state.view _ _ _ (view_transactions running shown) false
      have gone : Dispatch.transaction? { dispatch with stage := .rolledBack } = none := rfl
      simpa [OutboxEvent.workerEvents, OutboxState.view, List.filterMap_cons, gone] using
        Run.single step

theorem run_outboxSound {clock : Timestamp} {events : List (OutboxEvent Data Result)}
    (run : Run (OutboxStep hashing collation queue) (OutboxState.initial clock) events state) :
    OutboxSound state := by
  apply run.invariant OutboxSound
  · intro dispatch impossible
    cases impossible
  · intro state event next sound taken
    exact outboxStep_sound sound taken

/-- Without the channel a run is a run of the worker system.  What was committed
was routed, and a promise that has settled has no handlers left. -/
theorem outbox_refines {clock : Timestamp} {events : List (OutboxEvent Data Result)}
    (run : Run (OutboxStep hashing collation queue) (OutboxState.initial clock) events state) :
    Run (WorkerStep hashing collation queue) (SystemState.initial clock)
        (events.flatMap OutboxEvent.workerEvents) state.view ∧
      (∀ dispatch ∈ state.dispatches, dispatch.stage = .updated ∨ dispatch.stage = .committed →
        dispatch.publication.wire = .routed) ∧
      (∀ dispatch ∈ state.dispatches,
        dispatch.publication.wire = .returned →
          ∃ error, dispatch.publication.outcome = some (.error error)) ∧
      (∀ dispatch ∈ state.dispatches, dispatch.publication.listening = true →
        dispatch.publication.outcome = none) ∧
      ∀ dispatch ∈ state.dispatches, dispatch.publication.wire ≠ .unsent →
        dispatch.publication.outcome = none → dispatch.publication.listening = true := by
  have sound := run_outboxSound run
  refine ⟨?_, ?_, ?_, ?_, ?_⟩
  · have initially : OutboxSound (OutboxState.initial clock : OutboxState Data Result Digest) := by
      intro dispatch impossible
      cases impossible
    exact run.simulate OutboxSound initially
      (fun _ _ _ sound taken => outboxStep_sound sound taken) OutboxState.view
      OutboxEvent.workerEvents (fun _ _ _ sound taken => outboxStep_view sound taken)
  · intro dispatch member stage
    exact (sound dispatch member).resolved ((sound dispatch member).marked stage)
  · intro dispatch member
    exact (sound dispatch member).returned
  · intro dispatch member
    exact (sound dispatch member).listening
  · intro dispatch member
    exact (sound dispatch member).heard

end Runs

def sampleDispatch (wire : Wire) (listening : Bool) (outcome : Option (Except PublishError Unit))
    (stage : DispatchStage) : Dispatch :=
  { options := sampleOptions
    now := 0
    message := dispatchMessage sampleRow
    publication := ⟨0, wire, outcome.isSome, listening, outcome⟩
    stage := stage }

def sampleOutbox (ready : List JsString) (dispatches : List Dispatch) :
    OutboxState JsString JsString JsString :=
  ⟨sampleSystem sampleStore [] ready [], dispatches, []⟩

/-- A confirmed publication that is marked was published in the worker system. -/
theorem outbox_refines_confirmed :
    Run (WorkerStep sampleHashing JsString.le sampleOptions.name) (SystemState.initial 0)
      [.gateway (.insert 0 sampleOptions 0 sampleUuid sampleSubmission,
          .enqueued (.ok ⟨jobId sampleUuid, sampleSubmission.requestId⟩)),
        .begin, .publish, .mark]
      (sampleSystem sampleStore [.marked] [sampleText] []) := by
  have inserted : OutboxStep sampleHashing JsString.le sampleOptions.name (OutboxState.initial 0)
      (.other (.gateway (.insert 0 sampleOptions 0 sampleUuid sampleSubmission,
        .enqueued (.ok ⟨jobId sampleUuid, sampleSubmission.requestId⟩)))) (sampleOutbox [] []) :=
    .other (OutboxState.initial 0) (.gateway (SystemState.initial 0) rfl ⟨by decide, rfl⟩) rfl
  have begun : OutboxStep sampleHashing JsString.le sampleOptions.name (sampleOutbox [] []) .begin
      (sampleOutbox [] [sampleDispatch .unsent false none .publishing]) :=
    .begin _ 0 sampleOptions 0 sampleRow rfl le_rfl rfl
  have sent : OutboxStep sampleHashing JsString.le sampleOptions.name
      (sampleOutbox [] [sampleDispatch .unsent false none .publishing]) .send
      (sampleOutbox [] [sampleDispatch .sent true none .publishing]) :=
    .send _ (sampleDispatch .unsent false none .publishing) [] [] rfl rfl rfl List.not_mem_nil
  have routed : OutboxStep sampleHashing JsString.le sampleOptions.name
      (sampleOutbox [] [sampleDispatch .sent true none .publishing]) (.route true sampleText)
      (sampleOutbox [sampleText] [sampleDispatch .routed true none .publishing]) :=
    .route _ (sampleDispatch .sent true none .publishing) [] [] rfl rfl
  have confirmed : OutboxStep sampleHashing JsString.le sampleOptions.name
      (sampleOutbox [sampleText] [sampleDispatch .routed true none .publishing]) (.confirm true)
      (sampleOutbox [sampleText] [sampleDispatch .routed false (some (.ok ())) .publishing]) :=
    .confirmed _ (sampleDispatch .routed true none .publishing) [] [] rfl rfl (.inl rfl)
      List.not_mem_nil
  have updated : OutboxStep sampleHashing JsString.le sampleOptions.name
      (sampleOutbox [sampleText] [sampleDispatch .routed false (some (.ok ())) .publishing]) .update
      (sampleOutbox [sampleText] [sampleDispatch .routed false (some (.ok ())) .updated]) :=
    .update _ (sampleDispatch .routed false (some (.ok ())) .publishing) [] [] rfl rfl rfl
  have run := Run.snoc (.snoc (.snoc (.snoc (.snoc (.single inserted) begun) sent) routed)
    confirmed) updated
  exact (outbox_refines run).1

end ModelMux.Queue
