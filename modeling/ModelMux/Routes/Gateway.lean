/-
The handlers of the gateway and the limiter that they share.

Any number of chat and stream requests run at once, each from one await to the
next.  Whatever their awaited steps come to and whenever they are cancelled, a
handler goes through the phases of a client of the limiter, so that what holds
of clients holds of requests.
-/

import ModelMux.Concurrency.LimiterClients
import ModelMux.Routes.StreamHandler

namespace ModelMux.Routes

open Concurrency (AcquireError Client ClientAction ClientHeld ClientInvariant ClientMove ClientMoves
  ClientPhase ClientProgress ClientSystem InMemoryConcurrencyLimiterOptions LimiterSystem PhaseSystem
  clientInvariant_initial moves_arrive moves_arrive_acquire)
open Providers (ChatRequest)
open StreamHandler (WriteOutcome writeSse_cases start_cases)

variable {Response Failure : Type}

/-! ### Requests -/

inductive GatewayHandler (Response Failure : Type) where
  | chat (handler : ChatHandler Response Failure)
  | stream (handler : StreamHandler Failure)

inductive GatewayRequest where
  | chat (call : ChatCall)
  | stream (body : ChatRequest) (requestId : JsString)

inductive GatewayInput (Response Failure : Type) where
  | chat (input : ChatInput Response Failure)
  | stream (write : WriteOutcome) (input : StreamInput Failure)

structure GatewayOptions where
  limiter : InMemoryConcurrencyLimiterOptions
  chatCache : Bool
  providerStreams : Bool

def ChatEffect.action? : ChatEffect Response → Option ClientAction
  | .acquire => some .acquire
  | .providerChat _ => some .invoke
  | .release permit => some (.release permit)
  | .abort => some .abort
  | _ => none

def StreamEffect.action? : StreamEffect → Option ClientAction
  | .acquire => some .acquire
  | .providerStream _ => some .invoke
  | .release permit => some (.release permit)
  | .abort => some .abort
  | _ => none

abbrev GatewayProgress (Response Failure : Type) :=
  GatewayHandler Response Failure × List ClientAction

namespace GatewayProgress

def ofChat (progress : ChatProgress Response Failure) : GatewayProgress Response Failure :=
  (.chat progress.1, progress.2.filterMap ChatEffect.action?)

def ofStream (progress : StreamProgress Failure) : GatewayProgress Response Failure :=
  (.stream progress.1, progress.2.filterMap StreamEffect.action?)

end GatewayProgress

def GatewayRequest.enter (options : GatewayOptions) :
    GatewayRequest → GatewayProgress Response Failure
  | .chat call => .ofChat (ChatHandler.start options.chatCache call)
  | .stream body requestId => .ofStream (StreamHandler.enter body requestId options.providerStreams)

def GatewayInput.acquired? : GatewayInput Response Failure → Option (Except AcquireError ℕ)
  | .chat (.acquired result) => some result
  | .stream _ (.acquired result) => some result
  | _ => none

namespace GatewayHandler

def resume (handler : GatewayHandler Response Failure) (aborted : Bool)
    (input : GatewayInput Response Failure) : Option (GatewayProgress Response Failure) :=
  match handler, input with
  | .chat handler, .chat input => (handler.resume aborted input).map GatewayProgress.ofChat
  | .stream handler, .stream write input =>
      (handler.resume aborted write input).map GatewayProgress.ofStream
  | _, _ => none

def permit : GatewayHandler Response Failure → Option ℕ
  | .chat handler => handler.permit
  | .stream handler => handler.permit

def awaitsAcquire : GatewayHandler Response Failure → Bool
  | .chat handler => match handler.awaiting with
      | .acquire => true
      | _ => false
  | .stream handler => match handler.awaiting with
      | .acquire => true
      | _ => false

def providerPending : GatewayHandler Response Failure → Bool
  | .chat handler => match handler.awaiting with
      | .providerChat => true
      | _ => false
  | .stream handler => match handler.awaiting with
      | .providerStream => true
      | _ => false

def inCache : GatewayHandler Response Failure → Bool
  | .chat handler => match handler.awaiting with
      | .cacheGet => true
      | .cachePut _ => true
      | _ => false
  | .stream _ => false

def hasSettled : GatewayHandler Response Failure → Bool
  | .chat handler => match handler.awaiting with
      | .settled _ => true
      | _ => false
  | .stream handler => match handler.awaiting with
      | .settled _ => true
      | _ => false

end GatewayHandler

/-! ### The gateway -/

abbrev Gateway (Response Failure : Type) := ClientSystem (GatewayHandler Response Failure)

/-- A request arrives; `cancelled` says that its client or the server has gone. -/
def Gateway.receive (options : GatewayOptions) (now : ℚ) (cancelled : Bool)
    (request : GatewayRequest) (gateway : Gateway Response Failure) : Gateway Response Failure :=
  let entered : GatewayProgress Response Failure := request.enter options
  gateway.arrive options.limiter now cancelled entered.1 entered.2

inductive GatewayEvent (Response Failure : Type) where
  | arrive (now : ℚ) (cancelled : Bool) (request : GatewayRequest)
  | resume (now : ℚ) (index : ℕ) (input : GatewayInput Response Failure)
  | cancel (now : ℚ) (index : ℕ)
  | expire (now : ℚ) (id : ℕ)

/-- A handler goes on with the result that its own acquisition has come to, and with any
result of its other awaits.  A request is cancelled by a disconnect or by the shutdown. -/
inductive GatewayStep (options : GatewayOptions) (gateway : Gateway Response Failure) :
    GatewayEvent Response Failure → Gateway Response Failure → Prop
  | arrive (now : ℚ) (cancelled : Bool) (request : GatewayRequest) :
      GatewayStep options gateway (.arrive now cancelled request)
        (gateway.receive options now cancelled request)
  | resume (now : ℚ) {index : ℕ} {task : Client (GatewayHandler Response Failure)}
      {input : GatewayInput Response Failure} {progress : GatewayProgress Response Failure}
      (present : gateway.clients[index]? = some task)
      (awaited : ∀ result, input.acquired? = some result →
        ∃ id, task.acquisition = some id ∧ .settled id result ∈ gateway.limiter.log)
      (resumed : task.state.resume (decide (index ∈ gateway.limiter.abortedSignals)) input =
        some progress) :
      GatewayStep options gateway (.resume now index input)
        (gateway.advance options.limiter now index progress.1 progress.2)
  | cancel (now : ℚ) {index : ℕ} (present : index < gateway.clients.length) :
      GatewayStep options gateway (.cancel now index)
        { gateway with limiter := gateway.limiter.abort now index }
  | expire (now : ℚ) {id : ℕ} (armed : id ∈ gateway.limiter.timers) :
      GatewayStep options gateway (.expire now id)
        { gateway with limiter := gateway.limiter.expire options.limiter now id }

/-! ### Phases of a handler -/

def ChatHandler.phase? (handler : ChatHandler Response Failure) : Option ClientPhase :=
  match handler.awaiting, handler.permit with
  | .cacheGet, none => some .entering
  | .acquire, none => some .waiting
  | .providerChat, some permit => some (.holding permit true)
  | .cachePut _, none => some .leaving
  | .settled _, _ => some .settled
  | _, _ => none

def StreamHandler.phase? (handler : StreamHandler Failure) : Option ClientPhase :=
  match handler.awaiting, handler.permit with
  | .acquire, none => if handler.started then none else some .waiting
  | .providerStream, some permit => some (.holding permit true)
  | .doneWrite, some permit => some (.holding permit false)
  | .errorWrite _, some permit => some (.holding permit false)
  | .settled _, _ => some .settled
  | _, _ => none

def GatewayHandler.phase? : GatewayHandler Response Failure → Option ClientPhase
  | .chat handler => handler.phase?
  | .stream handler => handler.phase?

/-! ### The chat handler -/

variable {options : GatewayOptions} {phase : ClientPhase} {aborted : Bool}

theorem chat_phase {handler : ChatHandler Response Failure} (valid : handler.phase? = some phase) :
    match handler.awaiting with
    | .cacheGet => handler.permit = none ∧ phase = .entering
    | .acquire => handler.permit = none ∧ phase = .waiting
    | .providerChat => ∃ permit, handler.permit = some permit ∧ phase = .holding permit true
    | .cachePut _ => handler.permit = none ∧ phase = .leaving
    | .settled _ => phase = .settled := by
  unfold ChatHandler.phase? at valid
  cases awaiting : handler.awaiting <;> cases permit : handler.permit <;>
    simp_all [eq_comm]

theorem chat_settle (handler : ChatHandler Response Failure) (aborted : Bool)
    (result : Except (RouteError Failure) Response) :
    (handler.settle aborted result).1.phase? = some .settled ∧
      (handler.settle aborted result).2.filterMap ChatEffect.action? =
        .abort :: handler.permit.toList.map ClientAction.release := by
  have released : (handler.permit.toList.map ChatEffect.release).filterMap
      (@ChatEffect.action? Response) = handler.permit.toList.map ClientAction.release := by
    cases handler.permit <;> rfl
  constructor
  · rfl
  · cases result with
    | ok response => simp [ChatHandler.settle, List.filterMap_cons, ChatEffect.action?, released]
    | error error =>
        simp only [ChatHandler.settle]
        split <;> simp [List.filterMap_cons, ChatEffect.action?, released]

def ChatProgresses (phase : ClientPhase) (aborted : Bool)
    (result : Option (Except AcquireError ℕ)) (progress : ChatProgress Response Failure) : Prop :=
  ∃ phase', progress.1.phase? = some phase' ∧
    ClientProgress phase aborted result (progress.2.filterMap ChatEffect.action?) phase'

theorem chatProgresses_settle {handler : ChatHandler Response Failure}
    {result : Except (RouteError Failure) Response} {awaited : Option (Except AcquireError ℕ)}
    (allowed : ClientProgress phase aborted awaited
      (.abort :: handler.permit.toList.map ClientAction.release) .settled) :
    ChatProgresses phase aborted awaited (handler.settle aborted result) := by
  obtain ⟨settled, actions⟩ := chat_settle handler aborted result
  refine ⟨.settled, settled, ?_⟩
  rwa [actions]

theorem chatProgresses_onCacheGot {handler : ChatHandler Response Failure}
    (unset : handler.permit = none)
    (result : Except (RouteError Failure) (Option Response)) :
    ChatProgresses .entering aborted none (handler.onCacheGot aborted result) := by
  have settles : ∀ {changed : ChatHandler Response Failure} {ending},
      changed.permit = none → ChatProgresses .entering aborted none (changed.settle aborted ending) := by
    intro changed ending none
    apply chatProgresses_settle
    rw [none]
    exact .quit aborted
  have enqueues : ∀ {changed : ChatHandler Response Failure},
      changed.permit = none → ChatProgresses .entering aborted none changed.enqueue := by
    intro changed none
    refine ⟨.waiting, ?_, .enqueue aborted⟩
    simp [ChatHandler.phase?, ChatHandler.enqueue, none]
  cases result with
  | ok cached =>
      simp only [ChatHandler.onCacheGot]
      split
      · exact settles unset
      · cases cached with
        | some response => exact settles unset
        | none => exact enqueues unset
  | error error =>
      simp only [ChatHandler.onCacheGot]
      split
      · exact settles unset
      · split
        · exact settles unset
        · exact enqueues unset

theorem chatProgresses_onAcquired {handler : ChatHandler Response Failure}
    (unset : handler.permit = none) (result : Except AcquireError ℕ) :
    ChatProgresses .waiting aborted (some result) (handler.onAcquired aborted result) := by
  cases result with
  | ok permit =>
      simp only [ChatHandler.onAcquired]
      cases aborted with
      | true =>
          rw [if_pos rfl]
          apply chatProgresses_settle
          exact .withdraw true permit
      | false => exact ⟨.holding permit true, rfl, .invoke permit⟩
  | error error =>
      apply chatProgresses_settle
      rw [unset]
      exact .refuse aborted error

/-- Whatever follows the provider call, the permit is released first. -/
theorem chatProgresses_onProviderSettled {handler : ChatHandler Response Failure} {permit : ℕ}
    (own : handler.permit = some permit) (result : Except (RouteError Failure) Response) :
    ChatProgresses (.holding permit true) aborted none
      (handler.onProviderSettled aborted result) := by
  have settles : ∀ ending : Except (RouteError Failure) Response,
      let settled := { handler with permit := none }.settle aborted ending
      ChatProgresses (.holding permit true) aborted none
        (settled.1, handler.permit.toList.map ChatEffect.release ++ settled.2) := by
    intro ending settled
    obtain ⟨phase, actions⟩ := chat_settle { handler with permit := none } aborted ending
    refine ⟨.settled, phase, ?_⟩
    rw [List.filterMap_append, actions, own]
    exact .giveBackAndFinish aborted permit true
  cases result with
  | error error => exact settles (.error error)
  | ok response =>
      simp only [ChatHandler.onProviderSettled]
      split
      · exact settles _
      · split
        · refine ⟨.leaving, rfl, ?_⟩
          rw [own]
          exact .giveBack aborted permit true
        · exact settles _

theorem chatProgresses_onCacheWritten {handler : ChatHandler Response Failure}
    (unset : handler.permit = none) (response : Response)
    (result : Except (RouteError Failure) Unit) :
    ChatProgresses .leaving aborted none (handler.onCacheWritten aborted response result) := by
  have settles : ∀ ending, ChatProgresses .leaving aborted none (handler.settle aborted ending) := by
    intro ending
    apply chatProgresses_settle
    rw [unset]
    exact .leave aborted
  cases result with
  | ok written =>
      simp only [ChatHandler.onCacheWritten]
      split
      · exact settles _
      · exact settles _
  | error error =>
      simp only [ChatHandler.onCacheWritten]
      split
      · exact settles _
      · split
        · exact settles _
        · exact settles _

theorem chatProgresses_resume {handler : ChatHandler Response Failure}
    {input : ChatInput Response Failure} {progress : ChatProgress Response Failure}
    (valid : handler.phase? = some phase)
    (resumed : handler.resume aborted input = some progress) :
    ChatProgresses phase aborted (GatewayInput.chat input).acquired? progress := by
  have state := chat_phase valid
  cases input with
  | cacheGot result =>
      simp only [ChatHandler.resume] at resumed
      split at resumed
      · next awaiting =>
          rw [awaiting] at state
          obtain ⟨permit, rfl⟩ := state
          cases resumed
          exact chatProgresses_onCacheGot permit result
      · cases resumed
  | acquired result =>
      simp only [ChatHandler.resume] at resumed
      split at resumed
      · next awaiting =>
          rw [awaiting] at state
          obtain ⟨permit, rfl⟩ := state
          cases resumed
          exact chatProgresses_onAcquired permit result
      · cases resumed
  | providerSettled result =>
      simp only [ChatHandler.resume] at resumed
      split at resumed
      · next awaiting =>
          rw [awaiting] at state
          obtain ⟨permit, own, rfl⟩ := state
          cases resumed
          exact chatProgresses_onProviderSettled own result
      · cases resumed
  | cacheWritten result =>
      simp only [ChatHandler.resume] at resumed
      split at resumed
      · next response awaiting =>
          rw [awaiting] at state
          obtain ⟨permit, rfl⟩ := state
          cases resumed
          exact chatProgresses_onCacheWritten permit response result
      · cases resumed

/-! ### The stream handler -/

theorem stream_phase {handler : StreamHandler Failure} (valid : handler.phase? = some phase) :
    match handler.awaiting with
    | .acquire => handler.permit = none ∧ handler.started = false ∧ phase = .waiting
    | .providerStream => ∃ permit, handler.permit = some permit ∧ phase = .holding permit true
    | .doneWrite => ∃ permit, handler.permit = some permit ∧ phase = .holding permit false
    | .errorWrite _ => ∃ permit, handler.permit = some permit ∧ phase = .holding permit false
    | .settled _ => phase = .settled := by
  unfold StreamHandler.phase? at valid
  cases awaiting : handler.awaiting <;> cases permit : handler.permit <;>
    simp only [awaiting, permit, Option.ite_none_left_eq_some, Option.some.injEq,
      reduceCtorEq, Bool.not_eq_true] at valid
  · exact ⟨rfl, valid.1, valid.2.symm⟩
  · exact ⟨_, rfl, valid.symm⟩
  · exact ⟨_, rfl, valid.symm⟩
  · exact ⟨_, rfl, valid.symm⟩
  · exact valid.symm
  · exact valid.symm

def streamActions (effects : List StreamEffect) : List ClientAction :=
  effects.filterMap StreamEffect.action?

@[simp] theorem streamActions_append (left right : List StreamEffect) :
    streamActions (left ++ right) = streamActions left ++ streamActions right :=
  List.filterMap_append

structure StreamSettles (permit : Option ℕ) (progress : StreamProgress Failure) : Prop where
  phase : progress.1.phase? = some .settled
  actions : streamActions progress.2 = .abort :: permit.toList.map ClientAction.release

structure StreamCloses (permit : Option ℕ) (progress : StreamProgress Failure) : Prop where
  awaiting : progress.1.awaiting = .doneWrite ∨ ∃ error, progress.1.awaiting = .errorWrite error
  permit : progress.1.permit = permit
  actions : streamActions progress.2 = []

variable {handler : StreamHandler Failure} {write : WriteOutcome}

theorem streamSettles_finish (ending : StreamEnding Failure) :
    StreamSettles handler.permit (handler.finish ending) where
  phase := rfl
  actions := by
    cases permit : handler.permit <;>
      simp [streamActions, StreamHandler.finish, List.filterMap_cons, StreamEffect.action?, permit]

theorem StreamSettles.after {permit : Option ℕ} {progress : StreamProgress Failure}
    (settles : StreamSettles permit progress) {effects : List StreamEffect}
    (silent : streamActions effects = []) :
    StreamSettles permit (StreamProgress.after effects progress) where
  phase := settles.phase
  actions := by
    rw [StreamProgress.after, streamActions_append, silent]
    exact settles.actions

theorem streamSettles_destroyAndFinish : StreamSettles handler.permit handler.destroyAndFinish :=
  (@streamSettles_finish Failure handler.closed .returned).after rfl

theorem streamSettles_endAndFinish : StreamSettles handler.permit handler.endAndFinish :=
  (streamSettles_finish .returned).after rfl

theorem streamSettles_complete : StreamSettles handler.permit handler.complete :=
  @streamSettles_endAndFinish Failure { handler with outcome := .completed }

theorem streamSettles_cancelled :
    StreamSettles handler.permit (handler.fail aborted write .requestAbortedError) :=
  @streamSettles_destroyAndFinish Failure { handler with outcome := .cancelled }

theorem fail_settles_or_closes (error : RouteError Failure) :
    StreamSettles handler.permit (handler.fail aborted write error) ∨
      handler.started = true ∧ StreamCloses handler.permit (handler.fail aborted write error) := by
  unfold StreamHandler.fail
  split
  · exact .inl (@streamSettles_destroyAndFinish Failure { handler with outcome := .cancelled })
  · cases started : handler.started with
    | false => exact .inl (streamSettles_finish _)
    | true =>
        simp only [Bool.not_true, Bool.false_eq_true, if_false]
        split
        · exact .inl streamSettles_destroyAndFinish
        · rcases writeSse_cases handler aborted write (handler.errorEvent error) with
            rejected | ⟨_, resolved | pending⟩
          · simp only [rejected]
            exact .inl (streamSettles_destroyAndFinish.after rfl)
          · simp only [resolved]
            exact .inl (streamSettles_endAndFinish.after rfl)
          · simp only [pending]
            exact .inr ⟨trivial, ⟨.inr ⟨error, rfl⟩, rfl, rfl⟩⟩

theorem streamActions_head {head : List StreamEffect}
    (heads : ∀ effect ∈ head, effect = .writeHead 200 sseHeaders) : streamActions head = [] := by
  apply List.filterMap_eq_nil_iff.mpr
  intro effect member
  rw [heads effect member]
  rfl

theorem onProviderSettled_settles_or_closes (result : Except (RouteError Failure) Unit) :
    StreamSettles handler.permit (handler.onProviderSettled aborted write result) ∨
      StreamCloses handler.permit (handler.onProviderSettled aborted write result) := by
  cases result with
  | error error => exact (fail_settles_or_closes error).imp_right And.right
  | ok value =>
      simp only [StreamHandler.onProviderSettled]
      rcases start_cases handler aborted with ⟨_, refused⟩ | ⟨_, head, started, heads⟩
      · rw [refused]
        exact (fail_settles_or_closes _).imp_right And.right
      · rw [started]
        have silent := streamActions_head heads
        rcases writeSse_cases { handler with started := true } aborted write
          (.done handler.requestId) with rejected | ⟨_, resolved | pending⟩
        · simp only [rejected, List.append_nil]
          exact .inl
            ((@streamSettles_cancelled Failure aborted { handler with started := true } write).after
              silent)
        · simp only [resolved]
          apply Or.inl
          apply (@streamSettles_complete Failure { handler with started := true }).after
          rw [streamActions_append, silent]
          rfl
        · simp only [pending]
          refine .inr ⟨.inl rfl, rfl, ?_⟩
          rw [streamActions_append, silent]
          rfl

def StreamProgresses (phase : ClientPhase) (aborted : Bool)
    (result : Option (Except AcquireError ℕ)) (progress : StreamProgress Failure) : Prop :=
  ∃ phase', progress.1.phase? = some phase' ∧
    ClientProgress phase aborted result (streamActions progress.2) phase'

theorem StreamSettles.progresses {permit : Option ℕ} {progress : StreamProgress Failure}
    {awaited : Option (Except AcquireError ℕ)} (settles : StreamSettles permit progress)
    (allowed : ClientProgress phase aborted awaited
      (.abort :: permit.toList.map ClientAction.release) .settled) :
    StreamProgresses phase aborted awaited progress := by
  refine ⟨.settled, settles.phase, ?_⟩
  rw [settles.actions]
  exact allowed

theorem StreamCloses.progresses {permit : ℕ} {working : Bool} {progress : StreamProgress Failure}
    (closes : StreamCloses (some permit) progress) :
    StreamProgresses (.holding permit working) aborted none progress := by
  refine ⟨.holding permit false, ?_, ?_⟩
  · unfold StreamHandler.phase?
    rcases closes.awaiting with done | ⟨error, failing⟩
    · simp only [done, closes.permit]
    · simp only [failing, closes.permit]
  · rw [closes.actions]
    exact .rest aborted permit working

theorem streamProgresses_onAcquired (unset : handler.permit = none)
    (unstarted : handler.started = false) (result : Except AcquireError ℕ) :
    StreamProgresses .waiting aborted (some result) (handler.onAcquired aborted write result) := by
  cases result with
  | error error =>
      simp only [StreamHandler.onAcquired]
      rcases @fail_settles_or_closes Failure aborted handler write (.acquireError error) with
        settles | ⟨started, _⟩
      · rw [unset] at settles
        exact settles.progresses (.refuse aborted error)
      · rw [unstarted] at started
        cases started
  | ok permit =>
      let admitted : StreamHandler Failure := { handler with permit := some permit }
      simp only [StreamHandler.onAcquired]
      cases aborted with
      | true =>
          rw [if_pos rfl]
          exact (@streamSettles_cancelled Failure true admitted write).progresses
            (.withdraw true permit)
      | false =>
          rw [if_neg Bool.false_ne_true]
          split
          · exact ⟨.holding permit true, rfl, .invoke permit⟩
          · rcases @fail_settles_or_closes Failure false admitted write
              .providerStreamingUnsupportedError with settles | ⟨started, _⟩
            · exact settles.progresses (.withdraw false permit)
            · rw [show admitted.started = false from unstarted] at started
              cases started

theorem streamProgresses_stay {progress : StreamProgress Failure}
    (same : progress.1.phase? = some phase)
    (actions : streamActions progress.2 = [] ∨ streamActions progress.2 = [.abort]) :
    StreamProgresses phase aborted none progress := by
  refine ⟨phase, same, ?_⟩
  rcases actions with none | abort
  · rw [none]
    exact .stay aborted phase
  · rw [abort]
    exact .abort aborted phase

theorem streamProgresses_onDelta {permit : ℕ} (awaiting : handler.awaiting = .providerStream)
    (own : handler.permit = some permit) (content : JsString) :
    StreamProgresses (.holding permit true) aborted none
      (handler.onDelta aborted write content) := by
  have phase : ∀ {changed : StreamHandler Failure}, changed.awaiting = handler.awaiting →
      changed.permit = handler.permit → changed.phase? = some (.holding permit true) := by
    intro changed sameAwait samePermit
    simp [StreamHandler.phase?, sameAwait, samePermit, awaiting, own]
  unfold StreamHandler.onDelta
  split
  · exact streamProgresses_stay (phase rfl rfl) (.inl rfl)
  · rcases start_cases handler aborted with ⟨_, refused⟩ | ⟨_, head, started, heads⟩
    · rw [refused]
      exact streamProgresses_stay (phase rfl rfl) (.inl rfl)
    · have silent := streamActions_head heads
      rw [started]
      rcases writeSse_cases { handler with started := true } aborted write
        (.delta content handler.requestId) with rejected | ⟨_, resolved | pending⟩
      · simp only [rejected]
        refine streamProgresses_stay (phase rfl rfl) (.inr ?_)
        rw [streamActions_append, streamActions_append, silent]
        rfl
      · simp only [resolved]
        refine streamProgresses_stay (phase rfl rfl) (.inl ?_)
        rw [streamActions_append, silent]
        rfl
      · simp only [pending]
        refine streamProgresses_stay (phase rfl rfl) (.inl ?_)
        rw [streamActions_append, silent]
        rfl

/-- What happens on the socket while the handler awaits something else. -/
theorem stream_phase_socket {changed : StreamHandler Failure} (valid : handler.phase? = some phase)
    (sameAwait : changed.awaiting = handler.awaiting) (samePermit : changed.permit = handler.permit)
    (sameStarted : changed.started = handler.started) : changed.phase? = some phase := by
  unfold StreamHandler.phase? at valid ⊢
  rwa [sameAwait, samePermit, sameStarted]

theorem streamProgresses_onDrain (valid : handler.phase? = some phase) :
    StreamProgresses phase aborted none (handler.onDrain aborted) := by
  have state := stream_phase valid
  unfold StreamHandler.onDrain
  split
  · exact streamProgresses_stay (stream_phase_socket valid rfl rfl rfl) (.inl rfl)
  · split
    · exact streamProgresses_stay (stream_phase_socket valid rfl rfl rfl) (.inl rfl)
    · next awaiting =>
        rw [awaiting] at state
        obtain ⟨permit, own, rfl⟩ := state
        have settles := (@streamSettles_complete Failure handler.drained).after
          (show streamActions [.accepted (.done handler.requestId)] = [] from rfl)
        rw [show handler.drained.permit = some permit from own] at settles
        exact settles.progresses (.finish aborted permit false)
    · next error _ awaiting =>
        rw [awaiting] at state
        obtain ⟨permit, own, rfl⟩ := state
        have settles := (@streamSettles_endAndFinish Failure handler.drained).after
          (show streamActions [.accepted (handler.errorEvent error)] = [] from rfl)
        rw [show handler.drained.permit = some permit from own] at settles
        exact settles.progresses (.finish aborted permit false)
    · exact streamProgresses_stay (stream_phase_socket valid rfl rfl rfl) (.inl rfl)

theorem streamProgresses_onWriteFailed (valid : handler.phase? = some phase)
    {progress : StreamProgress Failure}
    (failed : handler.onWriteFailed aborted write = some progress) :
    StreamProgresses phase aborted none progress := by
  have state := stream_phase valid
  unfold StreamHandler.onWriteFailed at failed
  split at failed
  · cases failed
    exact streamProgresses_stay (stream_phase_socket valid rfl rfl rfl) (.inr rfl)
  · next awaiting =>
      rw [awaiting] at state
      obtain ⟨permit, own, rfl⟩ := state
      cases failed
      have settles := @streamSettles_cancelled Failure aborted handler write
      rw [own] at settles
      exact settles.progresses (.finish aborted permit false)
  · next awaiting =>
      rw [awaiting] at state
      obtain ⟨permit, own, rfl⟩ := state
      cases failed
      have settles := @streamSettles_destroyAndFinish Failure handler
      rw [own] at settles
      exact settles.progresses (.finish aborted permit false)
  · cases failed

theorem streamProgresses_onProviderSettled {permit : ℕ} (own : handler.permit = some permit)
    (result : Except (RouteError Failure) Unit) :
    StreamProgresses (.holding permit true) aborted none
      (handler.onProviderSettled aborted write result) := by
  rcases @onProviderSettled_settles_or_closes Failure aborted handler write result with
    settles | closes
  · rw [own] at settles
    exact settles.progresses (.finish aborted permit true)
  · rw [own] at closes
    exact closes.progresses

theorem streamProgresses_resume {input : StreamInput Failure} {progress : StreamProgress Failure}
    (valid : handler.phase? = some phase)
    (resumed : handler.resume aborted write input = some progress) :
    StreamProgresses phase aborted
      (@GatewayInput.stream Response Failure write input).acquired? progress := by
  have state := stream_phase valid
  cases input with
  | acquired result =>
      simp only [StreamHandler.resume] at resumed
      split at resumed
      · next awaiting =>
          rw [awaiting] at state
          obtain ⟨unset, unstarted, rfl⟩ := state
          cases resumed
          exact streamProgresses_onAcquired unset unstarted result
      · cases resumed
  | delta content =>
      simp only [StreamHandler.resume] at resumed
      split at resumed
      · next awaiting _ =>
          rw [awaiting] at state
          obtain ⟨permit, own, rfl⟩ := state
          cases resumed
          exact streamProgresses_onDelta awaiting own content
      · cases resumed
  | providerSettled result =>
      cases result with
      | ok value =>
          simp only [StreamHandler.resume] at resumed
          split at resumed
          · next awaiting _ =>
              rw [awaiting] at state
              obtain ⟨permit, own, rfl⟩ := state
              cases resumed
              exact streamProgresses_onProviderSettled own _
          · cases resumed
      | error error =>
          simp only [StreamHandler.resume] at resumed
          split at resumed
          · next awaiting =>
              rw [awaiting] at state
              obtain ⟨permit, own, rfl⟩ := state
              cases resumed
              exact streamProgresses_onProviderSettled own _
          · cases resumed
  | drain =>
      simp only [StreamHandler.resume] at resumed
      split at resumed
      · cases resumed
        exact streamProgresses_onDrain valid
      · cases resumed
  | writeFailed => exact streamProgresses_onWriteFailed valid resumed
  | closed =>
      cases resumed
      exact streamProgresses_stay (stream_phase_socket valid rfl rfl rfl) (.inl rfl)

/-! ### The gateway as a system of clients -/

theorem resume_progresses {handler : GatewayHandler Response Failure}
    {input : GatewayInput Response Failure} {progress : GatewayProgress Response Failure}
    (valid : handler.phase? = some phase)
    (resumed : handler.resume aborted input = some progress) :
    ∃ phase', progress.1.phase? = some phase' ∧
      ClientProgress phase aborted input.acquired? progress.2 phase' := by
  cases handler with
  | chat handler =>
      cases input with
      | stream write input => cases resumed
      | chat input =>
          obtain ⟨reached, went, rfl⟩ := Option.map_eq_some_iff.mp resumed
          exact chatProgresses_resume valid went
  | stream handler =>
      cases input with
      | chat input => cases resumed
      | stream write input =>
          obtain ⟨reached, went, rfl⟩ := Option.map_eq_some_iff.mp resumed
          exact streamProgresses_resume valid went

/-- Each handler is in the phase of its client. -/
def Represents (gateway : Gateway Response Failure) (system : PhaseSystem) : Prop :=
  gateway.map GatewayHandler.phase? = system.map some

variable {gateway next : Gateway Response Failure} {system : PhaseSystem}

theorem Represents.limiter (represents : Represents gateway system) :
    gateway.limiter = system.limiter :=
  congrArg ClientSystem.limiter represents

theorem Represents.invocations (represents : Represents gateway system) :
    gateway.invocations = system.invocations :=
  congrArg ClientSystem.invocations represents

theorem Represents.task (represents : Represents gateway system) {index : ℕ}
    {task : Client (GatewayHandler Response Failure)}
    (present : gateway.clients[index]? = some task) :
    ∃ phase, task.state.phase? = some phase ∧
      system.clients[index]? = some ⟨phase, task.acquisition⟩ := by
  have same := congrArg (fun viewed => viewed.clients[index]?) represents
  simp only [ClientSystem.map, List.getElem?_map, present, Option.map_some] at same
  obtain ⟨client, found, viewed⟩ := Option.map_eq_some_iff.mp same.symm
  obtain ⟨samePhase, sameAcquisition⟩ := Client.mk.inj viewed
  refine ⟨client.state, samePhase.symm, ?_⟩
  rw [found, ← sameAcquisition]

theorem Represents.source (represents : Represents gateway system) {client : Client ClientPhase}
    (member : client ∈ system.clients) :
    ∃ task ∈ gateway.clients, task.state.phase? = some client.state := by
  have viewed : ⟨some client.state, client.acquisition⟩ ∈ (system.map some).clients :=
    List.mem_map.mpr ⟨client, member, rfl⟩
  rw [← represents] at viewed
  obtain ⟨task, listed, same⟩ := List.mem_map.mp viewed
  exact ⟨task, listed, (Client.mk.inj same).1⟩

theorem represents_arrive (represents : Represents gateway system) (now : ℚ) (cancelled : Bool)
    {handler : GatewayHandler Response Failure} {actions : List ClientAction}
    (view : handler.phase? = some phase) :
    Represents (gateway.arrive options.limiter now cancelled handler actions)
      (system.arrive options.limiter now cancelled phase actions) := by
  unfold Represents at represents ⊢
  rw [ClientSystem.map_arrive, ClientSystem.map_arrive, represents, view]

theorem represents_advance (represents : Represents gateway system) (now : ℚ) (index : ℕ)
    {handler : GatewayHandler Response Failure} {actions : List ClientAction}
    (view : handler.phase? = some phase) :
    Represents (gateway.advance options.limiter now index handler actions)
      (system.advance options.limiter now index phase actions) := by
  unfold Represents at represents ⊢
  rw [ClientSystem.map_advance, ClientSystem.map_advance, represents, view]

theorem represents_limiter (represents : Represents gateway system)
    (change : LimiterSystem → LimiterSystem) :
    Represents { gateway with limiter := change gateway.limiter }
      { system with limiter := change system.limiter } := by
  have limiter := congrArg change represents.limiter
  have clients := congrArg ClientSystem.clients represents
  have invocations := represents.invocations
  unfold Represents ClientSystem.map
  simp only [ClientSystem.mk.injEq]
  exact ⟨limiter, clients, invocations⟩

theorem enter_phase (options : GatewayOptions) (request : GatewayRequest) :
    let entered : GatewayProgress Response Failure := request.enter options
    entered.1.phase? = some .entering ∧ entered.2 = [] ∨
      entered.1.phase? = some .waiting ∧ entered.2 = [.acquire] := by
  cases request with
  | chat call =>
      simp only [GatewayRequest.enter, ChatHandler.start]
      split
      · exact .inl ⟨rfl, rfl⟩
      · exact .inr ⟨rfl, rfl⟩
  | stream body requestId => exact .inr ⟨rfl, rfl⟩

theorem gateway_simulates {event : GatewayEvent Response Failure}
    (represents : Represents gateway system) (invariant : ClientInvariant options.limiter system)
    (taken : GatewayStep options gateway event next) :
    ∃ system', ClientMoves options.limiter system system' ∧ Represents next system' := by
  cases taken with
  | arrive now cancelled request =>
      rcases @enter_phase Response Failure options request with
        ⟨phase, actions⟩ | ⟨phase, actions⟩
      · rw [Gateway.receive, actions]
        exact ⟨_, moves_arrive now cancelled, represents_arrive represents now cancelled phase⟩
      · rw [Gateway.receive, actions]
        exact ⟨_, moves_arrive_acquire now cancelled,
          represents_arrive represents now cancelled phase⟩
  | @resume now index task input progress present awaited resumed =>
      obtain ⟨phase, valid, found⟩ := represents.task present
      obtain ⟨phase', reached, progresses⟩ := resume_progresses valid resumed
      rw [represents.limiter] at awaited progresses
      exact ⟨_, progresses.moves now invariant found (by simp) awaited,
        represents_advance represents now index reached⟩
  | @cancel now index present =>
      exact ⟨_, .single (.abort now index),
        represents_limiter represents (fun limiter => limiter.abort now index)⟩
  | @expire now id armed =>
      rw [represents.limiter] at armed
      exact ⟨_, .single (.expire now armed),
        represents_limiter represents (fun limiter => limiter.expire options.limiter now id)⟩

theorem gateway_run_simulates {events : List (GatewayEvent Response Failure)}
    (run : Run (GatewayStep options) gateway events next) (represents : Represents gateway system)
    (invariant : ClientInvariant options.limiter system) :
    ∃ system', ClientMoves options.limiter system system' ∧ Represents next system' := by
  induction run with
  | refl => exact ⟨system, .refl, represents⟩
  | snoc _ taken ih =>
      obtain ⟨middle, before, related⟩ := ih
      obtain ⟨last, after, reached⟩ := gateway_simulates related (invariant.moves before) taken
      exact ⟨last, before.trans after, reached⟩

/-! ### Answered awaits -/

/-- The awaits of a handler, counted back from its end. -/
def GatewayHandler.awaitsLeft : GatewayHandler Response Failure → ℕ
  | .chat handler => match handler.awaiting with
      | .cacheGet => 4
      | .acquire => 3
      | .providerChat => 2
      | .cachePut _ => 1
      | .settled _ => 0
  | .stream handler => match handler.awaiting with
      | .acquire => 3
      | .providerStream => 2
      | .doneWrite => 1
      | .errorWrite _ => 1
      | .settled _ => 0

/-- The input settles the promise that the handler awaits.  An abort rejects a write
that waits for `drain`. -/
inductive Answers (aborted : Bool) :
    GatewayHandler Response Failure → GatewayInput Response Failure → Prop
  | cacheGot {handler : ChatHandler Response Failure} (awaiting : handler.awaiting = .cacheGet)
      (result : Except (RouteError Failure) (Option Response)) :
      Answers aborted (.chat handler) (.chat (.cacheGot result))
  | acquired {handler : ChatHandler Response Failure} (awaiting : handler.awaiting = .acquire)
      (result : Except AcquireError ℕ) :
      Answers aborted (.chat handler) (.chat (.acquired result))
  | providerSettled {handler : ChatHandler Response Failure}
      (awaiting : handler.awaiting = .providerChat)
      (result : Except (RouteError Failure) Response) :
      Answers aborted (.chat handler) (.chat (.providerSettled result))
  | cacheWritten {handler : ChatHandler Response Failure} {response : Response}
      (awaiting : handler.awaiting = .cachePut response)
      (result : Except (RouteError Failure) Unit) :
      Answers aborted (.chat handler) (.chat (.cacheWritten result))
  | streamAcquired {handler : StreamHandler Failure} (awaiting : handler.awaiting = .acquire)
      (write : WriteOutcome) (result : Except AcquireError ℕ) :
      Answers aborted (.stream handler) (.stream write (.acquired result))
  | streamEnded {handler : StreamHandler Failure} (awaiting : handler.awaiting = .providerStream)
      (consumed : handler.consuming = none) (write : WriteOutcome) :
      Answers aborted (.stream handler) (.stream write (.providerSettled (.ok ())))
  | streamFailed {handler : StreamHandler Failure} (awaiting : handler.awaiting = .providerStream)
      (write : WriteOutcome) (error : RouteError Failure) :
      Answers aborted (.stream handler) (.stream write (.providerSettled (.error error)))
  | drained {handler : StreamHandler Failure}
      (awaiting : handler.awaiting = .doneWrite ∨ ∃ error, handler.awaiting = .errorWrite error)
      (consumed : handler.consuming = none) (full : handler.raw.needDrain = true)
      (running : aborted = false) (write : WriteOutcome) :
      Answers aborted (.stream handler) (.stream write .drain)
  | writeFailed {handler : StreamHandler Failure}
      (awaiting : handler.awaiting = .doneWrite ∨ ∃ error, handler.awaiting = .errorWrite error)
      (consumed : handler.consuming = none) (write : WriteOutcome) :
      Answers aborted (.stream handler) (.stream write .writeFailed)

theorem GatewayHandler.awaitsLeft_eq_zero (handler : GatewayHandler Response Failure) :
    handler.awaitsLeft = 0 ↔ handler.hasSettled = true := by
  cases handler with
  | chat handler =>
      cases awaiting : handler.awaiting <;>
        simp [GatewayHandler.awaitsLeft, GatewayHandler.hasSettled, awaiting]
  | stream handler =>
      cases awaiting : handler.awaiting <;>
        simp [GatewayHandler.awaitsLeft, GatewayHandler.hasSettled, awaiting]

def GoesOn (aborted : Bool) (handler : GatewayHandler Response Failure)
    (input : GatewayInput Response Failure) : Prop :=
  ∃ progress, handler.resume aborted input = some progress ∧
    progress.1.awaitsLeft < handler.awaitsLeft

theorem goesOn_chat {handler : ChatHandler Response Failure} {input : ChatInput Response Failure}
    {progress : ChatProgress Response Failure} (resumed : handler.resume aborted input = some progress)
    (nearer : GatewayHandler.awaitsLeft (.chat progress.1) <
      GatewayHandler.awaitsLeft (.chat handler)) :
    GoesOn aborted (.chat handler) (.chat input) :=
  ⟨.ofChat progress, congrArg (Option.map GatewayProgress.ofChat) resumed, nearer⟩

theorem goesOn_stream {handler : StreamHandler Failure} {write : WriteOutcome}
    {input : StreamInput Failure} {progress : StreamProgress Failure}
    (resumed : handler.resume aborted write input = some progress)
    (nearer : @GatewayHandler.awaitsLeft Response _ (.stream progress.1) <
      @GatewayHandler.awaitsLeft Response _ (.stream handler)) :
    GoesOn aborted (.stream handler : GatewayHandler Response Failure) (.stream write input) :=
  ⟨.ofStream progress, congrArg (Option.map GatewayProgress.ofStream) resumed, nearer⟩

theorem awaitsLeft_settled {permit : Option ℕ} {progress : StreamProgress Failure}
    (settles : StreamSettles permit progress) :
    @GatewayHandler.awaitsLeft Response _ (.stream progress.1) = 0 := by
  have state := stream_phase settles.phase
  unfold GatewayHandler.awaitsLeft
  cases awaiting : progress.1.awaiting <;> simp_all

theorem awaitsLeft_ending {permit : Option ℕ} {progress : StreamProgress Failure}
    (ending : StreamSettles permit progress ∨ StreamCloses permit progress) :
    @GatewayHandler.awaitsLeft Response _ (.stream progress.1) ≤ 1 := by
  rcases ending with settles | closes
  · rw [awaitsLeft_settled settles]
    exact Nat.zero_le 1
  · rcases closes.awaiting with done | ⟨error, failing⟩
    · simp [GatewayHandler.awaitsLeft, done]
    · simp [GatewayHandler.awaitsLeft, failing]

theorem goesOn_acquired {handler : StreamHandler Failure} {write : WriteOutcome}
    (result : Except AcquireError ℕ) :
    @GatewayHandler.awaitsLeft Response _ (.stream (handler.onAcquired aborted write result).1) ≤ 2 := by
  have failed : ∀ (handler : StreamHandler Failure) error,
      @GatewayHandler.awaitsLeft Response _ (.stream (handler.fail aborted write error).1) ≤ 2 := by
    intro handler error
    have ending := (@fail_settles_or_closes Failure aborted handler write error).imp_right And.right
    exact (awaitsLeft_ending ending).trans (by decide)
  cases result with
  | error error => exact failed _ _
  | ok permit =>
      simp only [StreamHandler.onAcquired]
      split_ifs
      · exact failed _ _
      · exact le_refl 2
      · exact failed _ _

theorem goesOn_providerSettled {handler : StreamHandler Failure} {write : WriteOutcome}
    (result : Except (RouteError Failure) Unit) (awaiting : handler.awaiting = .providerStream)
    (resumed : handler.resume aborted write (.providerSettled result) =
      some (handler.onProviderSettled aborted write result)) :
    GoesOn aborted (.stream handler : GatewayHandler Response Failure)
      (.stream write (.providerSettled result)) := by
  apply goesOn_stream resumed
  have nearer := @awaitsLeft_ending Response _ _ _
    (@onProviderSettled_settles_or_closes Failure aborted handler write result)
  simp only [GatewayHandler.awaitsLeft, awaiting] at nearer ⊢
  exact Nat.lt_succ_of_le nearer

theorem goesOn_lastWrite {handler : StreamHandler Failure} {write : WriteOutcome}
    {input : StreamInput Failure}
    (awaiting : handler.awaiting = .doneWrite ∨ ∃ error, handler.awaiting = .errorWrite error)
    (settles : ∃ progress permit, handler.resume aborted write input = some progress ∧
      StreamSettles permit progress) :
    GoesOn aborted (.stream handler : GatewayHandler Response Failure) (.stream write input) := by
  obtain ⟨progress, permit, resumed, settled⟩ := settles
  apply goesOn_stream resumed
  rw [awaitsLeft_settled settled]
  rcases awaiting with done | ⟨error, failing⟩
  · simp [GatewayHandler.awaitsLeft, done]
  · simp [GatewayHandler.awaitsLeft, failing]

/-- An answered await makes its handler go on. -/
theorem Answers.goesOn {handler : GatewayHandler Response Failure}
    {input : GatewayInput Response Failure} (answers : Answers aborted handler input) :
    GoesOn aborted handler input := by
  cases answers with
  | @cacheGot handler awaiting result =>
      have resumed : handler.resume aborted (.cacheGot result) =
          some (handler.onCacheGot aborted result) := by
        simp only [ChatHandler.resume, awaiting]
      apply goesOn_chat resumed
      simp only [GatewayHandler.awaitsLeft, awaiting]
      rcases result with error | _ | response <;> simp only [ChatHandler.onCacheGot] <;>
        split_ifs <;> simp [ChatHandler.settle, ChatHandler.enqueue]
  | @acquired handler awaiting result =>
      have resumed : handler.resume aborted (.acquired result) =
          some (handler.onAcquired aborted result) := by
        simp only [ChatHandler.resume, awaiting]
      apply goesOn_chat resumed
      simp only [GatewayHandler.awaitsLeft, awaiting]
      cases result with
      | ok permit => simp only [ChatHandler.onAcquired]; split_ifs <;> simp [ChatHandler.settle]
      | error error => simp [ChatHandler.onAcquired, ChatHandler.settle]
  | @providerSettled handler awaiting result =>
      have resumed : handler.resume aborted (.providerSettled result) =
          some (handler.onProviderSettled aborted result) := by
        simp only [ChatHandler.resume, awaiting]
      apply goesOn_chat resumed
      simp only [GatewayHandler.awaitsLeft, awaiting]
      cases result with
      | ok response =>
          simp only [ChatHandler.onProviderSettled]
          split_ifs <;> simp [ChatHandler.settle]
      | error error => simp [ChatHandler.onProviderSettled, ChatHandler.settle]
  | @cacheWritten handler response awaiting result =>
      have resumed : handler.resume aborted (.cacheWritten result) =
          some (handler.onCacheWritten aborted response result) := by
        simp only [ChatHandler.resume, awaiting]
      apply goesOn_chat resumed
      simp only [GatewayHandler.awaitsLeft, awaiting]
      cases result <;> simp only [ChatHandler.onCacheWritten] <;> split_ifs <;>
        simp [ChatHandler.settle]
  | @streamAcquired handler awaiting write result =>
      have resumed : handler.resume aborted write (.acquired result) =
          some (handler.onAcquired aborted write result) := by
        simp only [StreamHandler.resume, awaiting]
      apply goesOn_stream resumed
      have nearer := @goesOn_acquired Response _ aborted handler write result
      simp only [GatewayHandler.awaitsLeft, awaiting] at nearer ⊢
      exact Nat.lt_succ_of_le nearer
  | @streamEnded handler awaiting consumed write =>
      apply goesOn_providerSettled (.ok ()) awaiting
      simp only [StreamHandler.resume, awaiting, consumed]
  | @streamFailed handler awaiting write error =>
      apply goesOn_providerSettled (.error error) awaiting
      simp only [StreamHandler.resume, awaiting]
  | @drained handler awaiting consumed full running write =>
      apply goesOn_lastWrite awaiting
      have resumed : handler.resume aborted write .drain = some (handler.onDrain aborted) := by
        simp only [StreamHandler.resume, full, if_true]
      refine ⟨_, handler.drained.permit, resumed, ?_⟩
      unfold StreamHandler.onDrain
      rw [if_neg (by simp [running])]
      rcases awaiting with done | ⟨error, failing⟩
      · simp only [consumed, done]
        exact (@streamSettles_complete Failure handler.drained).after rfl
      · simp only [consumed, failing]
        exact (@streamSettles_endAndFinish Failure handler.drained).after rfl
  | @writeFailed handler awaiting consumed write =>
      apply goesOn_lastWrite awaiting
      rcases awaiting with done | ⟨error, failing⟩
      · refine ⟨handler.fail aborted write .requestAbortedError, handler.permit, ?_,
          streamSettles_cancelled⟩
        simp only [StreamHandler.resume, StreamHandler.onWriteFailed, consumed, done]
      · refine ⟨handler.destroyAndFinish, handler.permit, ?_, streamSettles_destroyAndFinish⟩
        simp only [StreamHandler.resume, StreamHandler.onWriteFailed, consumed, failing]

/-! ### Capacity -/

theorem phase_spec {handler : GatewayHandler Response Failure}
    (valid : handler.phase? = some phase) :
    (handler.providerPending = true →
        ∃ permit, handler.permit = some permit ∧ phase = .holding permit true) ∧
      (handler.awaitsAcquire = true → phase = .waiting) ∧
      (handler.inCache = true → phase = .entering ∨ phase = .leaving) ∧
      (handler.hasSettled = true → phase = .settled) := by
  unfold GatewayHandler.providerPending GatewayHandler.awaitsAcquire GatewayHandler.inCache
    GatewayHandler.hasSettled
  cases handler with
  | chat handler =>
      have state := chat_phase valid
      cases awaiting : handler.awaiting with
      | providerChat =>
          rw [awaiting] at state
          simpa [awaiting, GatewayHandler.permit] using state
      | settled outcome =>
          rw [awaiting] at state
          simpa [awaiting] using state
      | _ =>
          rw [awaiting] at state
          simp [awaiting, state.2]
  | stream handler =>
      have state := stream_phase valid
      cases awaiting : handler.awaiting with
      | acquire =>
          rw [awaiting] at state
          simpa [awaiting] using state.2.2
      | doneWrite => simp [awaiting]
      | errorWrite error => simp [awaiting]
      | _ =>
          rw [awaiting] at state
          simpa [awaiting, GatewayHandler.permit] using state

structure GatewayCapacity (options : GatewayOptions) (gateway : Gateway Response Failure) :
    Prop where
  pending : ∀ task ∈ gateway.clients, task.state.providerPending = true →
    ∃ permit, task.state.permit = some permit ∧ task.Holds gateway.limiter permit
  bounded : gateway.clients.countP (fun task => task.state.providerPending) ≤
    options.limiter.maxConcurrent
  /-- A request that is cancelled when it is admitted does not reach the provider. -/
  cancelled : ∀ (index : ℕ) task, gateway.clients[index]? = some task →
    task.state.awaitsAcquire = true → index ∈ gateway.limiter.abortedSignals →
      ∀ events later, Run (GatewayStep options) gateway events later → index ∉ later.invocations
  cache : ∀ task ∈ gateway.clients, task.state.inCache = true →
    ∀ permit, ¬ task.Holds gateway.limiter permit
  settled : ∀ task ∈ gateway.clients, task.state.hasSettled = true →
    ∀ permit, ¬ task.Holds gateway.limiter permit
  returned : (∀ task ∈ gateway.clients, task.state.hasSettled = true) →
    gateway.limiter.snapshot.active = 0
  /-- Whatever an await comes to, its handler goes on towards its end. -/
  answered : ∀ (index : ℕ) task input, gateway.clients[index]? = some task →
    Answers (decide (index ∈ gateway.limiter.abortedSignals)) task.state input →
      (∀ result, input.acquired? = some result →
        ∃ id, task.acquisition = some id ∧ .settled id result ∈ gateway.limiter.log) →
      ∀ now, ∃ next task', GatewayStep options gateway (.resume now index input) next ∧
        next.clients[index]? = some task' ∧ task'.state.awaitsLeft < task.state.awaitsLeft
  ended : ∀ task ∈ gateway.clients, task.state.awaitsLeft = 0 ↔ task.state.hasSettled = true

theorem Represents.client (represents : Represents gateway system)
    (invariant : ClientInvariant options.limiter system)
    {task : Client (GatewayHandler Response Failure)} (member : task ∈ gateway.clients) :
    ∃ phase, task.state.phase? = some phase ∧
      ClientHeld gateway.limiter ⟨phase, task.acquisition⟩ := by
  obtain ⟨index, present⟩ := List.getElem?_of_mem member
  obtain ⟨phase, valid, found⟩ := represents.task present
  refine ⟨phase, valid, ?_⟩
  rw [represents.limiter]
  exact invariant.held index _ found

theorem Represents.pending_le (represents : Represents gateway system) :
    gateway.clients.countP (fun task => task.state.providerPending) ≤
      system.clients.countP Client.isWorking := by
  let works : Client (Option ClientPhase) → Bool := fun viewed =>
    viewed.state.any (fun phase => (⟨phase, viewed.acquisition⟩ : Client ClientPhase).isWorking)
  have viewed : (gateway.map GatewayHandler.phase?).clients.countP works =
      (system.map some).clients.countP works := by rw [represents]
  simp only [ClientSystem.map, List.countP_map] at viewed
  have mono : gateway.clients.countP (fun task => task.state.providerPending) ≤
      gateway.clients.countP
        (works ∘ fun client => ⟨client.state.phase?, client.acquisition⟩) := by
    apply List.countP_mono_left
    intro task member pending
    obtain ⟨index, present⟩ := List.getElem?_of_mem member
    obtain ⟨phase, valid, _⟩ := represents.task present
    obtain ⟨permit, _, rfl⟩ := (phase_spec valid).1 pending
    simp [works, valid, Client.isWorking]
  exact mono.trans (le_of_eq viewed)

/-- Over any number of requests, whatever their awaits come to and whenever they are
cancelled, the provider runs on permits that are held, and all of them come back. -/
theorem capacity_returns (options : GatewayOptions)
    {events : List (GatewayEvent Response Failure)} {gateway : Gateway Response Failure}
    (run : Run (GatewayStep options) .initial events gateway) : GatewayCapacity options gateway := by
  obtain ⟨system, moves, represents⟩ :=
    gateway_run_simulates run (show Represents _ .initial from rfl)
      (clientInvariant_initial options.limiter)
  have invariant := (clientInvariant_initial options.limiter).moves moves
  have history := invariant.sound.history
  rw [← represents.limiter] at history
  constructor
  · intro task member pending
    obtain ⟨phase, valid, held⟩ := represents.client invariant member
    obtain ⟨permit, own, rfl⟩ := (phase_spec valid).1 pending
    exact ⟨permit, own, held.holds rfl⟩
  · exact represents.pending_le.trans invariant.working_le
  · intro index task present queued aborted events later onward invoked
    obtain ⟨phase, valid, found⟩ := represents.task present
    obtain ⟨system', moves', represents'⟩ := gateway_run_simulates onward represents invariant
    rw [represents.limiter] at aborted
    rw [represents'.invocations] at invoked
    have earlier := (ClientMoves.cancelled moves' aborted).2 invoked
    obtain ⟨client, found', _, begun⟩ := invariant.invoked index earlier
    cases found.symm.trans found'
    exact begun ((phase_spec valid).2.1 queued)
  · intro task member cached permit
    obtain ⟨phase, valid, held⟩ := represents.client invariant member
    refine held.holds_none history ?_ permit
    rcases (phase_spec valid).2.2.1 cached with entering | leaving
    · exact .inl entering
    · exact .inr (.inl leaving)
  · intro task member settled permit
    obtain ⟨phase, valid, held⟩ := represents.client invariant member
    exact held.holds_none history (.inr (.inr ((phase_spec valid).2.2.2 settled))) permit
  · intro settled
    change gateway.limiter.active = 0
    rw [represents.limiter]
    apply invariant.active_eq_zero
    intro client member
    obtain ⟨task, listed, valid⟩ := represents.source member
    exact (phase_spec valid).2.2.2 (settled task listed)
  · intro index task input present answers awaited now
    obtain ⟨progress, resumed, nearer⟩ := answers.goesOn
    obtain ⟨inside, _⟩ := List.getElem?_eq_some_iff.mp present
    obtain ⟨task', reached, same⟩ :=
      gateway.advance_state options.limiter now progress.1 progress.2 inside
    rw [← same] at nearer
    exact ⟨_, task', .resume now present awaited resumed, reached, nearer⟩
  · exact fun task _ => task.state.awaitsLeft_eq_zero

theorem GatewayStep.resumed (now : ℚ) (index : ℕ) (input : GatewayInput Response Failure)
    (inside : index < gateway.clients.length)
    (awaited : ∀ result, input.acquired? = some result →
      ∃ id, gateway.clients[index].acquisition = some id ∧
        .settled id result ∈ gateway.limiter.log)
    (goes : (gateway.clients[index].state.resume
      (decide (index ∈ gateway.limiter.abortedSignals)) input).isSome = true) :
    GatewayStep options gateway (.resume now index input)
      (gateway.advance options.limiter now index (Option.get _ goes).1 (Option.get _ goes).2) :=
  .resume now (List.getElem?_eq_getElem inside) awaited (Option.some_get goes).symm

/-- A stream gives its slot to a chat request that waits for it, and that gives it back. -/
theorem capacity_returns_streamed :
    let options : GatewayOptions := ⟨⟨1, 1, 1000, by decide, by decide⟩, false, true⟩
    ∃ events, ∃ gateway : Gateway Unit Unit, Run (GatewayStep options) .initial events gateway ∧
      gateway.invocations = [0, 1] ∧ gateway.limiter.snapshot.active = 0 := by
  intro options
  have arrived : Run (GatewayStep options) (.initial : Gateway Unit Unit) _ _ :=
    .single (.arrive 0 false (.stream ⟨[0x6D], []⟩ [0x72]))
  have streaming := arrived.snoc
    (.resumed 2 0 (.stream .taken (.acquired (.ok 0))) (by decide +kernel)
      (by
        rintro result ⟨⟩
        exact ⟨0, by decide +kernel, by decide +kernel⟩)
      (by decide +kernel))
  have waiting := streaming.snoc
    (.arrive 3 false (.chat ⟨[0x6F], ⟨[0x6D], []⟩, none, none⟩))
  have streamed := waiting.snoc
    (.resumed 4 0 (.stream .taken (.providerSettled (.ok ()))) (by decide +kernel)
      (by rintro result ⟨⟩) (by decide +kernel))
  have asking := streamed.snoc
    (.resumed 5 1 (.chat (.acquired (.ok 1))) (by decide +kernel)
      (by
        rintro result ⟨⟩
        exact ⟨1, by decide +kernel, by decide +kernel⟩)
      (by decide +kernel))
  have answered := asking.snoc
    (.resumed 6 1 (.chat (.providerSettled (.ok ()))) (by decide +kernel)
      (by rintro result ⟨⟩) (by decide +kernel))
  refine ⟨_, _, answered, by decide +kernel, (capacity_returns options answered).returned ?_⟩
  decide +kernel

end ModelMux.Routes
