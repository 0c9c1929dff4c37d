/-
Where the answers of the chat route come from.

An answer that is no hit was given by a provider in the pass of the request itself.  A
hit was given by a provider in the pass of another request, of the same owner and with
the same conversation, that uses the cache too; Redis has written it less than its
lifetime before it was read.  A request that is answered from the cache asks nobody.
-/

import ModelMux.Cache.CanonicalHash
import ModelMux.Routes.ChatService

namespace ModelMux.Routes

open Cache (CacheCommand CacheLimits ChatResponse CommandEvent readEntry responseJson)
open Concurrency (AcquireError)
open Providers (ChatRequest Pass PassPhase PassStep PassesHeld ProviderRouter RouterEvent RouterStep
  RouterSystem Thrown sampleCircuits sampleRouter)
open Queue (Document CollisionFree)

variable {Failure : Type}

/-! ### What the handler makes of a result -/

def Unanswered {Response : Type} (awaiting : ChatAwait Response Failure) : Prop :=
  ∃ outcome, awaiting = .settled outcome ∧ ∀ response, outcome ≠ .answered response

section Handler

variable {Response : Type} {handler next : ChatHandler Response Failure} {aborted : Bool}
  {effects : List (ChatEffect Response)}

theorem settle_error (handler : ChatHandler Response Failure) (aborted : Bool)
    (error : RouteError Failure) :
    ∃ awaiting, (handler.settle aborted (.error error)).1 = { handler with awaiting := awaiting } ∧
      Unanswered awaiting := by
  simp only [ChatHandler.settle]
  split_ifs
  · exact ⟨_, rfl, _, rfl, by simp⟩
  · exact ⟨_, rfl, _, rfl, by simp⟩

/-- Only a lookup that has found an answer makes a hit of the request. -/
theorem resumed_got {result : Except (RouteError Failure) (Option Response)}
    (resumed : handler.resume aborted (.cacheGot result) = some (next, effects)) :
    handler.awaiting = .cacheGet ∧ next.call = handler.call ∧
      (next.useCache = true → handler.useCache = true) ∧
      (Unanswered next.awaiting ∨
        (next.awaiting = .acquire ∧ (next.cacheStatus = .hit → handler.cacheStatus = .hit)) ∨
        ∃ response, result = .ok (some response) ∧
          next.awaiting = .settled (.answered response) ∧ next.cacheStatus = .hit) := by
  have thrown (error : RouteError Failure)
      (same : (handler.settle aborted (.error error)).1 = next) :
      next.call = handler.call ∧ (next.useCache = true → handler.useCache = true) ∧
        Unanswered next.awaiting := by
    obtain ⟨awaiting, shape, unanswered⟩ := settle_error handler aborted error
    rw [← same, shape]
    exact ⟨rfl, id, unanswered⟩
  simp only [ChatHandler.resume] at resumed
  split at resumed
  · next looking =>
      have taken := congrArg Prod.fst (Option.some.inj resumed)
      refine ⟨looking, ?_⟩
      cases result with
      | error error =>
          simp only [ChatHandler.onCacheGot] at taken
          split_ifs at taken
          · obtain ⟨call, useCache, unanswered⟩ := thrown _ taken
            exact ⟨call, useCache, Or.inl unanswered⟩
          · obtain ⟨call, useCache, unanswered⟩ := thrown _ taken
            exact ⟨call, useCache, Or.inl unanswered⟩
          · subst taken
            exact ⟨rfl, by simp [ChatHandler.enqueue], Or.inr (Or.inl ⟨rfl, id⟩)⟩
      | ok cached =>
          simp only [ChatHandler.onCacheGot] at taken
          split_ifs at taken
          · obtain ⟨call, useCache, unanswered⟩ := thrown _ taken
            exact ⟨call, useCache, Or.inl unanswered⟩
          · cases cached with
            | none =>
                subst taken
                exact ⟨rfl, id, Or.inr (Or.inl ⟨rfl, by simp [ChatHandler.enqueue]⟩)⟩
            | some response =>
                subst taken
                exact ⟨rfl, id, Or.inr (Or.inr ⟨response, rfl, rfl, rfl⟩)⟩
  · cases resumed

theorem resumed_acquired {result : Except AcquireError ℕ}
    (resumed : handler.resume aborted (.acquired result) = some (next, effects)) :
    handler.awaiting = .acquire ∧ ∃ permit awaiting,
      next = { handler with permit := permit, awaiting := awaiting } ∧
        (Unanswered awaiting ∨ awaiting = .providerChat ∧ aborted = false) := by
  simp only [ChatHandler.resume] at resumed
  split at resumed
  · next waiting =>
      have taken := congrArg Prod.fst (Option.some.inj resumed)
      refine ⟨waiting, ?_⟩
      cases result with
      | error error =>
          obtain ⟨awaiting, shape, unanswered⟩ :=
            settle_error handler aborted (.acquireError error)
          exact ⟨handler.permit, awaiting, taken.symm.trans shape, Or.inl unanswered⟩
      | ok permit =>
          simp only [ChatHandler.onAcquired] at taken
          split_ifs at taken with cancelled
          · obtain ⟨awaiting, shape, unanswered⟩ :=
              settle_error { handler with permit := some permit } aborted .requestAbortedError
            exact ⟨some permit, awaiting, taken.symm.trans shape, Or.inl unanswered⟩
          · exact ⟨some permit, .providerChat, taken.symm,
              Or.inr ⟨rfl, Bool.eq_false_iff.mpr cancelled⟩⟩
  · cases resumed

theorem resumed_provided {result : Except (RouteError Failure) Response}
    (resumed : handler.resume aborted (.providerSettled result) = some (next, effects)) :
    handler.awaiting = .providerChat ∧ ∃ awaiting,
      next = { handler with permit := none, awaiting := awaiting } ∧
        (Unanswered awaiting ∨ ∃ response, result = .ok response ∧
          (awaiting = .settled (.answered response) ∨
            awaiting = .cachePut response ∧ handler.useCache = true)) := by
  simp only [ChatHandler.resume] at resumed
  split at resumed
  · next asking =>
      have taken := congrArg Prod.fst (Option.some.inj resumed)
      refine ⟨asking, ?_⟩
      simp only [ChatHandler.onProviderSettled] at taken
      cases result with
      | error error =>
          obtain ⟨awaiting, shape, unanswered⟩ :=
            settle_error { handler with permit := none } aborted error
          exact ⟨awaiting, taken.symm.trans shape, Or.inl unanswered⟩
      | ok response =>
          dsimp only at taken
          split_ifs at taken with cancelled caches
          · obtain ⟨awaiting, shape, unanswered⟩ :=
              settle_error { handler with permit := none } aborted .requestAbortedError
            exact ⟨awaiting, taken.symm.trans shape, Or.inl unanswered⟩
          · exact ⟨_, taken.symm, Or.inr ⟨response, rfl, Or.inr ⟨rfl, caches⟩⟩⟩
          · exact ⟨_, taken.symm, Or.inr ⟨response, rfl, Or.inl rfl⟩⟩
  · cases resumed

theorem resumed_written {result : Except (RouteError Failure) Unit}
    (resumed : handler.resume aborted (.cacheWritten result) = some (next, effects)) :
    ∃ response, handler.awaiting = .cachePut response ∧ ∃ awaiting,
      next = { handler with awaiting := awaiting } ∧
        (Unanswered awaiting ∨ awaiting = .settled (.answered response)) := by
  simp only [ChatHandler.resume] at resumed
  split at resumed
  · next response storing =>
      have taken := congrArg Prod.fst (Option.some.inj resumed)
      refine ⟨response, storing, ?_⟩
      have thrown (error : RouteError Failure)
          (same : (handler.settle aborted (.error error)).1 = next) : ∃ awaiting,
          next = { handler with awaiting := awaiting } ∧
            (Unanswered awaiting ∨ awaiting = .settled (.answered response)) := by
        obtain ⟨awaiting, shape, unanswered⟩ := settle_error handler aborted error
        exact ⟨awaiting, same.symm.trans shape, Or.inl unanswered⟩
      cases result with
      | error error =>
          simp only [ChatHandler.onCacheWritten] at taken
          split_ifs at taken
          · exact thrown _ taken
          · exact thrown _ taken
          · exact ⟨_, taken.symm, Or.inr rfl⟩
      | ok done =>
          simp only [ChatHandler.onCacheWritten] at taken
          split_ifs at taken
          · exact thrown _ taken
          · exact ⟨_, taken.symm, Or.inr rfl⟩
  · cases resumed

end Handler

/-! ### Commands -/

def Replies {Reply Cause : Type} (command : CacheCommand Reply Cause) (reply : Reply) : Prop :=
  command.operation = some (.ok reply) ∨ command.result = some (.ok reply)

theorem replies_receive {Reply Cause : Type} {command : CacheCommand Reply Cause}
    {event : CommandEvent Reply Cause} {reply : Reply}
    (replies : Replies (command.receive event) reply) :
    Replies command reply ∨ event = .replied reply := by
  have settled (reason : Option (Cache.CacheError Cause))
      (outcome : Except (Cache.CacheError Cause) Reply)
      (heard : Replies ({ command with reason := reason }.settle outcome) reply) :
      Replies command reply ∨ outcome = .ok reply := by
    unfold CacheCommand.settle at heard
    split at heard
    · rcases heard with operation | result
      · exact Or.inr (Option.some.inj operation)
      · exact Or.inl (Or.inr result)
    · exact Or.inl heard
  have aborted (reason : Cache.CacheError Cause)
      (heard : Replies (command.abort reason) reply) : Replies command reply := by
    unfold CacheCommand.abort at heard
    split at heard
    · rcases settled _ _ heard with before | impossible
      · exact before
      · cases impossible
    · exact heard
  cases event with
  | replied given =>
      rcases settled command.reason (.ok given) replies with before | same
      · exact Or.inl before
      · cases same
        exact Or.inr rfl
  | failed failure =>
      rcases settled command.reason _ replies with before | impossible
      · exact Or.inl before
      · cases impossible
  | timeout => exact Or.inl (aborted _ replies)
  | parentAborted => exact Or.inl (aborted _ replies)
  | resumed =>
      left
      simp only [CacheCommand.receive, CacheCommand.resume] at replies
      split at replies
      · next reply' unsettled operation =>
          split at replies
          · rcases replies with same | same
            · exact Or.inl same
            · cases same
              exact Or.inl operation
          · rcases replies with same | impossible
            · exact Or.inl same
            · cases impossible
      · rcases replies with same | impossible
        · exact Or.inl same
        · cases impossible
      · exact replies

/-! ### What is known of an execution -/

/-- The pass of a request has returned the response. -/
def Provided (system : RouterSystem ChatResponse Failure) (asked : Option ℕ)
    (request : ChatRequest) (response : ChatResponse) : Prop :=
  ∃ id pass, asked = some id ∧ system.passes[id]? = some pass ∧ pass.request = request ∧
    pass.phase = .finished (.ok response)

/-- What has been found out for the promise that a handler awaits. -/
def StageHeld (events : List (ServiceEvent Failure)) (system : RouterSystem ChatResponse Failure)
    (index : ℕ) (execution : ChatExecution Failure) :
    ChatAwait ChatResponse (Thrown Failure) → Prop
  | .cacheGet => execution.handler.cacheStatus ≠ .hit ∧ execution.pass = none
  | .acquire => execution.handler.cacheStatus ≠ .hit ∧ execution.pass = none
  | .providerChat => execution.handler.cacheStatus ≠ .hit ∧
      ∃ id pass, execution.pass = some id ∧ system.passes[id]? = some pass ∧
        pass.request = execution.call.body
  | .cachePut response => execution.handler.cacheStatus ≠ .hit ∧
      Provided system execution.pass execution.call.body response
  | .settled (.answered response) =>
      (execution.handler.cacheStatus ≠ .hit ∧
        Provided system execution.pass execution.call.body response) ∨
      (execution.handler.cacheStatus = .hit ∧ execution.call.usesCache true = true ∧
        execution.pass = none ∧
        .read index execution.call.ownerId execution.document (some response) ∈ events)
  | .settled _ => True

structure LookupHeld (limits : CacheLimits) (events : List (ServiceEvent Failure)) (index : ℕ)
    (execution : ChatExecution Failure) (call : GetCall Failure) : Prop where
  opted : execution.call.usesCache true = true
  seen : ∀ data, call.data = some data →
    .read index execution.call.ownerId execution.document (readEntry limits data) ∈ events
  replied : ∀ data, Replies call.command data → call.data = some data

structure ExecutionHeld (limits : CacheLimits) (events : List (ServiceEvent Failure))
    (system : RouterSystem ChatResponse Failure) (index : ℕ) (execution : ChatExecution Failure) :
    Prop where
  body : Cache.Represents execution.document execution.call.body
  opted : execution.handler.useCache = true → execution.call.usesCache true = true
  lookup : ∀ call, execution.get = some call → LookupHeld limits events index execution call
  storing : ∀ call, execution.put = some call → execution.call.usesCache true = true ∧
    Provided system execution.pass execution.call.body call.response
  stage : StageHeld events system index execution execution.handler.awaiting

structure Wrote (system : RouterSystem ChatResponse Failure) (execution : ChatExecution Failure)
    (ownerId : JsString) (document : Document) (response : ChatResponse) : Prop where
  owner : execution.call.ownerId = ownerId
  document : execution.document = document
  opted : execution.call.usesCache true = true
  provided : Provided system execution.pass execution.call.body response

structure ServiceHistory (limits : CacheLimits) (router : ProviderRouter)
    (events : List (ServiceEvent Failure)) (state : ServiceState Failure) : Prop where
  executions : ∀ index execution, state.executions[index]? = some execution →
    ExecutionHeld limits events state.router index execution
  writes : ∀ index ownerId document response, .write index ownerId document response ∈ events →
    ∃ execution, state.executions[index]? = some execution ∧
      Wrote state.router execution ownerId document response
  passes : PassesHeld router state.router

/-! ### What is known stays true -/

/-- Passes keep their requests and their outcomes. -/
def PassesKept (system later : RouterSystem ChatResponse Failure) : Prop :=
  ∀ (id : ℕ) (pass : Providers.Pass ChatResponse Failure), system.passes[id]? = some pass →
    ∃ next, later.passes[id]? = some next ∧ next.request = pass.request ∧
      ∀ outcome, pass.phase = .finished outcome → next.phase = .finished outcome

theorem passesKept_refl (system : RouterSystem ChatResponse Failure) : PassesKept system system :=
  fun _ pass present => ⟨pass, present, rfl, fun _ finished => finished⟩

theorem passesKept_step {router : ProviderRouter} {system later : RouterSystem ChatResponse Failure}
    {event : RouterEvent ChatResponse Failure} (taken : RouterStep router system event later) :
    PassesKept system later :=
  fun _ _ present => Jobs.routerStep_kept taken present

variable {system later : RouterSystem ChatResponse Failure} {events : List (ServiceEvent Failure)}
  {event : ServiceEvent Failure} {limits : CacheLimits} {router : ProviderRouter} {index : ℕ}
  {execution next : ChatExecution Failure}

theorem Provided.kept {asked : Option ℕ} {request : ChatRequest} {response : ChatResponse}
    (provided : Provided system asked request response) (kept : PassesKept system later) :
    Provided later asked request response := by
  obtain ⟨id, pass, same, present, data, finished⟩ := provided
  obtain ⟨pass', present', data', finished'⟩ := kept id pass present
  exact ⟨id, pass', same, present', data'.trans data, finished' _ finished⟩

structure SameStage (execution next : ChatExecution Failure) : Prop where
  handler : next.handler = execution.handler
  document : next.document = execution.document
  pass : next.pass = execution.pass

theorem SameStage.call (same : SameStage execution next) : next.call = execution.call :=
  congrArg ChatHandler.call same.handler

theorem stageHeld_of_unanswered {awaiting : ChatAwait ChatResponse (Thrown Failure)}
    (unanswered : Unanswered awaiting) : StageHeld events system index execution awaiting := by
  obtain ⟨outcome, rfl, other⟩ := unanswered
  cases outcome with
  | answered response => exact absurd rfl (other response)
  | thrown error => trivial
  | cancelled => trivial

theorem StageHeld.carry {awaiting : ChatAwait ChatResponse (Thrown Failure)}
    (stage : StageHeld events system index execution awaiting) (kept : PassesKept system later)
    (same : SameStage execution next) : StageHeld (events ++ [event]) later index next awaiting := by
  have status : next.handler.cacheStatus = execution.handler.cacheStatus := by rw [same.handler]
  cases awaiting with
  | cacheGet => exact ⟨status ▸ stage.1, same.pass.trans stage.2⟩
  | acquire => exact ⟨status ▸ stage.1, same.pass.trans stage.2⟩
  | providerChat =>
      obtain ⟨missed, id, pass, asked, present, data⟩ := stage
      obtain ⟨pass', present', data', _⟩ := kept id pass present
      exact ⟨status ▸ missed, id, pass', same.pass.trans asked, present',
        by rw [data', data, same.call]⟩
  | cachePut response =>
      obtain ⟨missed, provided⟩ := stage
      rw [← same.pass, ← same.call] at provided
      exact ⟨status ▸ missed, provided.kept kept⟩
  | settled outcome =>
      cases outcome with
      | answered response =>
          rcases stage with ⟨missed, provided⟩ | ⟨hit, opted, unrouted, seen⟩
          · rw [← same.pass, ← same.call] at provided
            exact Or.inl ⟨status ▸ missed, provided.kept kept⟩
          · rw [← same.document, ← same.call] at seen
            rw [← same.call] at opted
            exact Or.inr ⟨status.trans hit, opted, same.pass.trans unrouted,
              List.mem_append_left _ seen⟩
      | thrown error => trivial
      | cancelled => trivial

theorem LookupHeld.carry {call : GetCall Failure}
    (held : LookupHeld limits events index execution call) (sameCall : next.call = execution.call)
    (sameDocument : next.document = execution.document) :
    LookupHeld limits (events ++ [event]) index next call where
  opted := by rw [sameCall]; exact held.opted
  seen := by
    intro data read
    rw [sameCall, sameDocument]
    exact List.mem_append_left _ (held.seen data read)
  replied := held.replied

/-- A step that leaves the handler and the pass alone. -/
theorem ExecutionHeld.carry (held : ExecutionHeld limits events system index execution)
    (kept : PassesKept system later) (same : SameStage execution next)
    (lookup : ∀ call, next.get = some call →
      LookupHeld limits (events ++ [event]) index next call)
    (storing : ∀ call, next.put = some call → ∃ old, execution.put = some old ∧
      old.response = call.response) :
    ExecutionHeld limits (events ++ [event]) later index next where
  body := by
    rw [same.document, same.call]
    exact held.body
  opted := by
    rw [same.handler, same.call]
    exact held.opted
  lookup := lookup
  storing := by
    intro call calling
    obtain ⟨old, before, response⟩ := storing call calling
    obtain ⟨opted, provided⟩ := held.storing old before
    rw [same.pass, same.call, ← response]
    exact ⟨opted, provided.kept kept⟩
  stage := by
    rw [same.handler]
    exact held.stage.carry kept same

theorem ExecutionHeld.unchanged (held : ExecutionHeld limits events system index execution)
    (kept : PassesKept system later) :
    ExecutionHeld limits (events ++ [event]) later index execution :=
  held.carry kept ⟨rfl, rfl, rfl⟩ (fun call calling => (held.lookup call calling).carry rfl rfl)
    (fun call calling => ⟨call, calling, rfl⟩)

theorem ExecutionHeld.resume (held : ExecutionHeld limits events system index execution)
    (sameCall : next.call = execution.call) (sameDocument : next.document = execution.document)
    (sameGet : next.get = execution.get)
    (opted : next.handler.useCache = true → execution.handler.useCache = true)
    (storing : ∀ call, next.put = some call → execution.call.usesCache true = true ∧
      Provided later next.pass execution.call.body call.response)
    (stage : StageHeld (events ++ [event]) later index next next.handler.awaiting) :
    ExecutionHeld limits (events ++ [event]) later index next where
  body := by
    rw [sameDocument, sameCall]
    exact held.body
  opted := by
    intro uses
    rw [sameCall]
    exact held.opted (opted uses)
  lookup := by
    intro call calling
    rw [sameGet] at calling
    exact (held.lookup call calling).carry sameCall sameDocument
  storing := by
    rw [sameCall]
    exact storing
  stage := stage

/-! ### Steps of the service -/

structure Continues (execution next : ChatExecution Failure) : Prop where
  call : next.call = execution.call
  document : next.document = execution.document
  pass : ∀ id, execution.pass = some id → next.pass = some id

theorem SameStage.continues (same : SameStage execution next) : Continues execution next :=
  ⟨same.call, same.document, fun _ asked => same.pass.trans asked⟩

theorem Wrote.continues {ownerId : JsString} {document : Document} {response : ChatResponse}
    (wrote : Wrote system execution ownerId document response)
    (continued : Continues execution next) (kept : PassesKept system later) :
    Wrote later next ownerId document response where
  owner := by rw [continued.call]; exact wrote.owner
  document := continued.document.trans wrote.document
  opted := by rw [continued.call]; exact wrote.opted
  provided := by
    obtain ⟨id, pass, asked, rest⟩ := wrote.provided
    rw [continued.call]
    exact Provided.kept ⟨id, pass, continued.pass id asked, rest⟩ kept

variable {state : ServiceState Failure} {cache : Cache.CacheState}

theorem ServiceHistory.replace (history : ServiceHistory limits router events state)
    (present : state.executions[index]? = some execution)
    (held : ExecutionHeld limits (events ++ [event]) later index next)
    (continued : Continues execution next) (kept : PassesKept state.router later)
    (passes : PassesHeld router later)
    (writes : ∀ other ownerId document response,
      event = .write other ownerId document response →
        other = index ∧ Wrote later next ownerId document response) :
    ServiceHistory limits router (events ++ [event])
      { executions := state.executions.set index next, cache := cache, router := later } where
  executions := by
    intro other found updated
    obtain ⟨inside, _⟩ := List.getElem?_eq_some_iff.mp present
    by_cases same : other = index
    · subst same
      rw [List.getElem?_set_self inside, Option.some.injEq] at updated
      exact updated ▸ held
    · rw [List.getElem?_set_ne (Ne.symm same)] at updated
      exact (history.executions other found updated).unchanged kept
  writes := by
    intro other ownerId document response member
    obtain ⟨inside, _⟩ := List.getElem?_eq_some_iff.mp present
    rcases List.mem_append.mp member with before | now
    · obtain ⟨writer, found, wrote⟩ := history.writes other ownerId document response before
      by_cases same : other = index
      · subst same
        cases present.symm.trans found
        exact ⟨next, List.getElem?_set_self inside, wrote.continues continued kept⟩
      · refine ⟨writer, ?_, wrote.continues ⟨rfl, rfl, fun _ asked => asked⟩ kept⟩
        rw [List.getElem?_set_ne (Ne.symm same)]
        exact found
    · obtain ⟨rfl, wrote⟩ := writes other ownerId document response (List.mem_singleton.mp now).symm
      exact ⟨next, List.getElem?_set_self inside, wrote⟩
  passes := passes

/-- A step that leaves the executions alone. -/
theorem ServiceHistory.keep (history : ServiceHistory limits router events state)
    (kept : PassesKept state.router later) (passes : PassesHeld router later)
    (silent : ∀ other ownerId document response,
      event ≠ .write other ownerId document response) :
    ServiceHistory limits router (events ++ [event])
      { executions := state.executions, cache := cache, router := later } where
  executions := fun index execution present =>
    (history.executions index execution present).unchanged kept
  writes := by
    intro index ownerId document response member
    rcases List.mem_append.mp member with before | now
    · obtain ⟨writer, found, wrote⟩ := history.writes index ownerId document response before
      exact ⟨writer, found, wrote.continues ⟨rfl, rfl, fun _ asked => asked⟩ kept⟩
    · exact absurd (List.mem_singleton.mp now).symm (silent _ _ _ _)
  passes := passes

section Continuations

variable {handler : ChatHandler ChatResponse (Thrown Failure)}
  {effects : List (ChatEffect ChatResponse)}

theorem ExecutionHeld.got {call : GetCall Failure}
    {result : Except (Cache.CacheError (Thrown Failure)) (List UInt8)}
    (held : ExecutionHeld limits events system index execution)
    (calling : execution.get = some call) (settled : call.command.result = some result)
    (resumed : execution.handler.resume execution.aborted
      (.cacheGot ((result.map (readEntry limits)).mapError RouteError.ofCacheError)) =
        some (handler, effects)) :
    Continues execution { execution with handler := handler } ∧
      ExecutionHeld limits (events ++ [event]) system index
        { execution with handler := handler } := by
  obtain ⟨looking, sameCall, uses, ends⟩ := resumed_got resumed
  have stage := held.stage
  rw [looking] at stage
  refine ⟨⟨sameCall, rfl, fun _ asked => asked⟩, held.resume sameCall rfl rfl uses ?_ ?_⟩
  · intro put putting
    exact held.storing put putting
  · rcases ends with unanswered | ⟨awaiting, missed⟩ | ⟨response, found, awaiting, hit⟩
    · exact stageHeld_of_unanswered unanswered
    · rw [awaiting]
      exact ⟨fun hit => stage.1 (missed hit), stage.2⟩
    · have lookup := held.lookup call calling
      have same : ({ execution with handler := handler } : ChatExecution Failure).call =
          execution.call := sameCall
      rw [awaiting]
      refine Or.inr ⟨hit, same ▸ lookup.opted, stage.2, List.mem_append_left _ ?_⟩
      cases result with
      | error error => cases found
      | ok data =>
          have entry : readEntry limits data = some response := Except.ok.inj found
          rw [same, ← entry]
          exact lookup.seen data (lookup.replied data (Or.inr settled))

theorem ExecutionHeld.turnedAway {result : Except AcquireError ℕ}
    (held : ExecutionHeld limits events system index execution)
    (resumed : execution.handler.resume execution.aborted (.acquired result) =
      some (handler, effects)) (ends : handler.awaiting ≠ .providerChat) :
    Continues execution { execution with handler := handler } ∧
      ExecutionHeld limits (events ++ [event]) system index
        { execution with handler := handler } := by
  obtain ⟨waiting, permit, awaiting, rfl, unanswered | ⟨asks, _⟩⟩ := resumed_acquired resumed
  · exact ⟨⟨rfl, rfl, fun _ asked => asked⟩,
      held.resume rfl rfl rfl id held.storing (stageHeld_of_unanswered unanswered)⟩
  · exact absurd asks ends

/-- The pass that is started for an admitted request is its first. -/
theorem ExecutionHeld.admitted {result : Except AcquireError ℕ} {id : ℕ}
    {pass : Providers.Pass ChatResponse Failure}
    (held : ExecutionHeld limits events system index execution)
    (resumed : execution.handler.resume execution.aborted (.acquired result) =
      some (handler, effects)) (asks : handler.awaiting = .providerChat)
    (present : later.passes[id]? = some pass) (request : pass.request = execution.call.body) :
    Continues execution { execution with handler := handler, pass := some id } ∧
      ExecutionHeld limits (events ++ [event]) later index
        { execution with handler := handler, pass := some id } := by
  obtain ⟨waiting, permit, awaiting, rfl, _⟩ := resumed_acquired resumed
  have stage := held.stage
  rw [waiting] at stage
  have unrouted (number : ℕ) (asked : execution.pass = some number) : False := by
    rw [stage.2] at asked
    cases asked
  refine ⟨⟨rfl, rfl, fun number asked => (unrouted number asked).elim⟩,
    held.resume rfl rfl rfl (fun uses => uses) ?_ ?_⟩
  · intro call putting
    obtain ⟨_, number, _, asked, _⟩ := held.storing call putting
    exact (unrouted number asked).elim
  · rw [asks]
    exact ⟨stage.1, id, pass, rfl, present, request⟩

theorem ExecutionHeld.provided {id : ℕ} {pass : Providers.Pass ChatResponse Failure}
    {outcome : Except (Thrown Failure) ChatResponse} {isResponseError : Failure → Bool}
    (held : ExecutionHeld limits events system index execution)
    (asked : execution.pass = some id) (running : system.passes[id]? = some pass)
    (finished : pass.phase = .finished outcome)
    (resumed : execution.handler.resume execution.aborted
      (.providerSettled (outcome.mapError (RouteError.ofThrown isResponseError))) =
        some (handler, effects)) :
    Continues execution (execution.afterProvider limits handler) ∧
      ExecutionHeld limits (events ++ [event]) system index
        (execution.afterProvider limits handler) := by
  obtain ⟨asking, awaiting, rfl, ends⟩ := resumed_provided resumed
  have stage := held.stage
  rw [asking] at stage
  obtain ⟨missed, number, pass', asked', running', request⟩ := stage
  cases asked.symm.trans asked'
  cases running.symm.trans running'
  have given {response : ChatResponse}
      (same : outcome.mapError (RouteError.ofThrown isResponseError) = .ok response) :
      Provided system execution.pass execution.call.body response := by
    cases outcome with
    | error error => cases same
    | ok value =>
        cases same
        exact ⟨id, pass, asked, running, request, finished⟩
  refine ⟨⟨rfl, rfl, fun _ asked => asked⟩, held.resume rfl rfl rfl (fun uses => uses) ?_ ?_⟩
  · intro call putting
    rcases ends with ⟨outcome, rfl, _⟩ | ⟨response, same, rfl | ⟨rfl, uses⟩⟩
    · cases putting
    · cases putting
    · cases putting
      exact ⟨held.opted uses, given same⟩
  · rcases ends with unanswered | ⟨response, same, rfl | ⟨rfl, uses⟩⟩
    · exact stageHeld_of_unanswered unanswered
    · exact Or.inl ⟨missed, given same⟩
    · exact ⟨missed, given same⟩

theorem ExecutionHeld.written {result : Except (RouteError (Thrown Failure)) Unit}
    (held : ExecutionHeld limits events system index execution)
    (resumed : execution.handler.resume execution.aborted (.cacheWritten result) =
      some (handler, effects)) :
    Continues execution { execution with handler := handler } ∧
      ExecutionHeld limits (events ++ [event]) system index
        { execution with handler := handler } := by
  obtain ⟨response, storing, awaiting, rfl, ends⟩ := resumed_written resumed
  have stage := held.stage
  rw [storing] at stage
  refine ⟨⟨rfl, rfl, fun _ asked => asked⟩,
    held.resume rfl rfl rfl (fun uses => uses) held.storing ?_⟩
  rcases ends with unanswered | rfl
  · exact stageHeld_of_unanswered unanswered
  · exact Or.inl stage

end Continuations

/-! ### The beginning and the commands -/

theorem handler_start (Failure : Type) (call : ChatCall) :
    ∃ awaiting : ChatAwait ChatResponse (Thrown Failure),
    (ChatHandler.start true call).1 = ⟨call, call.usesCache true, .bypass, none, awaiting⟩ ∧
      (awaiting = .cacheGet ∨ awaiting = .acquire) := by
  simp only [ChatHandler.start]
  split_ifs
  · exact ⟨_, rfl, Or.inl rfl⟩
  · exact ⟨_, rfl, Or.inr rfl⟩

theorem executionHeld_start {document : Document} {call : ChatCall} {aborted : Bool}
    (accepted : Cache.Represents document call.body) :
    ExecutionHeld limits events system index (ChatExecution.start document call aborted) := by
  obtain ⟨awaiting, started, first⟩ := handler_start Failure call
  have sameCall : (ChatExecution.start document call aborted : ChatExecution Failure).call = call :=
    congrArg ChatHandler.call started
  constructor
  · rw [sameCall]
    exact accepted
  · intro uses
    rw [sameCall]
    exact (congrArg ChatHandler.useCache started).symm.trans uses
  · intro get calling
    simp only [ChatExecution.start] at calling
    split_ifs at calling with uses
    cases calling
    refine ⟨by rw [sameCall]; exact uses, ?_, ?_⟩
    · intro data read
      cases aborted <;> cases read
    · intro data replied
      cases aborted <;> rcases replied with impossible | impossible <;> cases impossible
  · intro put putting
    cases putting
  · have status : (ChatExecution.start document call aborted :
        ChatExecution Failure).handler.cacheStatus ≠ .hit := by
      simp only [ChatExecution.start, started]
      decide
    have same : (ChatExecution.start document call aborted :
        ChatExecution Failure).handler.awaiting = awaiting :=
      congrArg ChatHandler.awaiting started
    rw [same]
    rcases first with rfl | rfl
    · exact ⟨status, rfl⟩
    · exact ⟨status, rfl⟩

theorem LookupHeld.receive {call : GetCall Failure}
    {heard : CommandEvent (List UInt8) (Thrown Failure)}
    (held : LookupHeld limits events index execution call) (same : SameStage execution next)
    (possible : ∀ data, heard = .replied data → call.data = some data) :
    LookupHeld limits (events ++ [event]) index next (call.receive heard) := by
  have carried : LookupHeld limits (events ++ [event]) index next call :=
    held.carry same.call same.document
  refine ⟨carried.opted, carried.seen, ?_⟩
  intro data replies
  rcases replies_receive replies with before | now
  · exact carried.replied data before
  · exact possible data now

theorem ExecutionHeld.abort (held : ExecutionHeld limits events system index execution)
    (kept : PassesKept system later) :
    ExecutionHeld limits (events ++ [event]) later index execution.abort := by
  have same : SameStage execution execution.abort := ⟨rfl, rfl, rfl⟩
  apply held.carry kept same
  · intro call calling
    obtain ⟨old, before, rfl⟩ := Option.map_eq_some_iff.mp calling
    exact (held.lookup old before).receive same (by simp)
  · intro call calling
    obtain ⟨old, before, rfl⟩ := Option.map_eq_some_iff.mp calling
    exact ⟨old, before, rfl⟩

variable {digest : JsString → JsString} {namespaceId : JsString}
  {isResponseError : Failure → Bool} {following : ServiceState Failure}

theorem ServiceHistory.step (history : ServiceHistory limits router events state)
    (taken : ServiceStep digest limits namespaceId router isResponseError state event following) :
    ServiceHistory limits router (events ++ [event]) following := by
  have kept := passesKept_refl state.router
  cases taken with
  | elapse milliseconds => exact history.keep kept history.passes (by simp)
  | route others taken =>
      exact history.keep (passesKept_step taken) (history.passes.step taken) (by simp)
  | arrive document call aborted accepted =>
      have before : ServiceHistory limits router (events ++ [.arrive document call aborted])
          state := history.keep kept history.passes (by simp)
      refine ⟨?_, ?_, history.passes⟩
      · intro index execution present
        rcases Nat.lt_or_ge index state.executions.length with inside | outside
        · rw [List.getElem?_append_left inside] at present
          exact before.executions index execution present
        · rw [List.getElem?_append_right outside] at present
          obtain rfl := List.mem_singleton.mp (List.mem_of_getElem? present)
          exact executionHeld_start accepted
      · intro index ownerId data response member
        obtain ⟨writer, found, wrote⟩ := before.writes index ownerId data response member
        obtain ⟨inside, _⟩ := List.getElem?_eq_some_iff.mp found
        exact ⟨writer, by rw [List.getElem?_append_left inside, found], wrote⟩
  | @read index execution call present calling sent pending =>
      have held := history.executions index execution present
      have lookup := held.lookup call calling
      have same : SameStage execution { execution with get := some { call with
          data := some (Cache.getrange state.cache.redis state.cache.nowMs
            (Cache.chatCacheKey digest namespaceId execution.call.ownerId execution.document)
            limits.maxEntryBytes) } } := ⟨rfl, rfl, rfl⟩
      refine history.replace present (held.carry kept same ?_ ?_) same.continues kept
        history.passes (by simp)
      · rintro _ ⟨⟩
        refine ⟨lookup.opted, ?_, ?_⟩
        · rintro data ⟨⟩
          exact List.mem_append_right _ (List.mem_singleton_self _)
        · intro data replies
          cases pending.symm.trans (lookup.replied data replies)
      · exact fun put putting => ⟨put, putting, rfl⟩
  | @getEvent index execution call heard present calling possible =>
      have held := history.executions index execution present
      have same : SameStage execution { execution with get := some (call.receive heard) } :=
        ⟨rfl, rfl, rfl⟩
      refine history.replace present (held.carry kept same ?_ ?_) same.continues kept
        history.passes (by simp)
      · rintro _ ⟨⟩
        apply (held.lookup call calling).receive same
        rintro data rfl
        exact possible
      · exact fun put putting => ⟨put, putting, rfl⟩
  | @got index execution call result handler effects present calling settled resumed =>
      obtain ⟨continued, held⟩ :=
        (history.executions index execution present).got calling settled resumed
      exact history.replace present held continued kept history.passes (by simp)
  | @turnedAway index execution result handler effects present resumed ends =>
      obtain ⟨continued, held⟩ :=
        (history.executions index execution present).turnedAway resumed ends
      exact history.replace present held continued kept history.passes (by simp)
  | @admitted index id execution result handler effects now system present resumed asks started =>
      have signal : execution.aborted = false := by
        obtain ⟨_, _, _, rfl, ⟨_, rfl, _⟩ | ⟨_, unaborted⟩⟩ := resumed_acquired resumed
        · cases asks
        · exact unaborted
      obtain ⟨pass, found, request⟩ := Jobs.started_pass (signal ▸ started)
      obtain ⟨continued, held⟩ :=
        (history.executions index execution present).admitted resumed asks found request
      exact history.replace present held continued (passesKept_step started)
        (history.passes.step started) (by simp)
  | @provided index id execution pass outcome handler effects present asked running finished
      resumed =>
      obtain ⟨continued, held⟩ := (history.executions index execution present).provided asked
        running finished resumed
      exact history.replace present held continued kept history.passes (by simp)
  | @write index execution call present calling sent pending =>
      have held := history.executions index execution present
      have same : SameStage execution
          { execution with put := some { call with carriedOut := true } } := ⟨rfl, rfl, rfl⟩
      obtain ⟨opted, provided⟩ := held.storing call calling
      refine history.replace present (held.carry kept same ?_ ?_) same.continues kept
        history.passes ?_
      · exact fun get getting => (held.lookup get getting).carry rfl rfl
      · rintro _ ⟨⟩
        exact ⟨call, calling, rfl⟩
      · rintro other ownerId document response ⟨⟩
        exact ⟨rfl, rfl, rfl, opted, provided⟩
  | @putEvent index execution call heard present calling possible =>
      have held := history.executions index execution present
      have same : SameStage execution { execution with put := some (call.receive heard) } :=
        ⟨rfl, rfl, rfl⟩
      refine history.replace present (held.carry kept same ?_ ?_) same.continues kept
        history.passes (by simp)
      · exact fun get getting => (held.lookup get getting).carry rfl rfl
      · rintro _ ⟨⟩
        exact ⟨call, calling, rfl⟩
  | @written index execution call result handler effects present calling settled resumed =>
      obtain ⟨continued, held⟩ := (history.executions index execution present).written resumed
      exact history.replace present held continued kept history.passes (by simp)
  | @abortUnrouted index execution present first unrouted =>
      exact history.replace present ((history.executions index execution present).abort kept)
        ⟨rfl, rfl, fun _ asked => asked⟩ kept history.passes (by simp)
  | @abortRouted index id execution now system present first routed taken =>
      exact history.replace present
        ((history.executions index execution present).abort (passesKept_step taken))
        ⟨rfl, rfl, fun _ asked => asked⟩ (passesKept_step taken) (history.passes.step taken)
        (by simp)

/-! ### Answers and their sources -/

def ServiceEvent.elapsed : ServiceEvent Failure → ℕ
  | .elapse milliseconds => milliseconds
  | _ => 0

def elapsedMs (events : List (ServiceEvent Failure)) : ℕ :=
  (events.map ServiceEvent.elapsed).sum

theorem elapsedMs_append (left right : List (ServiceEvent Failure)) :
    elapsedMs (left ++ right) = elapsedMs left + elapsedMs right := by
  simp [elapsedMs]

theorem clock_service (namespaceId : JsString) (start : ℤ) (events : List (ServiceEvent Failure)) :
    Cache.clock start (events.flatMap (ServiceEvent.cacheEvents namespaceId)) =
      start + elapsedMs events := by
  induction events generalizing start with
  | nil => simp [Cache.clock, elapsedMs]
  | cons event rest ih =>
      rw [List.flatMap_cons, Cache.clock_append, ih]
      have first : Cache.clock start (event.cacheEvents namespaceId) = start + event.elapsed := by
        cases event <;> simp [ServiceEvent.cacheEvents, ServiceEvent.elapsed, Cache.clock]
      rw [first]
      simp only [elapsedMs, List.map_cons, List.sum_cons, Nat.cast_add]
      omega

theorem written_of_puts {ownerId : JsString} {document : Document} {start : ℤ}
    {offer : Offer ChatResponse}
    (member : offer ∈ Cache.puts limits namespaceId ownerId document start
      (events.flatMap (ServiceEvent.cacheEvents namespaceId))) :
    ∃ earlier between source written,
      events = earlier ++ .write source ownerId written offer.value :: between ∧
        offer.time = start + elapsedMs earlier ∧
          Json.Reordered written.value document.value := by
  induction events generalizing start with
  | nil => cases member
  | cons event rest ih =>
      rw [List.flatMap_cons, Cache.puts_append] at member
      rcases List.mem_append.mp member with now | later
      · cases event with
        | write source owner written response =>
            simp only [ServiceEvent.cacheEvents, Cache.puts] at now
            split at now
            · next matched =>
                obtain ⟨_, rfl, equal⟩ := matched
                rw [List.append_nil] at now
                obtain ⟨answer, fitting, rfl⟩ := List.mem_map.mp now
                have answered := (Cache.fits_of_fittingAnswer (Option.mem_toList.mp fitting)).1
                rw [Cache.isChatResponse_responseJson] at answered
                cases answered
                exact ⟨[], rest, source, written, rfl, by simp [elapsedMs], equal⟩
            · cases now
        | elapse milliseconds => cases now
        | read index owner written answer => cases now
        | arrive data call aborted => cases now
        | getEvent index heard => cases now
        | got index => cases now
        | acquired index result => cases now
        | route heard => cases now
        | provided index => cases now
        | putEvent index heard => cases now
        | written index => cases now
        | abort index => cases now
      · obtain ⟨earlier, between, source, written, rfl, time, equal⟩ := ih later
        refine ⟨event :: earlier, between, source, written, rfl, ?_, equal⟩
        have first := clock_service namespaceId start [event]
        simp only [List.flatMap_cons, List.flatMap_nil, List.append_nil] at first
        have split : elapsedMs (event :: earlier) = elapsedMs [event] + elapsedMs earlier :=
          elapsedMs_append [event] earlier
        rw [time, first, split, Nat.cast_add, add_assoc]

theorem serviceHistory_of_run {nowMs : ℤ} {clock : ℚ} {circuits : Providers.Circuits}
    (run : Run (ServiceStep digest limits namespaceId router isResponseError)
      (.initial nowMs clock circuits) events state) :
    ServiceHistory limits router events state := by
  apply run.historyInvariant (ServiceHistory limits router)
  · refine ⟨?_, ?_, ?_, ?_⟩
    · intro index execution present
      cases present
    · intro index ownerId document response member
      cases member
    · simp [ServiceState.initial, RouterSystem.initial]
    · simp [ServiceState.initial, RouterSystem.initial]
  · intro history state event following held taken
    exact held.step taken

/-- What Redis has read for a lookup it has written before, less than a lifetime ago. -/
theorem read_written {nowMs : ℤ} {clock : ℚ} {circuits : Providers.Circuits}
    (run : Run (ServiceStep digest limits namespaceId router isResponseError)
      (.initial nowMs clock circuits) events state)
    (collisionFree : CollisionFree digest (Cache.hashedTexts
      (events.flatMap (ServiceEvent.cacheEvents namespaceId))))
    {ownerId : JsString} {document : Document} {response : ChatResponse}
    (seen : .read index ownerId document (some response) ∈ events) :
    ∃ earlier between later source written,
      events = earlier ++ .write source ownerId written response ::
        (between ++ .read index ownerId document (some response) :: later) ∧
      elapsedMs between < limits.ttlSeconds * 1000 ∧
      Json.Reordered written.value document.value := by
  obtain ⟨before, later, rfl⟩ := List.append_of_mem seen
  obtain ⟨middle, following, upTo, taken, _⟩ := run.split_event before later _
  have separated : ∀ event ∈ before.flatMap (ServiceEvent.cacheEvents namespaceId),
      Cache.Separated digest (Cache.keyText namespaceId ownerId document) event := by
    intro event member
    cases event with
    | elapse milliseconds => trivial
    | get _ _ _ _ => trivial
    | put namespaceId' ownerId' document' value =>
        intro same
        apply collisionFree _ _ _ _ same
        · rw [List.flatMap_append]
          exact List.mem_filterMap.mpr ⟨_, List.mem_append_left _ member, rfl⟩
        · rw [List.flatMap_append, List.flatMap_cons]
          exact List.mem_filterMap.mpr
            ⟨_, List.mem_append_right _ (List.mem_append_left _ (List.mem_singleton_self _)), rfl⟩
  have entries := Cache.entryInvariant_run (service_cache upTo) separated
  have found : Cache.get digest limits middle.cache namespaceId ownerId document =
      some response := by
    generalize answered : (some response : Option ChatResponse) = answer at taken
    cases taken with
    | read present calling sent pending => rfl
  obtain ⟨offer, member, rfl, unexpired⟩ := (Cache.get_iff entries response).mp found
  obtain ⟨earlier, between, source, written, rfl, time, equal⟩ :=
    written_of_puts (Offer.mem_of_mem_taken member)
  refine ⟨earlier, between, later, source, written, by simp, ?_, equal⟩
  have instant : elapsedMs (.write source ownerId written offer.value :: between) =
      elapsedMs between := by
    simp [elapsedMs, ServiceEvent.elapsed]
  rw [clock_service, time, elapsedMs_append, instant, Cache.lifetimeMs] at unexpired
  omega

/-- A provider has answered in the pass of the execution, which was for its
conversation. -/
def AnsweredBy (router : ProviderRouter) (system : RouterSystem ChatResponse Failure)
    (execution : ChatExecution Failure) (response : ChatResponse) : Prop :=
  ∃ id pass, execution.pass = some id ∧ system.passes[id]? = some pass ∧
    pass.request = execution.call.body ∧ pass.phase = .finished (.ok response) ∧
    ∃ role asked, .answered role (.ok response) ∈ pass.log ∧ .invoked role asked ∈ pass.log ∧
      Jobs.AskedFor router execution.call.body asked role

theorem Provided.answeredBy {response : ChatResponse} (passes : PassesHeld router system)
    (provided : Provided system execution.pass execution.call.body response) :
    AnsweredBy router system execution response := by
  obtain ⟨id, pass, asked, present, request, finished⟩ := provided
  have member := List.mem_of_getElem? present
  obtain ⟨role, data, answered, invoked, due⟩ := Jobs.finished_answered
    (passes.passes pass member) (passes.evidence pass member) finished
  exact ⟨id, pass, asked, present, request, finished, role, data, answered, invoked,
    request ▸ due⟩

/-- An answer has been given by a provider in the pass of its request or, if it is a hit,
in that of another request of the owner with the same conversation, whose answer Redis
has written less than its lifetime before it has read it. -/
theorem chat_answers_explained {nowMs : ℤ} {clock : ℚ} {circuits : Providers.Circuits}
    (run : Run (ServiceStep digest limits namespaceId router isResponseError)
      (.initial nowMs clock circuits) events state)
    (collisionFree : CollisionFree digest (Cache.hashedTexts
      (events.flatMap (ServiceEvent.cacheEvents namespaceId))))
    (present : state.executions[index]? = some execution) {response : ChatResponse}
    (answered : execution.handler.awaiting = .settled (.answered response)) :
    (execution.handler.cacheStatus ≠ .hit ∧
      AnsweredBy router state.router execution response) ∨
    (execution.handler.cacheStatus = .hit ∧ execution.call.usesCache true = true ∧
      execution.pass = none ∧
      ∃ earlier between later source writer,
        events = earlier ++ .write source execution.call.ownerId writer.document response ::
          (between ++ .read index execution.call.ownerId execution.document (some response) ::
            later) ∧
        elapsedMs between < limits.ttlSeconds * 1000 ∧
        state.executions[source]? = some writer ∧
        writer.call.ownerId = execution.call.ownerId ∧ writer.call.body = execution.call.body ∧
        writer.call.usesCache true = true ∧ AnsweredBy router state.router writer response) := by
  have history := serviceHistory_of_run run
  have held := history.executions index execution present
  have stage := held.stage
  rw [answered] at stage
  rcases stage with ⟨missed, provided⟩ | ⟨hit, opted, unrouted, seen⟩
  · exact Or.inl ⟨missed, provided.answeredBy history.passes⟩
  · obtain ⟨earlier, between, later, source, written, rfl, fresh, equal⟩ :=
      read_written run collisionFree seen
    obtain ⟨writer, found, wrote⟩ := history.writes source execution.call.ownerId written response
      (List.mem_append_right _ List.mem_cons_self)
    obtain rfl := wrote.document
    have conversation := Cache.represents_unique (history.executions source writer found).body
      held.body equal
    exact Or.inr ⟨hit, opted, unrouted, earlier, between, later, source, writer, rfl, fresh, found,
      wrote.owner, conversation, wrote.opted, wrote.provided.answeredBy history.passes⟩

theorem servedLimit_pos : 1 ≤ 300 := by
  decide

def servedLimits : CacheLimits :=
  ⟨300, 300, 300, servedLimit_pos, servedLimit_pos, servedLimit_pos⟩

def servedCall : ChatCall :=
  ⟨JsString.ofString "alice", Cache.sampleConversation, some (JsString.ofString "use"), none⟩

def servedAnswer : ChatResponse := ⟨JsString.ofString "hello"⟩

abbrev ServedStep : ServiceState Unit → ServiceEvent Unit → ServiceState Unit → Prop :=
  ServiceStep id servedLimits (JsString.ofString "test") sampleRouter (fun _ => false)

def emptyCache : Cache.CacheState := ⟨0, ExpiringStore.empty⟩

def servedCache : Cache.CacheState :=
  Cache.put id servedLimits emptyCache (JsString.ofString "test") servedCall.ownerId
    Cache.sampleRequest (responseJson servedAnswer)

def servedData (cache : Cache.CacheState) (document : Document) : List UInt8 :=
  Cache.getrange cache.redis cache.nowMs
    (Cache.chatCacheKey id (JsString.ofString "test") servedCall.ownerId document)
    servedLimits.maxEntryBytes

def lookingHandler : ChatHandler ChatResponse (Thrown Unit) :=
  ⟨servedCall, true, .bypass, none, .cacheGet⟩

def servedLooking (document : Document) (data : Option (List UInt8))
    (command : CacheCommand (List UInt8) (Thrown Unit)) : ChatExecution Unit :=
  { document := document
    handler := lookingHandler
    aborted := false
    get := some ⟨command, true, data⟩
    put := none
    pass := none }

def servedLooked (document : Document) (data : List UInt8) : ChatExecution Unit :=
  { servedLooking document (some data) ⟨none, some (.ok data), some (.ok data)⟩ with
    handler := (lookingHandler.onCacheGot false (.ok (readEntry servedLimits data))).1 }

/-- A new request is given what Redis has for it. -/
theorem served_lookup (executions : List (ChatExecution Unit)) (cache : Cache.CacheState)
    (system : RouterSystem ChatResponse Unit) (document : Document)
    (accepted : Cache.Represents document servedCall.body) :
    ∃ events, Run ServedStep ⟨executions, cache, system⟩ events
      ⟨executions ++ [servedLooked document (servedData cache document)], cache, system⟩ := by
  let data := servedData cache document
  have last (execution : ChatExecution Unit) :
      (executions ++ [execution])[executions.length]? = some execution :=
    List.getElem?_concat_length
  have replaced (execution next : ChatExecution Unit) :
      (executions ++ [execution]).set executions.length next = executions ++ [next] := by
    simp
  have calling (read : Option (List UInt8)) (command : CacheCommand (List UInt8) (Thrown Unit)) :
      (servedLooking document read command).get = some ⟨command, true, read⟩ := rfl
  have arrived : ServedStep ⟨executions, cache, system⟩ (.arrive document servedCall false)
      ⟨executions ++ [servedLooking document none .initial], cache, system⟩ :=
    .arrive _ document servedCall false accepted
  have read : ServedStep ⟨executions ++ [servedLooking document none .initial], cache, system⟩
      (.read executions.length servedCall.ownerId document
        (Cache.get id servedLimits cache (JsString.ofString "test") servedCall.ownerId document))
      ⟨executions ++ [servedLooking document (some data) .initial], cache, system⟩ := by
    rw [← replaced (servedLooking document none .initial)
      (servedLooking document (some data) .initial)]
    exact .read _ (last _) (calling none .initial) rfl rfl
  have replied : ServedStep
      ⟨executions ++ [servedLooking document (some data) .initial], cache, system⟩
      (.getEvent executions.length (.replied data))
      ⟨executions ++ [servedLooking document (some data) ⟨none, some (.ok data), none⟩],
        cache, system⟩ := by
    rw [← replaced (servedLooking document (some data) .initial)
      (servedLooking document (some data) ⟨none, some (.ok data), none⟩)]
    exact .getEvent _ (last _) (calling (some data) .initial) rfl
  have returned : ServedStep
      ⟨executions ++ [servedLooking document (some data) ⟨none, some (.ok data), none⟩],
        cache, system⟩ (.getEvent executions.length .resumed)
      ⟨executions ++ [servedLooking document (some data)
        ⟨none, some (.ok data), some (.ok data)⟩], cache, system⟩ := by
    rw [← replaced (servedLooking document (some data) ⟨none, some (.ok data), none⟩)
      (servedLooking document (some data) ⟨none, some (.ok data), some (.ok data)⟩)]
    exact .getEvent _ (last _) (calling (some data) ⟨none, some (.ok data), none⟩) trivial
  have got : ServedStep
      ⟨executions ++ [servedLooking document (some data)
        ⟨none, some (.ok data), some (.ok data)⟩], cache, system⟩ (.got executions.length)
      ⟨executions ++ [servedLooked document data], cache, system⟩ := by
    rw [← replaced (servedLooking document (some data) ⟨none, some (.ok data), some (.ok data)⟩)
      (servedLooked document data)]
    exact .got _ (last _) (calling (some data) ⟨none, some (.ok data), some (.ok data)⟩) rfl rfl
  exact ⟨_, ((((Run.single arrived).snoc read).snoc replied).snoc returned).snoc got⟩

def servedOutcome : Except (Thrown Unit) ChatResponse := .ok servedAnswer

def servedPass (phase : PassPhase ChatResponse Unit) (count : ℕ) : Pass ChatResponse Unit :=
  { mode := .chat
    request := servedCall.body
    aborted := false
    emitted := false
    attempted := true
    writes := []
    phase := phase
    log := [.tried .primary servedCall.body, .metric (.providerStart "ollama" .chat),
      .invoked .primary servedCall.body, .answered .primary servedOutcome,
      .metric (.providerEnd "ollama" .chat (Pass.providerOutcome servedOutcome)),
      .concluded .primary servedOutcome].take count }

def servedMiss (pass permit : Option ℕ) (put : Option (PutCall Unit))
    (awaiting : ChatAwait ChatResponse (Thrown Unit)) : ChatExecution Unit :=
  { servedLooked Cache.sampleRequest [] with
    handler := ⟨servedCall, true, .miss, permit, awaiting⟩
    put := put
    pass := pass }

def servedMissed : ChatExecution Unit := servedMiss none none none .acquire

def servedAsking : ChatExecution Unit := servedMiss (some 0) (some 0) none .providerChat

def servedStoring (carriedOut : Bool) : ChatExecution Unit :=
  servedMiss (some 0) none
    (some { PutCall.start servedLimits servedAnswer with carriedOut := carriedOut })
    (.cachePut servedAnswer)

def servedState (execution : ChatExecution Unit) (circuits : Providers.Circuits)
    (passes : List (Pass ChatResponse Unit)) : ServiceState Unit :=
  ⟨[execution], emptyCache, ⟨0, circuits, passes⟩⟩

theorem served_asked : ∃ events circuits, Run ServedStep
    (servedState servedMissed (fun _ => .initial) []) events
    (servedState servedAsking circuits [servedPass (.finished servedOutcome) 6]) := by
  have waiting : (servedState servedMissed (fun _ => .initial) []).executions[0]? =
      some servedMissed := rfl
  have admitted : ServedStep (servedState servedMissed (fun _ => .initial) [])
      (.acquired 0 (.ok 0))
      (servedState servedAsking sampleCircuits
        [servedPass (.operating .primary sampleRouter.primary 0) 3]) :=
    .admitted _ waiting rfl rfl (.start le_rfl rfl)
  have answered : ServedStep
      (servedState servedAsking sampleCircuits
        [servedPass (.operating .primary sampleRouter.primary 0) 3])
      (.route ⟨0, 0, .answer servedOutcome⟩)
      (servedState servedAsking sampleCircuits
        [servedPass (.executing .primary sampleRouter.primary 0 servedOutcome) 4]) :=
    .route _ (fun _ _ _ => by simp) (.step le_rfl rfl (.answer rfl))
  have resumed {circuits circuits' : Providers.Circuits} {pass pass' : Pass ChatResponse Unit}
      (taken : RouterStep sampleRouter ⟨0, circuits, [pass]⟩ ⟨0, 0, .resume⟩
        ⟨0, circuits', [pass']⟩) :
      ServedStep (servedState servedAsking circuits [pass]) (.route ⟨0, 0, .resume⟩)
        (servedState servedAsking circuits' [pass']) :=
    .route _ (fun _ _ _ => by simp) taken
  have executed : RouterStep sampleRouter
      ⟨0, sampleCircuits, [servedPass (.executing .primary sampleRouter.primary 0 servedOutcome) 4]⟩
      ⟨0, 0, .resume⟩ ⟨0, _, [servedPass (.calling .primary sampleRouter.primary servedOutcome) 4]⟩ :=
    .step le_rfl rfl (.execute rfl)
  have leaves : (servedPass (.calling .primary sampleRouter.primary servedOutcome) 4).leave .primary
      sampleRouter.primary servedOutcome = servedPass (.routing servedOutcome) 6 := rfl
  have left (circuits : Providers.Circuits) : RouterStep sampleRouter
      ⟨0, circuits, [servedPass (.calling .primary sampleRouter.primary servedOutcome) 4]⟩
      ⟨0, 0, .resume⟩ ⟨0, circuits, [servedPass (.routing servedOutcome) 6]⟩ := by
    rw [← leaves]
    exact .step le_rfl rfl (.call rfl)
  have routed (circuits : Providers.Circuits) : RouterStep sampleRouter
      ⟨0, circuits, [servedPass (.routing servedOutcome) 6]⟩
      ⟨0, 0, .resume⟩ ⟨0, circuits, [servedPass (.finished servedOutcome) 6]⟩ := by
    have taken := @PassStep.route _ _ sampleRouter 0 (servedPass (.routing servedOutcome) 6)
      circuits servedOutcome rfl
    exact .step le_rfl rfl taken
  exact ⟨_, _, ((((Run.single admitted).snoc answered).snoc (resumed executed)).snoc
    (resumed (left _))).snoc (resumed (routed _))⟩

theorem served_written (circuits : Providers.Circuits) :
    let passes := [servedPass (.finished servedOutcome) 6]
    ∃ events, Run ServedStep (servedState servedAsking circuits passes) events
      ⟨[servedStoring true], servedCache, ⟨0, circuits, passes⟩⟩ := by
  intro passes
  have asking : (servedState servedAsking circuits passes).executions[0]? =
      some servedAsking := rfl
  have provided : ServedStep (servedState servedAsking circuits passes) (.provided 0)
      (servedState (servedStoring false) circuits passes) :=
    .provided _ asking rfl rfl rfl rfl
  have storing : (servedState (servedStoring false) circuits passes).executions[0]? =
      some (servedStoring false) := rfl
  have written : ServedStep (servedState (servedStoring false) circuits passes)
      (.write 0 servedCall.ownerId Cache.sampleRequest servedAnswer)
      ⟨[servedStoring true], servedCache, ⟨0, circuits, passes⟩⟩ :=
    .write _ storing rfl (by decide +kernel) rfl
  exact ⟨_, (Run.single provided).snoc written⟩

/-- The second request has its properties in another order and asks nobody. -/
theorem chat_answers_explained_hit :
    ∃ events state writer execution,
      Run ServedStep (.initial 0 0 (fun _ => .initial)) events state ∧
      state.executions = [writer, execution] ∧
      writer.document = Cache.sampleRequest ∧ execution.document = Cache.sampleReordered ∧
      execution.handler.awaiting = .settled (.answered servedAnswer) ∧ execution.pass = none ∧
      AnsweredBy sampleRouter state.router writer servedAnswer := by
  have accepted : Cache.Represents Cache.sampleRequest servedCall.body := .refl _
  have reordered : Cache.Represents Cache.sampleReordered servedCall.body :=
    (Json.canonicalText_eq_iff Cache.sampleReordered.distinctKeys
      Cache.sampleRequest.distinctKeys).mp (by decide +kernel)
  obtain ⟨asking, circuits, asked⟩ := served_asked
  obtain ⟨storing, stored⟩ := served_written circuits
  obtain ⟨missing, missed⟩ := served_lookup [] emptyCache (.initial 0 (fun _ => .initial))
    Cache.sampleRequest accepted
  obtain ⟨hitting, hit⟩ := served_lookup [servedStoring true] servedCache _
    Cache.sampleReordered reordered
  have run := ((missed.append asked).append stored).append hit
  have answered : (servedLooked Cache.sampleReordered
      (servedData servedCache Cache.sampleReordered)).handler.awaiting =
        .settled (.answered servedAnswer) := by
    decide +kernel
  have looked : (⟨[servedStoring true, servedLooked Cache.sampleReordered
      (servedData servedCache Cache.sampleReordered)], servedCache,
      ⟨0, circuits, [servedPass (.finished servedOutcome) 6]⟩⟩ :
        ServiceState Unit).executions[1]? = some _ := rfl
  refine ⟨_, _, _, _, run, rfl, rfl, rfl, answered, rfl, ?_⟩
  rcases chat_answers_explained run (fun _ _ _ _ same => same) looked answered with
    ⟨missed, _⟩ | ⟨_, _, _, _, _, _, source, writer, _, _, present, _, _, _, provided⟩
  · exact absurd (by decide +kernel) missed
  · rcases source with _ | _ | source
    · cases present
      exact provided
    · cases present
      obtain ⟨_, _, asked, _⟩ := provided
      cases asked
    · cases present

end ModelMux.Routes
