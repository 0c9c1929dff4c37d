/-
The cache never alters inference.

The behaviour of the awaited promises fixes what the chat handler does to its
end.  Unless the lookup returns an answer, the handler acquires, calls the
provider and releases as it does without a cache, and ends in the same way.
-/

import ModelMux.Cache.CacheCommand
import ModelMux.Routes.ChatHandler

namespace ModelMux.Routes

open CodeUnit (isSpace)
open Cache (CacheError CacheLimits ChatResponse CommandEvent getResult putResult
  getResult_not_aborted putResult_not_aborted)
open Concurrency (AcquireError)
open Providers (ChatRequest)

variable {Failure : Type}

def RouteError.ofCacheError : CacheError Failure → RouteError Failure
  | .requestAbortedError => .requestAbortedError
  | .timedOut => .cacheTimedOut
  | .redis error => .failure none error

/-- What the promises that a handler may await come to. -/
structure ChatWorld (Failure : Type) where
  cacheGet : Except (CacheError Failure) (Option ChatResponse)
  acquire : Except AcquireError ℕ
  providerChat : Except (RouteError Failure) ChatResponse
  cachePut : Except (CacheError Failure) Unit

namespace ChatWorld

def input (world : ChatWorld Failure) :
    ChatAwait ChatResponse Failure → Option (ChatInput ChatResponse Failure)
  | .cacheGet => some (.cacheGot (world.cacheGet.mapError RouteError.ofCacheError))
  | .acquire => some (.acquired world.acquire)
  | .providerChat => some (.providerSettled world.providerChat)
  | .cachePut _ => some (.cacheWritten (world.cachePut.mapError RouteError.ofCacheError))
  | .settled _ => none

/-- One await of a request that is not cancelled, with the calls made so far. -/
def advance (world : ChatWorld Failure) (progress : ChatProgress ChatResponse Failure) :
    ChatProgress ChatResponse Failure :=
  match (world.input progress.1.awaiting).bind (progress.1.resume false) with
  | none => progress
  | some (handler, effects) => (handler, progress.2 ++ effects)

/-- The whole execution; a handler awaits at most four promises. -/
def execute (world : ChatWorld Failure) (chatCache : Bool) (call : ChatCall) :
    ChatProgress ChatResponse Failure :=
  world.advance (world.advance (world.advance (world.advance (ChatHandler.start chatCache call))))

end ChatWorld

def ChatEffect.isInference {Response : Type} : ChatEffect Response → Bool
  | .acquire => true
  | .providerChat _ => true
  | .release _ => true
  | _ => false

def inferenceSteps {Response : Type} (effects : List (ChatEffect Response)) :
    List (ChatEffect Response) :=
  effects.filter ChatEffect.isInference

/-! ### Without cancellation -/

def settledOutcome (result : Except (RouteError Failure) ChatResponse) :
    ChatOutcome ChatResponse Failure :=
  match result with
  | .ok response => .answered response
  | .error error => if error.isRequestAbortedError then .cancelled else .thrown error

/-- What the limiter and the provider alone make of the request. -/
def ChatWorld.inferenceResult (world : ChatWorld Failure) : Except (RouteError Failure) ChatResponse :=
  match world.acquire with
  | .error error => .error (.acquireError error)
  | .ok _ => world.providerChat

def ChatWorld.inferenceTrace (world : ChatWorld Failure) (request : ChatRequest) :
    List (ChatEffect ChatResponse) :=
  match world.acquire with
  | .error _ => [.acquire]
  | .ok permit => [.acquire, .providerChat request, .release permit]

def ChatWorld.pendingPuts (world : ChatWorld Failure) (handler : ChatHandler ChatResponse Failure) :
    List (ChatEffect ChatResponse) :=
  match handler.useCache, world.acquire, world.providerChat with
  | true, .ok _, .ok response => [.cachePut handler.call.ownerId handler.call.body response]
  | _, _, _ => []

def ChatEffect.isCache {Response : Type} : ChatEffect Response → Bool
  | .cacheGet _ _ => true
  | .cachePut _ _ _ => true
  | _ => false

def cacheCalls {Response : Type} (effects : List (ChatEffect Response)) :
    List (ChatEffect Response) :=
  effects.filter ChatEffect.isCache

variable {world : ChatWorld Failure} {handler : ChatHandler ChatResponse Failure}
  {effects : List (ChatEffect ChatResponse)}

theorem advance_settled {outcome : ChatOutcome ChatResponse Failure}
    (settled : handler.awaiting = .settled outcome) :
    world.advance (handler, effects) = (handler, effects) := by
  simp [ChatWorld.advance, ChatWorld.input, settled]

theorem settle_awaiting (handler : ChatHandler ChatResponse Failure)
    (result : Except (RouteError Failure) ChatResponse) :
    (handler.settle false result).1.awaiting = .settled (settledOutcome result) := by
  cases result with
  | ok response => rfl
  | error error => cases aborted : error.isRequestAbortedError <;>
      simp [ChatHandler.settle, settledOutcome, aborted]

/-- Without a permit, what `catch` and `finally` do is no step of the inference and
no call of the cache. -/
theorem settle_effects (handler : ChatHandler ChatResponse Failure)
    (noPermit : handler.permit = none) (result : Except (RouteError Failure) ChatResponse)
    (calls : List (ChatEffect ChatResponse)) :
    inferenceSteps (calls ++ (handler.settle false result).2) = inferenceSteps calls ∧
      cacheCalls (calls ++ (handler.settle false result).2) = cacheCalls calls := by
  cases result with
  | ok response =>
      simp [ChatHandler.settle, noPermit, inferenceSteps, cacheCalls, ChatEffect.isInference,
        ChatEffect.isCache]
  | error error =>
      cases aborted : error.isRequestAbortedError <;>
        simp [ChatHandler.settle, noPermit, aborted, inferenceSteps, cacheCalls,
          ChatEffect.isInference, ChatEffect.isCache]

theorem advance_refused {error : AcquireError} (awaiting : handler.awaiting = .acquire)
    (refused : world.acquire = .error error) :
    world.advance (handler, effects) =
      ((handler.settle false (.error (.acquireError error))).1,
        effects ++ (handler.settle false (.error (.acquireError error))).2) := by
  simp [ChatWorld.advance, ChatWorld.input, ChatHandler.resume, ChatHandler.onAcquired, awaiting,
    refused]

theorem advance_admitted {permit : ℕ} (awaiting : handler.awaiting = .acquire)
    (admitted : world.acquire = .ok permit) :
    world.advance (handler, effects) =
      ({ handler with permit := some permit, awaiting := .providerChat },
        effects ++ [.providerChat handler.call.body]) := by
  simp [ChatWorld.advance, ChatWorld.input, ChatHandler.resume, ChatHandler.onAcquired, awaiting,
    admitted]

theorem advance_provided {permit : ℕ} (awaiting : handler.awaiting = .providerChat)
    (held : handler.permit = some permit)
    (unstored : ∀ response, world.providerChat = .ok response → handler.useCache = false) :
    world.advance (handler, effects) =
      (({ handler with permit := none }.settle false world.providerChat).1,
        effects ++ [.release permit] ++
          ({ handler with permit := none }.settle false world.providerChat).2) := by
  cases provided : world.providerChat with
  | error error =>
      simp [ChatWorld.advance, ChatWorld.input, ChatHandler.resume, ChatHandler.onProviderSettled,
        awaiting, held, provided]
  | ok response =>
      simp [ChatWorld.advance, ChatWorld.input, ChatHandler.resume, ChatHandler.onProviderSettled,
        awaiting, held, provided, unstored response provided]

theorem advance_storing {permit : ℕ} {response : ChatResponse}
    (awaiting : handler.awaiting = .providerChat) (held : handler.permit = some permit)
    (provided : world.providerChat = .ok response) (stored : handler.useCache = true) :
    world.advance (handler, effects) =
      ({ handler with permit := none, awaiting := .cachePut response },
        effects ++ [.release permit,
          .cachePut handler.call.ownerId handler.call.body response]) := by
  simp [ChatWorld.advance, ChatWorld.input, ChatHandler.resume, ChatHandler.onProviderSettled,
    awaiting, held, provided, stored]

/-- Whatever `put` does, the answer is returned. -/
theorem advance_stored {response : ChatResponse} (awaiting : handler.awaiting = .cachePut response)
    (written : world.cachePut ≠ .error .requestAbortedError) :
    world.advance (handler, effects) =
      ((handler.settle false (.ok response)).1, effects ++ (handler.settle false (.ok response)).2) := by
  rcases put : world.cachePut with (_ | _ | failure) | _
  · exact absurd put written
  · simp [ChatWorld.advance, ChatWorld.input, ChatHandler.resume, ChatHandler.onCacheWritten,
      awaiting, put, Except.mapError, RouteError.ofCacheError, RouteError.isRequestAbortedError]
  · simp [ChatWorld.advance, ChatWorld.input, ChatHandler.resume, ChatHandler.onCacheWritten,
      awaiting, put, Except.mapError, RouteError.ofCacheError, RouteError.isRequestAbortedError]
  · simp [ChatWorld.advance, ChatWorld.input, ChatHandler.resume, ChatHandler.onCacheWritten,
      awaiting, put, Except.mapError]

/-- How a handler ends that had made the given calls when it queued. -/
structure EndsAfter (world : ChatWorld Failure) (handler : ChatHandler ChatResponse Failure)
    (effects : List (ChatEffect ChatResponse)) (done : ChatProgress ChatResponse Failure) :
    Prop where
  settled : done.1.awaiting = .settled (settledOutcome world.inferenceResult)
  inference : inferenceSteps done.2 =
    inferenceSteps effects ++ world.inferenceTrace handler.call.body
  cache : cacheCalls done.2 = cacheCalls effects ++ world.pendingPuts handler

theorem endsAfter_refused {error : AcquireError} (awaiting : handler.awaiting = .acquire)
    (noPermit : handler.permit = none) (refused : world.acquire = .error error) :
    EndsAfter world handler effects
      (world.advance (world.advance (world.advance (handler, effects ++ [.acquire])))) := by
  have settled := settle_awaiting handler (.error (.acquireError error))
  obtain ⟨inference, cache⟩ :=
    settle_effects handler noPermit (.error (.acquireError error)) (effects ++ [.acquire])
  rw [advance_refused awaiting refused, advance_settled settled, advance_settled settled]
  constructor
  · rw [settled, ChatWorld.inferenceResult, refused]
  · rw [inference]
    simp [inferenceSteps, ChatEffect.isInference, ChatWorld.inferenceTrace, refused]
  · rw [cache]
    simp [cacheCalls, ChatEffect.isCache, ChatWorld.pendingPuts, refused]

theorem endsAfter_stored {permit : ℕ} {response : ChatResponse}
    (awaiting : handler.awaiting = .acquire) (acquired : world.acquire = .ok permit)
    (provided : world.providerChat = .ok response) (uses : handler.useCache = true)
    (written : world.cachePut ≠ .error .requestAbortedError) :
    EndsAfter world handler effects
      (world.advance (world.advance (world.advance (handler, effects ++ [.acquire])))) := by
  let executing : ChatHandler ChatResponse Failure :=
    { handler with permit := some permit, awaiting := .providerChat }
  let storing : ChatHandler ChatResponse Failure :=
    { handler with permit := none, awaiting := .cachePut response }
  let calls := effects ++ [.acquire] ++ [.providerChat handler.call.body] ++
    [.release permit, .cachePut handler.call.ownerId handler.call.body response]
  have put : world.advance (executing, effects ++ [.acquire] ++
      [.providerChat handler.call.body]) = (storing, calls) :=
    advance_storing rfl rfl provided uses
  have ended : world.advance (world.advance (world.advance (handler, effects ++ [.acquire]))) =
      ((storing.settle false (.ok response)).1,
        calls ++ (storing.settle false (.ok response)).2) := by
    rw [advance_admitted awaiting acquired, put]
    exact advance_stored rfl written
  obtain ⟨inference, cache⟩ := settle_effects storing rfl (.ok response) calls
  rw [ended]
  constructor
  · rw [settle_awaiting, ChatWorld.inferenceResult, acquired, provided]
  · rw [inference]
    simp [calls, inferenceSteps, List.filter_cons, ChatEffect.isInference,
      ChatWorld.inferenceTrace, acquired]
  · rw [cache]
    simp [calls, cacheCalls, ChatEffect.isCache, ChatWorld.pendingPuts, acquired, provided, uses]

theorem endsAfter_unstored {permit : ℕ} (awaiting : handler.awaiting = .acquire)
    (acquired : world.acquire = .ok permit)
    (unstored : ∀ response, world.providerChat = .ok response → handler.useCache = false) :
    EndsAfter world handler effects
      (world.advance (world.advance (world.advance (handler, effects ++ [.acquire])))) := by
  let executing : ChatHandler ChatResponse Failure :=
    { handler with permit := some permit, awaiting := .providerChat }
  let released : ChatHandler ChatResponse Failure :=
    { handler with permit := none, awaiting := .providerChat }
  let calls := effects ++ [.acquire] ++ [.providerChat handler.call.body] ++ [.release permit]
  have settled := settle_awaiting released world.providerChat
  have provided : world.advance (executing, effects ++ [.acquire] ++
      [.providerChat handler.call.body]) =
      ((released.settle false world.providerChat).1,
        calls ++ (released.settle false world.providerChat).2) :=
    advance_provided rfl rfl unstored
  have ended : world.advance (world.advance (world.advance (handler, effects ++ [.acquire]))) =
      ((released.settle false world.providerChat).1,
        calls ++ (released.settle false world.providerChat).2) := by
    rw [advance_admitted awaiting acquired, provided]
    exact advance_settled settled
  have unput : world.pendingPuts handler = [] := by
    cases found : world.providerChat with
    | error error => simp [ChatWorld.pendingPuts, found]
    | ok response => simp [ChatWorld.pendingPuts, unstored response found]
  obtain ⟨inference, cache⟩ := settle_effects released rfl world.providerChat calls
  rw [ended]
  constructor
  · rw [settled, ChatWorld.inferenceResult, acquired]
  · rw [inference]
    simp [calls, inferenceSteps, ChatEffect.isInference, ChatWorld.inferenceTrace, acquired]
  · rw [cache, unput]
    simp [calls, cacheCalls, ChatEffect.isCache]

theorem advance_enqueue (handler : ChatHandler ChatResponse Failure)
    (effects : List (ChatEffect ChatResponse)) (noPermit : handler.permit = none)
    (written : world.cachePut ≠ .error .requestAbortedError) :
    EndsAfter world handler effects (world.advance (world.advance (world.advance
      (handler.enqueue.1, effects ++ handler.enqueue.2)))) := by
  have ends : EndsAfter world handler.enqueue.1 effects (world.advance (world.advance
      (world.advance (handler.enqueue.1, effects ++ [.acquire])))) := by
    cases acquired : world.acquire with
    | error error => exact endsAfter_refused rfl noPermit acquired
    | ok permit =>
        by_cases stored : handler.useCache = true ∧ ∃ response, world.providerChat = .ok response
        · obtain ⟨uses, response, provided⟩ := stored
          exact endsAfter_stored rfl acquired provided uses written
        · apply endsAfter_unstored rfl acquired
          intro response provided
          change handler.useCache = false
          simpa using fun uses => stored ⟨uses, response, provided⟩
  exact ⟨ends.settled, ends.inference, ends.cache⟩

/-! ### Whole executions -/

/-- The execution ends as the limiter and the provider decide, with their steps and
the given calls of the cache. -/
structure Transparent (world : ChatWorld Failure) (call : ChatCall)
    (done : ChatProgress ChatResponse Failure) (calls : List (ChatEffect ChatResponse)) : Prop where
  settled : done.1.awaiting = .settled (settledOutcome world.inferenceResult)
  inference : inferenceSteps done.2 = world.inferenceTrace call.body
  cache : cacheCalls done.2 = calls

variable {call : ChatCall} {chatCache : Bool}

theorem start_used (used : call.usesCache chatCache = true) :
    (ChatHandler.start chatCache call : ChatProgress ChatResponse Failure) =
      (⟨call, true, .bypass, none, .cacheGet⟩, [.cacheGet call.ownerId call.body]) := by
  simp [ChatHandler.start, used]

theorem execute_unused (unused : call.usesCache chatCache = false)
    (written : world.cachePut ≠ .error .requestAbortedError) :
    Transparent world call (world.execute chatCache call) [] := by
  let handler : ChatHandler ChatResponse Failure := ⟨call, false, .bypass, none, .cacheGet⟩
  have begun : (ChatHandler.start chatCache call : ChatProgress ChatResponse Failure) =
      (handler.enqueue.1, [] ++ handler.enqueue.2) := by
    simp [ChatHandler.start, unused, handler]
  obtain ⟨settled, inference, cache⟩ := advance_enqueue handler [] rfl written
  have ended : world.execute chatCache call = world.advance (world.advance (world.advance
      (handler.enqueue.1, [] ++ handler.enqueue.2))) := by
    rw [ChatWorld.execute, begun]
    exact advance_settled settled
  rw [ended]
  exact ⟨settled, inference, cache⟩

theorem execute_missed (used : call.usesCache chatCache = true)
    (missed : world.cacheGet = .ok none)
    (written : world.cachePut ≠ .error .requestAbortedError) :
    Transparent world call (world.execute chatCache call)
      (.cacheGet call.ownerId call.body ::
        world.pendingPuts ⟨call, true, .miss, none, .cacheGet⟩) := by
  let handler : ChatHandler ChatResponse Failure := ⟨call, true, .miss, none, .cacheGet⟩
  have looked : world.advance (⟨call, true, .bypass, none, .cacheGet⟩,
      [.cacheGet call.ownerId call.body]) =
      (handler.enqueue.1, [.cacheGet call.ownerId call.body] ++ handler.enqueue.2) := by
    simp [ChatWorld.advance, ChatWorld.input, ChatHandler.resume, ChatHandler.onCacheGot, missed,
      Except.mapError, handler]
  obtain ⟨settled, inference, cache⟩ :=
    advance_enqueue handler [.cacheGet call.ownerId call.body] rfl written
  rw [ChatWorld.execute, start_used used, looked]
  exact ⟨settled, inference, cache⟩

theorem execute_failed {error : CacheError Failure} (used : call.usesCache chatCache = true)
    (failed : world.cacheGet = .error error) (kind : error ≠ .requestAbortedError)
    (written : world.cachePut ≠ .error .requestAbortedError) :
    Transparent world call (world.execute chatCache call) [.cacheGet call.ownerId call.body] := by
  let handler : ChatHandler ChatResponse Failure := ⟨call, false, .bypass, none, .cacheGet⟩
  have other : (RouteError.ofCacheError error).isRequestAbortedError = false := by
    cases error with
    | requestAbortedError => exact absurd rfl kind
    | timedOut => rfl
    | redis failure => rfl
  have looked : world.advance (⟨call, true, .bypass, none, .cacheGet⟩,
      [.cacheGet call.ownerId call.body]) =
      (handler.enqueue.1, [.cacheGet call.ownerId call.body] ++ handler.enqueue.2) := by
    simp [ChatWorld.advance, ChatWorld.input, ChatHandler.resume, ChatHandler.onCacheGot, failed,
      Except.mapError, other, handler]
  obtain ⟨settled, inference, cache⟩ :=
    advance_enqueue handler [.cacheGet call.ownerId call.body] rfl written
  rw [ChatWorld.execute, start_used used, looked]
  exact ⟨settled, inference, cache⟩

theorem execute_hit {response : ChatResponse} (used : call.usesCache chatCache = true)
    (found : world.cacheGet = .ok (some response)) :
    cacheCalls (world.execute chatCache call).2 = [.cacheGet call.ownerId call.body] := by
  let handler : ChatHandler ChatResponse Failure := ⟨call, true, .hit, none, .cacheGet⟩
  have looked : world.advance (⟨call, true, .bypass, none, .cacheGet⟩,
      [.cacheGet call.ownerId call.body]) =
      ((handler.settle false (.ok response)).1,
        [.cacheGet call.ownerId call.body] ++ (handler.settle false (.ok response)).2) := by
    simp [ChatWorld.advance, ChatWorld.input, ChatHandler.resume, ChatHandler.onCacheGot, found,
      Except.mapError, handler]
  have settled := settle_awaiting handler (.ok response)
  rw [ChatWorld.execute, start_used used, looked, advance_settled settled, advance_settled settled,
    advance_settled settled, (settle_effects handler rfl _ _).2]
  rfl

/-! ### Headers -/

/-- A header with an item, up to letter case and surrounding white space, that is
`no-store` or `no-cache`, alone or with a value. -/
def NamesRefusedDirective (header : JsString) : Prop :=
  ∃ item ∈ (toLowerCase header).splitOn 0x2C, ∃ lead name rest, item = lead ++ (name ++ rest) ∧
    (∀ unit ∈ lead, isSpace unit = true) ∧ name ∈ refusedDirectives ∧
    ((∀ unit ∈ rest, isSpace unit = true) ∨
      ∃ gap value, rest = gap ++ 0x3D :: value ∧ ∀ unit ∈ gap, isSpace unit = true)

theorem dropWhile_spaces {lead text : JsString} (spaces : ∀ unit ∈ lead, isSpace unit = true) :
    (lead ++ text).dropWhile isSpace = text.dropWhile isSpace := by
  rw [List.dropWhile_append, if_pos]
  simpa using spaces

theorem rdropWhile_spaces {text rest : JsString} (spaces : ∀ unit ∈ rest, isSpace unit = true) :
    (text ++ rest).rdropWhile isSpace = text.rdropWhile isSpace := by
  rw [List.rdropWhile, List.rdropWhile, List.reverse_append, dropWhile_spaces (by simpa using spaces)]

theorem rdropWhile_keeps {text value : JsString} {unit : CodeUnit} (other : isSpace unit = false) :
    ∃ kept, (text ++ unit :: value).rdropWhile isSpace = text ++ unit :: kept := by
  induction value using List.reverseRecOn with
  | nil => exact ⟨[], List.rdropWhile_concat_neg _ _ _ (by simpa using other)⟩
  | append_singleton value last ih =>
      by_cases space : isSpace last = true
      · obtain ⟨kept, same⟩ := ih
        refine ⟨kept, ?_⟩
        rw [← List.cons_append, ← List.append_assoc, List.rdropWhile_concat_pos _ _ _ space, same]
      · refine ⟨value ++ [last], ?_⟩
        rw [← List.cons_append, ← List.append_assoc, List.rdropWhile_concat_neg _ _ _ space]

theorem refusedDirectives_spaceless {name : JsString} (member : name ∈ refusedDirectives)
    (rest : JsString) :
    (name ++ rest).dropWhile isSpace = name ++ rest ∧ name.rdropWhile isSpace = name := by
  simp only [refusedDirectives, List.mem_cons, List.not_mem_nil, or_false] at member
  rcases member with rfl | rfl
  · exact ⟨rfl, by decide⟩
  · exact ⟨rfl, by decide⟩

theorem refusesCache_of_names {call : ChatCall} {header : JsString}
    (given : call.cacheControl = some header) (names : NamesRefusedDirective header) :
    call.refusesCache = true := by
  obtain ⟨item, listed, lead, name, rest, rfl, leadSpaces, member, ending⟩ := names
  obtain ⟨front, back⟩ := refusedDirectives_spaceless member rest
  rw [ChatCall.refusesCache, given, Option.getD_some, List.any_eq_true]
  refine ⟨_, listed, ?_⟩
  rw [isRefusedDirective, List.any_eq_true]
  refine ⟨name, member, ?_⟩
  rw [JsString.trim, dropWhile_spaces leadSpaces, front]
  rcases ending with spaces | ⟨gap, value, rfl, spaces⟩
  · rw [rdropWhile_spaces spaces, back]
    simp
  · obtain ⟨kept, same⟩ : ∃ kept, ((name ++ gap) ++ 0x3D :: value).rdropWhile isSpace =
        (name ++ gap) ++ 0x3D :: kept := rdropWhile_keeps (by decide)
    rw [← List.append_assoc, same, List.append_assoc]
    have skipped : (gap ++ 0x3D :: kept).dropWhile isSpace = 0x3D :: kept := by
      rw [dropWhile_spaces spaces]
      rfl
    simp [skipped]

theorem usesCache_eq_true_iff {call : ChatCall} {chatCache : Bool} :
    call.usesCache chatCache = true ↔
      chatCache = true ∧ call.cacheMode = some (JsString.ofString "use") ∧
        call.refusesCache = false := by
  simp [ChatCall.usesCache, and_assoc]

/-! ### The cache fails open -/

theorem mem_pendingPuts {handler : ChatHandler ChatResponse Failure}
    {ownerId : JsString} {request : ChatRequest} {response : ChatResponse}
    (member : .cachePut ownerId request response ∈ world.pendingPuts handler) :
    ownerId = handler.call.ownerId ∧ request = handler.call.body ∧
      world.providerChat = .ok response ∧ world.inferenceResult = .ok response := by
  unfold ChatWorld.pendingPuts at member
  split at member
  · next acquired provided =>
      rw [List.mem_singleton] at member
      cases member
      exact ⟨rfl, rfl, provided, by rw [ChatWorld.inferenceResult, acquired, provided]⟩
  · cases member

theorem cache_fails_open {Reply : Type} {world : ChatWorld Failure} {call : ChatCall}
    {limits : CacheLimits} {stored : Json} {getEvents : List (CommandEvent (List UInt8) Failure)}
    {putEvents : List (CommandEvent Reply Failure)}
    (looked : getResult limits false getEvents = some world.cacheGet)
    (lookUncancelled : .parentAborted ∉ getEvents)
    (written : putResult limits false stored putEvents = some world.cachePut)
    (writeUncancelled : .parentAborted ∉ putEvents) :
    ((∀ response, world.cacheGet ≠ .ok (some response)) →
      ∃ outcome, (world.execute true call).1.awaiting = .settled outcome ∧
        (world.execute false call).1.awaiting = .settled outcome ∧
        inferenceSteps (world.execute true call).2 = inferenceSteps (world.execute false call).2) ∧
    (∀ ownerId request response,
      .cachePut ownerId request response ∈ (world.execute true call).2 →
        .cacheGet ownerId request ∈ (world.execute true call).2 ∧ world.cacheGet = .ok none ∧
        world.providerChat = .ok response ∧
        (world.execute true call).1.awaiting = .settled (.answered response)) ∧
    (call.cacheMode ≠ some (JsString.ofString "use") ∨
        (∃ header, call.cacheControl = some header ∧ NamesRefusedDirective header) →
      cacheCalls (world.execute true call).2 = []) := by
  have got : world.cacheGet ≠ .error .requestAbortedError := by
    intro thrown
    exact getResult_not_aborted lookUncancelled (looked.trans (congrArg some thrown))
  have put : world.cachePut ≠ .error .requestAbortedError := by
    intro thrown
    exact putResult_not_aborted writeUncancelled (written.trans (congrArg some thrown))
  have unused : ∀ {chatCache}, call.usesCache chatCache = false →
      Transparent world call (world.execute chatCache call) [] := fun unused => execute_unused unused put
  have plain : Transparent world call (world.execute false call) [] := unused rfl
  have cached : ∀ {effect}, effect.isCache = true → effect ∈ (world.execute true call).2 →
      effect ∈ cacheCalls (world.execute true call).2 :=
    fun kind member => List.mem_filter.mpr ⟨member, kind⟩
  refine ⟨?_, ?_, ?_⟩
  · intro unanswered
    have same : ∃ calls, Transparent world call (world.execute true call) calls := by
      cases used : call.usesCache true with
      | false => exact ⟨_, unused used⟩
      | true =>
          rcases found : world.cacheGet with error | _ | response
          · exact ⟨_, execute_failed used found (by rintro rfl; exact got found) put⟩
          · exact ⟨_, execute_missed used found put⟩
          · exact absurd found (unanswered response)
    obtain ⟨calls, transparent⟩ := same
    exact ⟨_, transparent.settled, plain.settled,
      transparent.inference.trans plain.inference.symm⟩
  · intro ownerId request response member
    have call' := cached rfl member
    cases used : call.usesCache true with
    | false =>
        rw [(unused used).cache] at call'
        cases call'
    | true =>
        rcases found : world.cacheGet with error | _ | answer
        · rw [(execute_failed used found (by rintro rfl; exact got found) put).cache] at call'
          simp at call'
        · have missed := execute_missed used found put
          rw [missed.cache, List.mem_cons] at call'
          obtain ⟨rfl, rfl, provided, result⟩ :=
            mem_pendingPuts (call'.resolve_left (by simp))
          refine ⟨?_, rfl, provided, ?_⟩
          · have looked : .cacheGet call.ownerId call.body ∈
                cacheCalls (world.execute true call).2 := by
              rw [missed.cache]
              exact List.mem_cons_self
            exact (List.mem_filter.mp looked).1
          · rw [missed.settled, result]
            rfl
        · rw [execute_hit used found] at call'
          simp at call'
  · intro refused
    apply Transparent.cache (unused _)
    rw [← Bool.not_eq_true, usesCache_eq_true_iff]
    rintro ⟨_, mode, accepted⟩
    rcases refused with other | ⟨header, given, names⟩
    · exact other mode
    · rw [refusesCache_of_names given names] at accepted
      cases accepted

/-- After a miss the answer is returned as without the cache, although the write
times out. -/
theorem cache_fails_open_writeTimeout :
    let answer : ChatResponse := ⟨JsString.ofString "hello"⟩
    let call : ChatCall :=
      ⟨JsString.ofString "alice", ⟨JsString.ofString "local", []⟩, some (JsString.ofString "use"),
        none⟩
    let world : ChatWorld Unit := ⟨.ok none, .ok 0, .ok answer, .error .timedOut⟩
    (∃ outcome, (world.execute true call).1.awaiting = .settled outcome ∧
        (world.execute false call).1.awaiting = .settled outcome ∧
        inferenceSteps (world.execute true call).2 =
          inferenceSteps (world.execute false call).2) ∧
      (world.execute true call).1.awaiting = .settled (.answered answer) := by
  intro answer call world
  let limits : CacheLimits := ⟨300, 128, 20, by decide, by decide, by decide⟩
  have looked : getResult limits false [.replied [], .resumed] = some world.cacheGet := rfl
  have written : putResult limits false (Cache.responseJson answer)
      ([.timeout, .replied (), .resumed] : List (CommandEvent Unit Unit)) = some world.cachePut := by
    decide +kernel
  obtain ⟨same, puts, _⟩ := @cache_fails_open _ _ world call limits _ _ _ looked (by simp) written
    (by simp)
  have member : .cachePut call.ownerId call.body answer ∈ (world.execute true call).2 := by
    decide +kernel
  exact ⟨same (by simp [world]), (puts _ _ _ member).2.2.2⟩

end ModelMux.Routes
