/-
The order of the events on a stream.

The history of one execution lists what the handler has heard and what it has
done.  Along every run the written events are deltas followed by at most one of
`done` and `error`, whatever the provider, the socket and the client do, and the
recorded outcome tells whether `done` was accepted.
-/

import ModelMux.Foundation.LabelledRun
import ModelMux.Routes.StreamHandler

namespace ModelMux.Routes

open Concurrency (AcquireError)
open Providers (ChatRequest)
open StreamHandler (WriteOutcome writeSse_cases start_cases)

variable {Failure : Type}

/-! ### Executions -/

inductive StreamEntry (Failure : Type) where
  | heard (input : StreamInput Failure)
  | did (effect : StreamEffect)

abbrev StreamTrace (Failure : Type) := List (StreamEntry Failure)

structure StreamSystem (Failure : Type) where
  handler : StreamHandler Failure
  aborted : Bool
  trace : StreamTrace Failure

namespace StreamSystem

def initial (body : ChatRequest) (requestId : JsString) (providerStreams cancelled : Bool) :
    StreamSystem Failure :=
  let entered : StreamProgress Failure := StreamHandler.enter body requestId providerStreams
  { handler := entered.1
    aborted := cancelled
    trace := entered.2.map StreamEntry.did }

def advance (system : StreamSystem Failure) (input : StreamInput Failure)
    (progress : StreamProgress Failure) : StreamSystem Failure :=
  { handler := progress.1
    aborted := system.aborted || decide (StreamEffect.abort ∈ progress.2)
    trace := system.trace ++ [.heard input] ++ progress.2.map StreamEntry.did }

end StreamSystem

inductive StreamEvent (Failure : Type) where
  | cancel
  | resume (write : WriteOutcome) (input : StreamInput Failure)

/-- The client disconnects or the server shuts down at any time. -/
inductive StreamStep (system : StreamSystem Failure) :
    StreamEvent Failure → StreamSystem Failure → Prop
  | cancel : StreamStep system .cancel { system with aborted := true }
  | resume (write : WriteOutcome) (input : StreamInput Failure) {progress : StreamProgress Failure}
      (resumed : system.handler.resume system.aborted write input = some progress) :
      StreamStep system (.resume write input) (system.advance input progress)

/-! ### What a history shows -/

namespace StreamEntry

def written? : StreamEntry Failure → Option SseEvent
  | .did (.wrote event _) => some event
  | _ => none

def offered? : StreamEntry Failure → Option JsString
  | .heard (.delta content) => if content = [] then none else some content
  | _ => none

def recorded? : StreamEntry Failure → Option StreamOutcome
  | .did (.streamMetric outcome) => some outcome
  | _ => none

/-- Whether an event waits for `drain` after the entry, if one did before it or not. -/
def waits (waiting : Bool) : StreamEntry Failure → Bool
  | .did (.wrote _ full) => waiting || full
  | .heard .drain => false
  | _ => waiting

end StreamEntry

def SseEvent.content? : SseEvent → Option JsString
  | .delta content _ => some content
  | _ => none

def writtenEvents (trace : StreamTrace Failure) : List SseEvent :=
  trace.filterMap StreamEntry.written?

def writtenDeltas (trace : StreamTrace Failure) : List JsString :=
  (writtenEvents trace).filterMap SseEvent.content?

def offeredDeltas (trace : StreamTrace Failure) : List JsString :=
  trace.filterMap StreamEntry.offered?

def recordedOutcomes (trace : StreamTrace Failure) : List StreamOutcome :=
  trace.filterMap StreamEntry.recorded?

def waitsForDrain (trace : StreamTrace Failure) : Bool := trace.foldl StreamEntry.waits false

def doneAccepted (trace : StreamTrace Failure) : Prop :=
  ∃ requestId, .did (.accepted (.done requestId)) ∈ trace

/-- The provider has resolved and all of its deltas have been written before `done`;
there is a delta before `error`. -/
def Precedes (before : StreamTrace Failure) : SseEvent → Prop
  | .delta _ _ => True
  | .done _ =>
      .heard (.providerSettled (.ok ())) ∈ before ∧ writtenDeltas before = offeredDeltas before
  | .error _ _ _ => writtenDeltas before ≠ []

/-- A write follows deltas only, none of which waits for `drain`. -/
def InOrder (before : StreamTrace Failure) : StreamEntry Failure → Prop
  | .did (.wrote event _) =>
      waitsForDrain before = false ∧ (∀ earlier ∈ writtenEvents before, earlier.content?.isSome) ∧
        Precedes before event
  | _ => True

section Histories

variable (left right trace : StreamTrace Failure)

@[simp] theorem writtenEvents_append :
    writtenEvents (left ++ right) = writtenEvents left ++ writtenEvents right :=
  List.filterMap_append

@[simp] theorem writtenDeltas_append :
    writtenDeltas (left ++ right) = writtenDeltas left ++ writtenDeltas right := by
  simp [writtenDeltas]

@[simp] theorem offeredDeltas_append :
    offeredDeltas (left ++ right) = offeredDeltas left ++ offeredDeltas right :=
  List.filterMap_append

@[simp] theorem recordedOutcomes_append :
    recordedOutcomes (left ++ right) = recordedOutcomes left ++ recordedOutcomes right :=
  List.filterMap_append

@[simp] theorem waitsForDrain_snoc (entry : StreamEntry Failure) :
    waitsForDrain (trace ++ [entry]) = entry.waits (waitsForDrain trace) := by
  simp [waitsForDrain]

end Histories

/-! ### Silent entries -/

def StreamEntry.silent : StreamEntry Failure → Bool
  | .heard (.delta content) => content.isEmpty
  | .heard .drain => false
  | .heard _ => true
  | .did (.wrote _ _) => false
  | .did (.accepted (.done _)) => false
  | .did (.streamMetric _) => false
  | .did _ => true

structure StreamEntry.Silent (entry : StreamEntry Failure) : Prop where
  written : entry.written? = none
  offered : entry.offered? = none
  recorded : entry.recorded? = none
  waiting : ∀ waiting, entry.waits waiting = waiting
  notDone : ∀ requestId, entry ≠ .did (.accepted (.done requestId))

theorem StreamEntry.silent_spec {entry : StreamEntry Failure} (silent : entry.silent = true) :
    entry.Silent := by
  cases entry with
  | heard input =>
      cases input with
      | delta content =>
          have empty : content = [] := List.isEmpty_iff.mp silent
          exact ⟨rfl, by simp [offered?, empty], rfl, fun _ => rfl, by simp⟩
      | drain => cases silent
      | _ => exact ⟨rfl, rfl, rfl, fun _ => rfl, by simp⟩
  | did effect =>
      cases effect with
      | wrote event full => cases silent
      | streamMetric outcome => cases silent
      | accepted event =>
          cases event with
          | done requestId => cases silent
          | _ => exact ⟨rfl, rfl, rfl, fun _ => rfl, by simp⟩
      | _ => exact ⟨rfl, rfl, rfl, fun _ => rfl, by simp⟩

/-- Two histories that show the same. -/
structure SameShown (trace trace' : StreamTrace Failure) : Prop where
  written : writtenEvents trace' = writtenEvents trace
  offered : offeredDeltas trace' = offeredDeltas trace
  recorded : recordedOutcomes trace' = recordedOutcomes trace
  waiting : waitsForDrain trace' = waitsForDrain trace
  accepted : doneAccepted trace' ↔ doneAccepted trace
  inOrder : Throughout InOrder trace → Throughout InOrder trace'

variable {trace trace' : StreamTrace Failure} {requestId : JsString}

theorem SameShown.deltas (same : SameShown trace trace') :
    writtenDeltas trace' = writtenDeltas trace := by
  rw [writtenDeltas, writtenDeltas, same.written]

theorem inOrder_of_written_eq_none {entry : StreamEntry Failure} (silent : entry.written? = none) :
    InOrder trace entry := by
  cases entry with
  | heard input => trivial
  | did effect =>
      cases effect with
      | wrote event full => cases silent
      | _ => trivial

theorem sameShown_snoc {entry : StreamEntry Failure} (silent : entry.silent = true) :
    SameShown trace (trace ++ [entry]) := by
  obtain ⟨written, offered, recorded, waiting, notDone⟩ := StreamEntry.silent_spec silent
  refine ⟨?_, ?_, ?_, ?_, ?_, ?_⟩
  · simp [writtenEvents, written]
  · simp [offeredDeltas, offered]
  · simp [recordedOutcomes, recorded]
  · simp [waiting]
  · constructor
    · rintro ⟨requestId, member⟩
      rcases List.mem_append.mp member with earlier | last
      · exact ⟨requestId, earlier⟩
      · exact absurd (List.mem_singleton.mp last).symm (notDone requestId)
    · rintro ⟨requestId, member⟩
      exact ⟨requestId, List.mem_append_left _ member⟩
  · intro inOrder
    exact throughout_snoc.mpr ⟨inOrder, inOrder_of_written_eq_none written⟩

theorem SameShown.refl (trace : StreamTrace Failure) : SameShown trace trace :=
  ⟨rfl, rfl, rfl, rfl, Iff.rfl, id⟩

theorem SameShown.trans {trace'' : StreamTrace Failure} (first : SameShown trace trace')
    (second : SameShown trace' trace'') : SameShown trace trace'' where
  written := second.written.trans first.written
  offered := second.offered.trans first.offered
  recorded := second.recorded.trans first.recorded
  waiting := second.waiting.trans first.waiting
  accepted := second.accepted.trans first.accepted
  inOrder := second.inOrder ∘ first.inOrder

theorem sameShown_append {entries : StreamTrace Failure}
    (silent : ∀ entry ∈ entries, entry.silent = true) : SameShown trace (trace ++ entries) := by
  induction entries using List.reverseRecOn with
  | nil => simpa using SameShown.refl trace
  | append_singleton entries entry ih =>
      have earlier := ih (fun other member => silent other (List.mem_append_left _ member))
      rw [← List.append_assoc]
      exact earlier.trans (sameShown_snoc (silent entry (by simp)))

/-! ### The written word -/

/-- Deltas that the provider has offered, in their order, and then the given events. -/
structure SseWord (requestId : JsString) (trace : StreamTrace Failure)
    (ending : List SseEvent) : Prop where
  events : writtenEvents trace =
    (writtenDeltas trace).map (fun content => SseEvent.delta content requestId) ++ ending
  isPrefix : writtenDeltas trace <+: offeredDeltas trace
  inOrder : Throughout InOrder trace

/-- At most one of `done` and `error`. -/
def IsEnding (requestId : JsString) (ending : List SseEvent) : Prop :=
  ending = [] ∨ ending = [.done requestId] ∨
    ∃ code message, ending = [.error code message requestId]

theorem SseWord.same {ending : List SseEvent} (word : SseWord requestId trace ending)
    (same : SameShown trace trace') : SseWord requestId trace' ending where
  events := by rw [same.written, same.deltas, word.events]
  isPrefix := by rw [same.deltas, same.offered]; exact word.isPrefix
  inOrder := same.inOrder word.inOrder

theorem SseWord.only_deltas (word : SseWord requestId trace []) :
    ∀ earlier ∈ writtenEvents trace, earlier.content?.isSome := by
  intro earlier member
  rw [word.events, List.append_nil] at member
  obtain ⟨content, _, rfl⟩ := List.mem_map.mp member
  rfl

theorem SseWord.delta (word : SseWord requestId trace []) {content : JsString} {full : Bool}
    (offered : offeredDeltas trace = writtenDeltas trace ++ [content])
    (drained : waitsForDrain trace = false) :
    SseWord requestId (trace ++ [StreamEntry.did (.wrote (.delta content requestId) full)]) [] := by
  have deltas : writtenDeltas (trace ++
      [StreamEntry.did (.wrote (.delta content requestId) full)]) =
      writtenDeltas trace ++ [content] := by
    rw [writtenDeltas_append]
    rfl
  constructor
  · rw [deltas, writtenEvents_append, word.events]
    simp [writtenEvents, StreamEntry.written?]
  · rw [deltas, offeredDeltas_append, offered]
    exact List.prefix_append _ _
  · exact throughout_snoc.mpr ⟨word.inOrder, drained, word.only_deltas, trivial⟩

theorem SseWord.close (word : SseWord requestId trace []) {event : SseEvent} {full : Bool}
    (last : event.content? = none) (precedes : Precedes trace event)
    (drained : waitsForDrain trace = false) :
    SseWord requestId (trace ++ [StreamEntry.did (.wrote event full)]) [event] := by
  have deltas : writtenDeltas (trace ++ [StreamEntry.did (.wrote event full)]) =
      writtenDeltas trace := by
    rw [writtenDeltas_append]
    simp [writtenDeltas, writtenEvents, StreamEntry.written?, last]
  constructor
  · rw [deltas, writtenEvents_append, word.events]
    simp [writtenEvents, StreamEntry.written?]
  · rw [deltas, offeredDeltas_append]
    exact word.isPrefix.trans (List.prefix_append _ _)
  · exact throughout_snoc.mpr ⟨word.inOrder, drained, word.only_deltas, precedes⟩

theorem SseWord.unwritten {ending : List SseEvent} (word : SseWord requestId trace ending)
    {entry : StreamEntry Failure} (silent : entry.written? = none) :
    SseWord requestId (trace ++ [entry]) ending := by
  have written : writtenEvents (trace ++ [entry]) = writtenEvents trace := by
    simp [writtenEvents, silent]
  have deltas : writtenDeltas (trace ++ [entry]) = writtenDeltas trace := by
    rw [writtenDeltas, writtenDeltas, written]
  constructor
  · rw [written, deltas, word.events]
  · rw [deltas, offeredDeltas_append]
    exact word.isPrefix.trans (List.prefix_append _ _)
  · exact throughout_snoc.mpr ⟨word.inOrder, inOrder_of_written_eq_none silent⟩

/-! ### The invariant -/

structure Unrecorded (outcome : StreamOutcome) (trace : StreamTrace Failure) : Prop where
  incomplete : outcome ≠ .completed
  recorded : recordedOutcomes trace = []
  notAccepted : ¬ doneAccepted trace

/-- Up to the end of the provider's stream.  Unless the request is cancelled, every
delta has been written and only the delta of a pending call waits for `drain`. -/
structure Flowing (requestId : JsString) (handler : StreamHandler Failure) (aborted : Bool)
    (trace : StreamTrace Failure) : Prop where
  request : handler.requestId = requestId
  word : SseWord requestId trace []
  whole : aborted = false → writtenDeltas trace = offeredDeltas trace
  started : writtenDeltas trace ≠ [] → handler.started = true
  written : aborted = false → handler.started = true → writtenDeltas trace ≠ []
  drain : waitsForDrain trace = handler.raw.needDrain
  consuming : aborted = false → handler.consuming.isSome = handler.raw.needDrain
  unrecorded : Unrecorded handler.outcome trace

structure Ongoing (requestId : JsString) (handler : StreamHandler Failure)
    (trace : StreamTrace Failure) : Prop where
  request : handler.requestId = requestId
  word : ∃ ending, SseWord requestId trace ending ∧ IsEnding requestId ending
  unrecorded : Unrecorded handler.outcome trace

structure Closing (requestId : JsString) (handler : StreamHandler Failure)
    (trace : StreamTrace Failure) : Prop extends Ongoing requestId handler trace where
  consuming : handler.consuming = none

structure Settled (requestId : JsString) (handler : StreamHandler Failure)
    (ending : StreamEnding Failure) (trace : StreamTrace Failure) : Prop where
  request : handler.requestId = requestId
  word : ∃ events, SseWord requestId trace events ∧ IsEnding requestId events
  unanswered : ∀ error, ending = .thrown error → writtenEvents trace = []
  recorded : recordedOutcomes trace = [handler.outcome]
  completed : handler.outcome = .completed ↔ doneAccepted trace

def StreamInvariant (requestId : JsString) (handler : StreamHandler Failure) (aborted : Bool)
    (trace : StreamTrace Failure) : Prop :=
  match handler.awaiting with
  | .acquire => Flowing requestId handler aborted trace
  | .providerStream => Flowing requestId handler aborted trace
  | .doneWrite => Closing requestId handler trace
  | .errorWrite _ => Closing requestId handler trace
  | .settled ending => Settled requestId handler ending trace

variable {handler : StreamHandler Failure} {aborted : Bool} {write : WriteOutcome}

theorem Unrecorded.same {outcome : StreamOutcome} (unrecorded : Unrecorded outcome trace)
    (same : SameShown trace trace') : Unrecorded outcome trace' where
  incomplete := unrecorded.incomplete
  recorded := same.recorded.trans unrecorded.recorded
  notAccepted := unrecorded.notAccepted ∘ same.accepted.mp

theorem Unrecorded.wrote {outcome : StreamOutcome} (unrecorded : Unrecorded outcome trace)
    (event : SseEvent) (full : Bool) :
    Unrecorded outcome (trace ++ [StreamEntry.did (.wrote event full)]) where
  incomplete := unrecorded.incomplete
  recorded := by
    rw [recordedOutcomes_append, unrecorded.recorded]
    rfl
  notAccepted := by
    rintro ⟨requestId, member⟩
    rcases List.mem_append.mp member with earlier | last
    · exact unrecorded.notAccepted ⟨requestId, earlier⟩
    · cases List.mem_singleton.mp last

theorem Unrecorded.heard {outcome : StreamOutcome} (unrecorded : Unrecorded outcome trace)
    (input : StreamInput Failure) : Unrecorded outcome (trace ++ [StreamEntry.heard input]) where
  incomplete := unrecorded.incomplete
  recorded := by
    rw [recordedOutcomes_append, unrecorded.recorded]
    rfl
  notAccepted := by
    rintro ⟨requestId, member⟩
    rcases List.mem_append.mp member with earlier | last
    · exact unrecorded.notAccepted ⟨requestId, earlier⟩
    · cases List.mem_singleton.mp last

theorem Flowing.same (flowing : Flowing requestId handler aborted trace)
    (same : SameShown trace trace') : Flowing requestId handler aborted trace' where
  request := flowing.request
  word := flowing.word.same same
  whole := by rw [same.deltas, same.offered]; exact flowing.whole
  started := by rw [same.deltas]; exact flowing.started
  written := by rw [same.deltas]; exact flowing.written
  drain := same.waiting.trans flowing.drain
  consuming := flowing.consuming
  unrecorded := flowing.unrecorded.same same

theorem Flowing.cancel (flowing : Flowing requestId handler aborted trace)
    (consuming : Option JsString) :
    Flowing requestId { handler with consuming := consuming } true trace where
  request := flowing.request
  word := flowing.word
  whole := by simp
  started := flowing.started
  written := by simp
  drain := flowing.drain
  consuming := by simp
  unrecorded := flowing.unrecorded

theorem Flowing.ongoing (flowing : Flowing requestId handler aborted trace) :
    Ongoing requestId handler trace :=
  ⟨flowing.request, ⟨[], flowing.word, Or.inl rfl⟩, flowing.unrecorded⟩

theorem Ongoing.same (ongoing : Ongoing requestId handler trace) (same : SameShown trace trace') :
    Ongoing requestId handler trace' where
  request := ongoing.request
  word := by
    obtain ⟨ending, word, isEnding⟩ := ongoing.word
    exact ⟨ending, word.same same, isEnding⟩
  unrecorded := ongoing.unrecorded.same same

theorem Ongoing.transfer {handler' : StreamHandler Failure}
    (ongoing : Ongoing requestId handler trace)
    (sameRequest : handler'.requestId = handler.requestId)
    (sameOutcome : handler'.outcome = handler.outcome) : Ongoing requestId handler' trace where
  request := sameRequest.trans ongoing.request
  word := ongoing.word
  unrecorded := by
    rw [sameOutcome]
    exact ongoing.unrecorded

theorem Settled.same {ending : StreamEnding Failure}
    (settled : Settled requestId handler ending trace) (same : SameShown trace trace') :
    Settled requestId handler ending trace' where
  request := settled.request
  word := by
    obtain ⟨events, word, isEnding⟩ := settled.word
    exact ⟨events, word.same same, isEnding⟩
  unanswered := by rw [same.written]; exact settled.unanswered
  recorded := same.recorded.trans settled.recorded
  completed := settled.completed.trans same.accepted.symm

/-! ### Settling -/

theorem settled_finish {ending : StreamEnding Failure} {events : List SseEvent}
    (request : handler.requestId = requestId) (word : SseWord requestId trace events)
    (isEnding : IsEnding requestId events) (recorded : recordedOutcomes trace = [])
    (completed : handler.outcome = .completed ↔ doneAccepted trace)
    (unanswered : ∀ error, ending = .thrown error → writtenEvents trace = []) :
    Settled requestId (handler.finish ending).1 ending
      (trace ++ (handler.finish ending).2.map StreamEntry.did) := by
  -- Only the metric shows; the abort and the release come after it.
  let metric : StreamEntry Failure := .did (.streamMetric handler.outcome)
  have settled : Settled requestId (handler.finish ending).1 ending (trace ++ [metric]) := by
    refine ⟨request, ⟨events, word.unwritten rfl, isEnding⟩, ?_, ?_, ?_⟩
    · intro error thrown
      rw [writtenEvents_append, unanswered error thrown]
      rfl
    · rw [recordedOutcomes_append, recorded]
      rfl
    · simpa [doneAccepted, metric, StreamHandler.finish] using completed
  have silent : ∀ entry ∈ (StreamEffect.abort :: handler.permit.toList.map StreamEffect.release).map
      (@StreamEntry.did Failure), entry.silent = true := by
    simp [StreamEntry.silent]
  have extended := settled.same (sameShown_append silent)
  rwa [List.append_assoc] at extended

theorem Unrecorded.not_completed {outcome : StreamOutcome} (unrecorded : Unrecorded outcome trace) :
    outcome = .completed ↔ doneAccepted trace :=
  ⟨fun same => absurd same unrecorded.incomplete,
    fun accepted => absurd accepted unrecorded.notAccepted⟩

theorem Ongoing.returned (ongoing : Ongoing requestId handler trace) :
    Settled requestId (handler.finish .returned).1 .returned
      (trace ++ (handler.finish .returned).2.map StreamEntry.did) := by
  obtain ⟨events, word, isEnding⟩ := ongoing.word
  exact settled_finish ongoing.request word isEnding ongoing.unrecorded.recorded
    ongoing.unrecorded.not_completed (by simp)

/-- The invariant of the handler and history that a continuation leads to. -/
def Reaches (requestId : JsString) (aborted : Bool) (trace : StreamTrace Failure)
    (progress : StreamProgress Failure) : Prop :=
  StreamInvariant requestId progress.1 (aborted || decide (StreamEffect.abort ∈ progress.2))
    (trace ++ progress.2.map StreamEntry.did)

theorem Reaches.after {effects : List StreamEffect} {progress : StreamProgress Failure}
    (reaches : Reaches requestId aborted (trace ++ effects.map StreamEntry.did) progress)
    (continues : StreamEffect.abort ∉ effects) :
    Reaches requestId aborted trace (StreamProgress.after effects progress) := by
  simpa [Reaches, StreamProgress.after, continues] using reaches

theorem Ongoing.destroyed (ongoing : Ongoing requestId handler trace) :
    Reaches requestId aborted trace handler.destroyAndFinish := by
  have closed : Ongoing requestId handler.closed trace := ongoing.transfer rfl rfl
  have shown := @sameShown_snoc Failure trace (.did .destroy) rfl
  exact Reaches.after (closed.same shown).returned (by simp)

theorem Ongoing.ended (ongoing : Ongoing requestId handler trace) :
    Reaches requestId aborted trace handler.endAndFinish := by
  have shown := @sameShown_snoc Failure trace (.did .endResponse) rfl
  exact Reaches.after (ongoing.same shown).returned (by simp)

theorem Ongoing.completes (ongoing : Ongoing requestId handler trace) :
    Reaches requestId aborted (trace ++ [StreamEntry.did (.accepted (.done requestId))])
      handler.complete := by
  obtain ⟨events, word, isEnding⟩ := ongoing.word
  let accepted : StreamTrace Failure := trace ++ [StreamEntry.did (.accepted (.done requestId))]
  have recorded : recordedOutcomes accepted = [] := by
    rw [recordedOutcomes_append, ongoing.unrecorded.recorded]
    rfl
  have same : SameShown accepted (accepted ++ [StreamEntry.did .endResponse]) := sameShown_snoc rfl
  have settled := @settled_finish Failure (accepted ++ [StreamEntry.did .endResponse]) requestId
    { handler with outcome := .completed } .returned events ongoing.request
    ((word.unwritten rfl).same same) isEnding (same.recorded.trans recorded)
    ⟨fun _ => ⟨requestId, by simp [accepted]⟩, fun _ => rfl⟩ (by simp)
  exact Reaches.after settled (by simp)

theorem Ongoing.cancelled {error : RouteError Failure} (ongoing : Ongoing requestId handler trace)
    (stopped : (error.isRequestAbortedError || aborted) = true) :
    Reaches requestId aborted trace (handler.fail aborted write error) := by
  have marked : Ongoing requestId { handler with outcome := .cancelled } trace :=
    ⟨ongoing.request, ongoing.word,
      ⟨by simp, ongoing.unrecorded.recorded, ongoing.unrecorded.notAccepted⟩⟩
  rw [StreamHandler.fail, if_pos stopped]
  exact marked.destroyed

/-- Without a delta no event has been written, so that the error can be answered. -/
theorem Flowing.thrown {error : RouteError Failure}
    (flowing : Flowing requestId handler aborted trace) (unstarted : handler.started = false) :
    Reaches requestId aborted trace (handler.finish (.thrown error)) := by
  have noDelta : writtenDeltas trace = [] := by
    by_contra written
    rw [flowing.started written] at unstarted
    cases unstarted
  have nothing : writtenEvents trace = [] := by
    rw [flowing.word.events, noDelta]
    rfl
  exact settled_finish flowing.request flowing.word (Or.inl rfl) flowing.unrecorded.recorded
    flowing.unrecorded.not_completed (fun _ _ => nothing)

theorem Flowing.close {event : SseEvent} {full : Bool}
    (flowing : Flowing requestId handler aborted trace) (isEnding : IsEnding requestId [event])
    (last : event.content? = none) (precedes : Precedes trace event)
    (drained : handler.raw.needDrain = false) :
    Ongoing requestId handler (trace ++ [StreamEntry.did (.wrote event full)]) :=
  ⟨flowing.request,
    ⟨[event], flowing.word.close last precedes (flowing.drain.trans drained), isEnding⟩,
    flowing.unrecorded.wrote event full⟩

theorem Flowing.idle (flowing : Flowing requestId handler false trace)
    (drained : handler.raw.needDrain = false) : handler.consuming = none := by
  have same := flowing.consuming rfl
  rw [drained] at same
  exact Option.isSome_eq_false_iff.mp same |> Option.isNone_iff_eq_none.mp

theorem Flowing.failed {error : RouteError Failure}
    (flowing : Flowing requestId handler aborted trace) :
    Reaches requestId aborted trace (handler.fail aborted write error) := by
  cases stopped : error.isRequestAbortedError || aborted with
  | true => exact flowing.ongoing.cancelled stopped
  | false =>
      obtain ⟨_, rfl⟩ := Bool.or_eq_false_iff.mp stopped
      unfold StreamHandler.fail
      rw [stopped]
      cases started : handler.started with
      | false => exact flowing.thrown started
      | true =>
          cases waiting : handler.raw.writableNeedDrain with
          | true => exact flowing.ongoing.destroyed
          | false =>
              have isEnding : IsEnding requestId [handler.errorEvent error] :=
                Or.inr (Or.inr ⟨_, _, by rw [StreamHandler.errorEvent, flowing.request]⟩)
              rcases writeSse_cases handler false write (handler.errorEvent error) with
                rejected | ⟨present, resolved | pending⟩
              · simp only [rejected]
                exact flowing.ongoing.destroyed
              · have drained : handler.raw.needDrain = false := by
                  simpa [RawResponse.writableNeedDrain, present] using waiting
                have closed := @Flowing.close _ _ _ _ _ _ false flowing isEnding rfl
                  (flowing.written rfl started) drained
                have accepted := closed.same
                  (sameShown_snoc (show (StreamEntry.did (.accepted (handler.errorEvent error)) :
                    StreamEntry Failure).silent = true from rfl))
                simp only [resolved]
                exact Reaches.after (by simpa using accepted.ended) (by simp)
              · have drained : handler.raw.needDrain = false := by
                  simpa [RawResponse.writableNeedDrain, present] using waiting
                have closed := @Flowing.close _ _ _ _ _ _ true flowing isEnding rfl
                  (flowing.written rfl started) drained
                simp only [pending]
                exact ⟨closed.transfer rfl rfl, flowing.idle drained⟩

/-! ### Continuations -/

theorem Flowing.transfer {handler' : StreamHandler Failure}
    (flowing : Flowing requestId handler aborted trace)
    (sameRequest : handler'.requestId = handler.requestId)
    (sameStarted : handler'.started = handler.started)
    (sameOutcome : handler'.outcome = handler.outcome)
    (sameDrain : handler'.raw.needDrain = handler.raw.needDrain)
    (sameConsuming : handler'.consuming = handler.consuming) :
    Flowing requestId handler' aborted trace := by
  obtain ⟨request, word, whole, started, written, drain, consuming, unrecorded⟩ := flowing
  refine ⟨sameRequest.trans request, word, whole, ?_, ?_, ?_, ?_, ?_⟩
  · rw [sameStarted]
    exact started
  · rw [sameStarted]
    exact written
  · rw [sameDrain]
    exact drain
  · rw [sameDrain, sameConsuming]
    exact consuming
  · rw [sameOutcome]
    exact unrecorded

theorem onAcquired_reaches (flowing : Flowing requestId handler aborted trace)
    (result : Except AcquireError ℕ) :
    Reaches requestId aborted trace (handler.onAcquired aborted write result) := by
  cases result with
  | error error => exact flowing.failed
  | ok permit =>
      have admitted : Flowing requestId { handler with permit := some permit } aborted trace :=
        flowing.transfer rfl rfl rfl rfl rfl
      simp only [StreamHandler.onAcquired]
      cases aborted with
      | true =>
          rw [if_pos rfl]
          exact admitted.failed
      | false =>
          rw [if_neg Bool.false_ne_true]
          split
          · have calling := admitted.same
              (@sameShown_snoc Failure trace (.did (.providerStream handler.body)) rfl)
            exact calling.transfer rfl rfl rfl rfl rfl
          · exact admitted.failed

theorem sameShown_head {head : List StreamEffect}
    (heads : ∀ effect ∈ head, effect = .writeHead 200 sseHeaders) :
    SameShown trace (trace ++ head.map StreamEntry.did) := by
  apply sameShown_append
  intro entry member
  obtain ⟨effect, listed, rfl⟩ := List.mem_map.mp member
  rw [heads effect listed]
  rfl

/-- The consumer is called with a delta that is not empty, which is then written. -/
theorem Flowing.wrote {content : JsString} {full : Bool} {consuming : Option JsString}
    (flowing : Flowing requestId handler false trace) (drained : handler.raw.needDrain = false)
    (heard : SameShown (trace ++ [StreamEntry.heard (.delta content)]) trace')
    (present : content ≠ [])
    (pending : consuming.isSome = full) :
    Flowing requestId
      { handler with
        started := true
        raw := { handler.raw with needDrain := full }
        consuming := consuming }
      false (trace' ++ [StreamEntry.did (.wrote (.delta content requestId) full)]) := by
  have word : SseWord requestId trace' [] := (flowing.word.unwritten rfl).same heard
  have deltas : writtenDeltas trace' = writtenDeltas trace := by
    rw [heard.deltas, writtenDeltas_append]
    simp [writtenDeltas, writtenEvents, StreamEntry.written?]
  have offered : offeredDeltas trace' = writtenDeltas trace' ++ [content] := by
    rw [heard.offered, offeredDeltas_append, deltas, flowing.whole rfl]
    simp [offeredDeltas, StreamEntry.offered?, present]
  have waiting : waitsForDrain trace' = false := by
    rw [heard.waiting, waitsForDrain_snoc]
    exact flowing.drain.trans drained
  have added : writtenDeltas (trace' ++
      [StreamEntry.did (.wrote (.delta content requestId) full)]) =
      writtenDeltas trace' ++ [content] := by
    rw [writtenDeltas_append]
    rfl
  refine ⟨flowing.request, word.delta offered waiting, ?_, fun _ => rfl, ?_, ?_,
    fun _ => pending, ?_⟩
  · intro _
    rw [added, ← offered, offeredDeltas_append]
    simp [offeredDeltas, StreamEntry.offered?]
  · intro _ _
    rw [added]
    simp
  · rw [waitsForDrain_snoc, waiting]
    rfl
  · exact ((flowing.unrecorded.heard _).same heard).wrote _ _

theorem writtenDeltas_heard (input : StreamInput Failure) :
    writtenDeltas (trace ++ [StreamEntry.heard input]) = writtenDeltas trace := by
  simp [writtenDeltas, writtenEvents, StreamEntry.written?]

/-- A delta that the consumer does not write, because the request is cancelled or is
cancelled now. -/
theorem Flowing.unwritten {content : JsString} {started : Bool}
    (flowing : Flowing requestId handler aborted trace)
    (starts : handler.started = true → started = true) :
    Flowing requestId { handler with started := started } true
      (trace ++ [StreamEntry.heard (.delta content)]) := by
  refine ⟨flowing.request, flowing.word.unwritten rfl, by simp, ?_, by simp, ?_, by simp,
    flowing.unrecorded.heard _⟩
  · rw [writtenDeltas_heard]
    exact starts ∘ flowing.started
  · rw [waitsForDrain_snoc]
    exact flowing.drain

theorem Flowing.reaches {progress : StreamProgress Failure}
    (flowing : Flowing requestId progress.1 (aborted || decide (StreamEffect.abort ∈ progress.2))
      (trace ++ progress.2.map StreamEntry.did))
    (awaiting : progress.1.awaiting = .acquire ∨ progress.1.awaiting = .providerStream) :
    Reaches requestId aborted trace progress := by
  unfold Reaches StreamInvariant
  rcases awaiting with queued | streaming
  · rw [queued]
    exact flowing
  · rw [streaming]
    exact flowing

theorem onDelta_reaches (flowing : Flowing requestId handler aborted trace)
    (awaiting : handler.awaiting = .providerStream) (idle : handler.consuming = none)
    (content : JsString) :
    Reaches requestId aborted (trace ++ [StreamEntry.heard (.delta content)])
      (handler.onDelta aborted write content) := by
  unfold StreamHandler.onDelta
  by_cases empty : content = []
  · have heard := flowing.same
      (@sameShown_snoc Failure trace (.heard (.delta content)) (by simp [StreamEntry.silent, empty]))
    rw [if_pos empty]
    exact Flowing.reaches (by simpa using heard) (Or.inr awaiting)
  · rw [if_neg empty]
    rcases start_cases handler aborted with ⟨rfl, refused⟩ | ⟨rfl, head, started, heads⟩
    · rw [refused]
      have unwritten := @Flowing.unwritten _ _ _ _ _ content _ flowing id
      exact Flowing.reaches (by simpa using unwritten) (Or.inr awaiting)
    · have drained : handler.raw.needDrain = false := by
        rw [← flowing.consuming rfl, idle]
        rfl
      have continues : StreamEffect.abort ∉ head := by
        intro member
        cases heads _ member
      have headShown :=
        @sameShown_head Failure (trace ++ [StreamEntry.heard (.delta content)]) head heads
      rw [started]
      rcases writeSse_cases { handler with started := true } false write
        (.delta content handler.requestId) with rejected | ⟨_, resolved | pending⟩
      · simp only [rejected]
        have failed := (@Flowing.unwritten _ _ _ _ _ content true flowing (fun _ => rfl)).same headShown
        apply Flowing.reaches _ (Or.inr awaiting)
        simpa using failed.same (@sameShown_snoc Failure _ (.did .abort) rfl)
      · have wrote := @Flowing.wrote _ _ _ _ _ content false none flowing drained headShown empty rfl
        have accepted := wrote.same (@sameShown_snoc Failure _
          (.did (.accepted (.delta content requestId))) rfl)
        have next := @Flowing.transfer _ _ _ _ _ { handler with started := true } accepted
          rfl rfl rfl drained idle
        simp only [resolved]
        apply Flowing.reaches _ (Or.inr awaiting)
        simpa [continues, flowing.request] using next
      · have wrote := @Flowing.wrote _ _ _ _ _ content true (some content) flowing drained headShown
          empty rfl
        simp only [pending]
        apply Flowing.reaches _ (Or.inr awaiting)
        simpa [continues, flowing.request] using wrote

theorem Closing.reaches {progress : StreamProgress Failure}
    (closing : Closing requestId progress.1 (trace ++ progress.2.map StreamEntry.did))
    (awaiting : progress.1.awaiting = .doneWrite ∨ ∃ error, progress.1.awaiting = .errorWrite error) :
    Reaches requestId aborted trace progress := by
  unfold Reaches StreamInvariant
  rcases awaiting with done | ⟨error, failing⟩
  · rw [done]
    exact closing
  · rw [failing]
    exact closing

theorem onProviderSettled_reaches (flowing : Flowing requestId handler aborted trace)
    (result : Except (RouteError Failure) Unit)
    (idle : result = .ok () → handler.consuming = none) :
    Reaches requestId aborted (trace ++ [StreamEntry.heard (.providerSettled result)])
      (handler.onProviderSettled aborted write result) := by
  have heard := flowing.same
    (@sameShown_snoc Failure trace (.heard (.providerSettled result)) rfl)
  cases result with
  | error error => exact heard.failed
  | ok value =>
      simp only [StreamHandler.onProviderSettled]
      rcases start_cases handler aborted with ⟨rfl, refused⟩ | ⟨rfl, head, started, heads⟩
      · rw [refused]
        exact heard.failed
      · have idle := idle rfl
        have drained : handler.raw.needDrain = false := by
          rw [← flowing.consuming rfl, idle]
          rfl
        have continues : StreamEffect.abort ∉ head := by
          intro member
          cases heads _ member
        have sent := heard.same (sameShown_head heads)
        have precedes : Precedes
            (trace ++ [StreamEntry.heard (.providerSettled (.ok ()))] ++ head.map StreamEntry.did)
            (.done requestId) :=
          ⟨by simp, sent.whole rfl⟩
        have closed := fun full => @Flowing.close _ _ _ _ _ (.done requestId) full sent
          (Or.inr (Or.inl rfl)) rfl precedes drained
        rw [started]
        rcases writeSse_cases { handler with started := true } false write
          (.done handler.requestId) with rejected | ⟨_, resolved | pending⟩
        · have cancelled : Ongoing requestId { handler with started := true } _ :=
            sent.ongoing.transfer rfl rfl
          simp only [rejected, List.append_nil]
          exact Reaches.after (cancelled.cancelled rfl) continues
        · have written : Ongoing requestId { handler with started := true } _ :=
            (closed false).transfer rfl rfl
          simp only [resolved]
          apply Reaches.after
          · simpa [flowing.request] using written.completes
          · simpa using continues
        · simp only [pending]
          apply Closing.reaches _ (Or.inl rfl)
          refine ⟨@Ongoing.transfer _ _ _ handler _ ?_ rfl rfl, idle⟩
          simpa [flowing.request] using closed true

theorem Flowing.drained {consuming : Option JsString}
    (flowing : Flowing requestId handler aborted trace)
    (idle : aborted = false → consuming = none) :
    Flowing requestId { handler.drained with consuming := consuming } aborted
      (trace ++ [StreamEntry.heard .drain]) := by
  have offered : offeredDeltas (trace ++ [StreamEntry.heard .drain]) = offeredDeltas trace := by
    simp [offeredDeltas, StreamEntry.offered?]
  refine ⟨flowing.request, flowing.word.unwritten rfl, ?_, ?_, ?_, ?_, ?_,
    flowing.unrecorded.heard _⟩
  · rw [writtenDeltas_heard, offered]
    exact flowing.whole
  · rw [writtenDeltas_heard]
    exact flowing.started
  · rw [writtenDeltas_heard]
    exact flowing.written
  · rw [waitsForDrain_snoc]
    rfl
  · intro continues
    rw [idle continues]
    rfl

theorem onDrain_flowing (flowing : Flowing requestId handler aborted trace)
    (awaiting : handler.awaiting = .acquire ∨ handler.awaiting = .providerStream) :
    Reaches requestId aborted (trace ++ [StreamEntry.heard .drain]) (handler.onDrain aborted) := by
  unfold StreamHandler.onDrain
  cases aborted with
  | true =>
      have drained : Flowing requestId handler.drained true (trace ++ [StreamEntry.heard .drain]) :=
        @Flowing.drained _ _ _ _ _ handler.consuming flowing (by simp)
      exact Flowing.reaches (by simpa using drained) awaiting
  | false =>
      have drained := @Flowing.drained _ _ _ _ _ none flowing (fun _ => rfl)
      rw [if_neg Bool.false_ne_true]
      cases consuming : handler.consuming with
      | some content =>
          have accepted := drained.same
            (@sameShown_snoc Failure _ (.did (.accepted (.delta content handler.requestId))) rfl)
          exact Flowing.reaches (by simpa using accepted) awaiting
      | none =>
          have kept : Flowing requestId handler.drained false
              (trace ++ [StreamEntry.heard .drain]) :=
            drained.transfer rfl rfl rfl rfl consuming
          rcases awaiting with queued | streaming
          · simp only [queued]
            exact Flowing.reaches (by simpa using kept) (Or.inl queued)
          · simp only [streaming]
            exact Flowing.reaches (by simpa using kept) (Or.inr streaming)

theorem Ongoing.heard (ongoing : Ongoing requestId handler trace) (input : StreamInput Failure) :
    Ongoing requestId handler (trace ++ [StreamEntry.heard input]) where
  request := ongoing.request
  word := by
    obtain ⟨ending, word, isEnding⟩ := ongoing.word
    exact ⟨ending, word.unwritten rfl, isEnding⟩
  unrecorded := ongoing.unrecorded.heard input

theorem onDrain_closing (closing : Closing requestId handler trace)
    (awaiting : handler.awaiting = .doneWrite ∨ ∃ error, handler.awaiting = .errorWrite error) :
    Reaches requestId aborted (trace ++ [StreamEntry.heard .drain]) (handler.onDrain aborted) := by
  have heard : Ongoing requestId handler.drained (trace ++ [StreamEntry.heard .drain]) :=
    (closing.toOngoing.heard .drain).transfer rfl rfl
  unfold StreamHandler.onDrain
  cases aborted with
  | true =>
      have waiting : Closing requestId handler.drained (trace ++ [StreamEntry.heard .drain]) :=
        ⟨heard, closing.consuming⟩
      exact Closing.reaches (by simpa using waiting) awaiting
  | false =>
      rw [if_neg Bool.false_ne_true, closing.consuming]
      rcases awaiting with done | ⟨error, failing⟩
      · simp only [done]
        apply Reaches.after _ (by simp)
        rw [closing.request]
        exact heard.completes
      · simp only [failing]
        apply Reaches.after _ (by simp)
        have accepted := heard.same
          (@sameShown_snoc Failure _ (.did (.accepted (handler.errorEvent error))) rfl)
        exact accepted.ended

theorem Settled.heard {ending : StreamEnding Failure} {handler' : StreamHandler Failure}
    (settled : Settled requestId handler ending trace) (input : StreamInput Failure)
    (sameRequest : handler'.requestId = handler.requestId)
    (sameOutcome : handler'.outcome = handler.outcome) :
    Settled requestId handler' ending (trace ++ [StreamEntry.heard input]) where
  request := sameRequest.trans settled.request
  word := by
    obtain ⟨events, word, isEnding⟩ := settled.word
    exact ⟨events, word.unwritten rfl, isEnding⟩
  unanswered := by
    simpa [writtenEvents, StreamEntry.written?] using settled.unanswered
  recorded := by
    rw [recordedOutcomes_append, settled.recorded, sameOutcome]
    rfl
  completed := by
    rw [sameOutcome, settled.completed]
    simp [doneAccepted]

theorem Settled.reaches {ending : StreamEnding Failure} {progress : StreamProgress Failure}
    (settled : Settled requestId progress.1 ending (trace ++ progress.2.map StreamEntry.did))
    (awaiting : progress.1.awaiting = .settled ending) :
    Reaches requestId aborted trace progress := by
  unfold Reaches StreamInvariant
  rw [awaiting]
  exact settled

theorem onDrain_settled {ending : StreamEnding Failure}
    (settled : Settled requestId handler ending trace)
    (awaiting : handler.awaiting = .settled ending) :
    Reaches requestId aborted (trace ++ [StreamEntry.heard .drain]) (handler.onDrain aborted) := by
  have drained : Settled requestId handler.drained ending (trace ++ [StreamEntry.heard .drain]) :=
    settled.heard .drain rfl rfl
  unfold StreamHandler.onDrain
  cases aborted with
  | true => exact Settled.reaches (by simpa using drained) awaiting
  | false =>
      rw [if_neg Bool.false_ne_true]
      cases handler.consuming with
      | some content =>
          have idle : Settled requestId { handler.drained with consuming := none } ending
              (trace ++ [StreamEntry.heard .drain]) := settled.heard .drain rfl rfl
          have accepted := idle.same
            (@sameShown_snoc Failure _ (.did (.accepted (.delta content handler.requestId))) rfl)
          exact Settled.reaches (by simpa using accepted) awaiting
      | none =>
          simp only [awaiting]
          exact Settled.reaches (by simpa using drained) awaiting

/-- A pending delta fails, and the consumer cancels the request. -/
theorem onWriteFailed_flowing (flowing : Flowing requestId handler aborted trace)
    (awaiting : handler.awaiting = .acquire ∨ handler.awaiting = .providerStream)
    {progress : StreamProgress Failure}
    (failed : handler.onWriteFailed aborted write = some progress) :
    Reaches requestId aborted (trace ++ [StreamEntry.heard .writeFailed]) progress := by
  have heard := flowing.same (@sameShown_snoc Failure trace (.heard .writeFailed) rfl)
  unfold StreamHandler.onWriteFailed at failed
  cases consuming : handler.consuming with
  | some content =>
      simp only [consuming, Option.some.injEq] at failed
      subst failed
      have cancelled := (heard.cancel none).same (@sameShown_snoc Failure _ (.did .abort) rfl)
      exact Flowing.reaches (by simpa using cancelled) awaiting
  | none =>
      rcases awaiting with queued | streaming
      · simp [consuming, queued] at failed
      · simp [consuming, streaming] at failed

theorem onWriteFailed_closing (closing : Closing requestId handler trace)
    (awaiting : handler.awaiting = .doneWrite ∨ ∃ error, handler.awaiting = .errorWrite error)
    {progress : StreamProgress Failure}
    (failed : handler.onWriteFailed aborted write = some progress) :
    Reaches requestId aborted (trace ++ [StreamEntry.heard .writeFailed]) progress := by
  have heard := closing.toOngoing.heard .writeFailed
  unfold StreamHandler.onWriteFailed at failed
  rcases awaiting with done | ⟨error, failing⟩
  · simp only [closing.consuming, done, Option.some.injEq] at failed
    subst failed
    exact heard.cancelled rfl
  · simp only [closing.consuming, failing, Option.some.injEq] at failed
    subst failed
    exact heard.destroyed

theorem onWriteFailed_settled {ending : StreamEnding Failure}
    (settled : Settled requestId handler ending trace)
    (awaiting : handler.awaiting = .settled ending) {progress : StreamProgress Failure}
    (failed : handler.onWriteFailed aborted write = some progress) :
    Reaches requestId aborted (trace ++ [StreamEntry.heard .writeFailed]) progress := by
  unfold StreamHandler.onWriteFailed at failed
  cases consuming : handler.consuming with
  | some content =>
      simp only [consuming, Option.some.injEq] at failed
      subst failed
      have idle : Settled requestId { handler with consuming := none } ending
          (trace ++ [StreamEntry.heard .writeFailed]) := settled.heard .writeFailed rfl rfl
      have aborts := idle.same (@sameShown_snoc Failure _ (.did .abort) rfl)
      exact Settled.reaches (by simpa using aborts) awaiting
  | none => simp [consuming, awaiting] at failed

theorem StreamInvariant.phases (invariant : StreamInvariant requestId handler aborted trace) :
    (Flowing requestId handler aborted trace ∧
        (handler.awaiting = .acquire ∨ handler.awaiting = .providerStream)) ∨
      (Closing requestId handler trace ∧
        (handler.awaiting = .doneWrite ∨ ∃ error, handler.awaiting = .errorWrite error)) ∨
      ∃ ending, Settled requestId handler ending trace ∧ handler.awaiting = .settled ending := by
  unfold StreamInvariant at invariant
  cases awaiting : handler.awaiting with
  | acquire =>
      rw [awaiting] at invariant
      exact Or.inl ⟨invariant, Or.inl rfl⟩
  | providerStream =>
      rw [awaiting] at invariant
      exact Or.inl ⟨invariant, Or.inr rfl⟩
  | doneWrite =>
      rw [awaiting] at invariant
      exact Or.inr (Or.inl ⟨invariant, Or.inl rfl⟩)
  | errorWrite error =>
      rw [awaiting] at invariant
      exact Or.inr (Or.inl ⟨invariant, Or.inr ⟨error, rfl⟩⟩)
  | settled ending =>
      rw [awaiting] at invariant
      exact Or.inr (Or.inr ⟨ending, invariant, rfl⟩)

theorem closed_reaches (invariant : StreamInvariant requestId handler aborted trace) :
    Reaches requestId aborted (trace ++ [StreamEntry.heard .closed]) (handler.closed, []) := by
  rcases invariant.phases with ⟨flowing, awaiting⟩ | ⟨closing, awaiting⟩ | ⟨ending, settled, awaiting⟩
  · have heard := flowing.same (@sameShown_snoc Failure trace (.heard .closed) rfl)
    have next : Flowing requestId handler.closed aborted (trace ++ [StreamEntry.heard .closed]) :=
      heard.transfer rfl rfl rfl rfl rfl
    exact Flowing.reaches (by simpa using next) awaiting
  · have next : Closing requestId handler.closed (trace ++ [StreamEntry.heard .closed]) :=
      ⟨(closing.toOngoing.heard .closed).transfer rfl rfl, closing.consuming⟩
    exact Closing.reaches (by simpa using next) awaiting
  · have next : Settled requestId handler.closed ending (trace ++ [StreamEntry.heard .closed]) :=
      settled.heard .closed rfl rfl
    exact Settled.reaches (by simpa using next) awaiting

theorem onDrain_reaches (invariant : StreamInvariant requestId handler aborted trace) :
    Reaches requestId aborted (trace ++ [StreamEntry.heard .drain]) (handler.onDrain aborted) := by
  rcases invariant.phases with ⟨flowing, awaiting⟩ | ⟨closing, awaiting⟩ | ⟨ending, settled, awaiting⟩
  · exact onDrain_flowing flowing awaiting
  · exact onDrain_closing closing awaiting
  · exact onDrain_settled settled awaiting

theorem onWriteFailed_reaches (invariant : StreamInvariant requestId handler aborted trace)
    {progress : StreamProgress Failure}
    (failed : handler.onWriteFailed aborted write = some progress) :
    Reaches requestId aborted (trace ++ [StreamEntry.heard .writeFailed]) progress := by
  rcases invariant.phases with ⟨flowing, awaiting⟩ | ⟨closing, awaiting⟩ | ⟨ending, settled, awaiting⟩
  · exact onWriteFailed_flowing flowing awaiting failed
  · exact onWriteFailed_closing closing awaiting failed
  · exact onWriteFailed_settled settled awaiting failed

theorem StreamInvariant.flowing (invariant : StreamInvariant requestId handler aborted trace)
    (awaiting : handler.awaiting = .acquire ∨ handler.awaiting = .providerStream) :
    Flowing requestId handler aborted trace := by
  unfold StreamInvariant at invariant
  rcases awaiting with queued | streaming
  · rwa [queued] at invariant
  · rwa [streaming] at invariant

theorem resume_reaches (invariant : StreamInvariant requestId handler aborted trace)
    {input : StreamInput Failure} {progress : StreamProgress Failure}
    (resumed : handler.resume aborted write input = some progress) :
    Reaches requestId aborted (trace ++ [StreamEntry.heard input]) progress := by
  cases input with
  | acquired result =>
      simp only [StreamHandler.resume] at resumed
      split at resumed
      · next awaiting =>
          cases resumed
          have flowing := invariant.flowing (Or.inl awaiting)
          exact onAcquired_reaches
            (flowing.same (@sameShown_snoc Failure trace (.heard (.acquired result)) rfl)) result
      · cases resumed
  | delta content =>
      simp only [StreamHandler.resume] at resumed
      split at resumed
      · next awaiting idle =>
          cases resumed
          exact onDelta_reaches (invariant.flowing (Or.inr awaiting)) awaiting idle content
      · cases resumed
  | providerSettled result =>
      cases result with
      | ok value =>
          simp only [StreamHandler.resume] at resumed
          split at resumed
          · next awaiting idle =>
              cases resumed
              exact onProviderSettled_reaches (invariant.flowing (Or.inr awaiting)) (.ok value)
                (fun _ => idle)
          · cases resumed
      | error error =>
          simp only [StreamHandler.resume] at resumed
          split at resumed
          · next awaiting =>
              cases resumed
              exact onProviderSettled_reaches (invariant.flowing (Or.inr awaiting)) (.error error)
                (by simp)
          · cases resumed
  | drain =>
      simp only [StreamHandler.resume] at resumed
      split at resumed
      · cases resumed
        exact onDrain_reaches invariant
      · cases resumed
  | writeFailed => exact onWriteFailed_reaches invariant resumed
  | closed =>
      cases resumed
      exact closed_reaches invariant

/-! ### Runs -/

theorem StreamInvariant.cancel (invariant : StreamInvariant requestId handler aborted trace) :
    StreamInvariant requestId handler true trace := by
  unfold StreamInvariant at invariant ⊢
  cases awaiting : handler.awaiting with
  | acquire =>
      rw [awaiting] at invariant
      exact invariant.cancel handler.consuming
  | providerStream =>
      rw [awaiting] at invariant
      exact invariant.cancel handler.consuming
  | _ =>
      rw [awaiting] at invariant
      exact invariant

theorem streamInvariant_initial (body : ChatRequest) (requestId : JsString)
    (providerStreams cancelled : Bool) :
    let system : StreamSystem Failure := .initial body requestId providerStreams cancelled
    StreamInvariant requestId system.handler system.aborted system.trace := by
  have word : SseWord requestId ([.did .acquire] : StreamTrace Failure) [] :=
    ⟨rfl, List.prefix_rfl, throughout_snoc.mpr ⟨throughout_nil _, trivial⟩⟩
  refine ⟨rfl, word, fun _ => rfl, ?_, ?_, rfl, fun _ => rfl, ?_⟩
  · intro written
    exact absurd rfl written
  · intro _ started
    cases started
  · exact ⟨by simp [StreamSystem.initial, StreamHandler.enter], rfl,
      by simp [doneAccepted, StreamSystem.initial, StreamHandler.enter]⟩

theorem streamInvariant_step {system next : StreamSystem Failure} {event : StreamEvent Failure}
    (invariant : StreamInvariant requestId system.handler system.aborted system.trace)
    (taken : StreamStep system event next) :
    StreamInvariant requestId next.handler next.aborted next.trace := by
  cases taken with
  | cancel => exact invariant.cancel
  | resume write input resumed => exact resume_reaches invariant resumed

/-- What a client can rely on, in terms of the history. -/
structure SseProtocol (requestId : JsString) (system : StreamSystem Failure) : Prop where
  word : ∃ ending, IsEnding requestId ending ∧
    writtenEvents system.trace =
      (writtenDeltas system.trace).map (fun content => SseEvent.delta content requestId) ++ ending
  deltas : writtenDeltas system.trace <+: offeredDeltas system.trace
  done : ∀ before id full after,
    system.trace = before ++ .did (.wrote (.done id) full) :: after →
      .heard (.providerSettled (.ok ())) ∈ before ∧ writtenDeltas before = offeredDeltas before
  error : ∀ before code message id full after,
    system.trace = before ++ .did (.wrote (.error code message id) full) :: after →
      writtenDeltas before ≠ [] ∧ ∀ id, .done id ∉ writtenEvents before
  drained : ∀ before event full after,
    system.trace = before ++ .did (.wrote event full) :: after → waitsForDrain before = false
  unanswered : ∀ error,
    system.handler.awaiting = .settled (.thrown error) → writtenEvents system.trace = []
  recorded : ∀ ending, system.handler.awaiting = .settled ending →
    ∃ outcome, recordedOutcomes system.trace = [outcome] ∧
      (outcome = .completed ↔ doneAccepted system.trace)
  unrecorded : (∀ ending, system.handler.awaiting ≠ .settled ending) →
    recordedOutcomes system.trace = []

theorem StreamInvariant.word (invariant : StreamInvariant requestId handler aborted trace) :
    ∃ ending, SseWord requestId trace ending ∧ IsEnding requestId ending := by
  rcases invariant.phases with ⟨flowing, _⟩ | ⟨closing, _⟩ | ⟨_, settled, _⟩
  · exact flowing.ongoing.word
  · exact closing.word
  · exact settled.word

theorem StreamInvariant.settled {ending : StreamEnding Failure}
    (invariant : StreamInvariant requestId handler aborted trace)
    (awaiting : handler.awaiting = .settled ending) : Settled requestId handler ending trace := by
  unfold StreamInvariant at invariant
  rwa [awaiting] at invariant

/-- Every execution of the stream handler, cancelled at any time and with any provider
and socket, keeps to the protocol. -/
theorem sse_protocol (body : ChatRequest) (requestId : JsString) (providerStreams cancelled : Bool)
    {events : List (StreamEvent Failure)} {system : StreamSystem Failure}
    (run : Run StreamStep (.initial body requestId providerStreams cancelled) events system) :
    SseProtocol requestId system := by
  have invariant := run.invariant
    (fun state => StreamInvariant requestId state.handler state.aborted state.trace)
    (streamInvariant_initial body requestId providerStreams cancelled)
    (fun _ _ _ => streamInvariant_step)
  obtain ⟨ending, word, isEnding⟩ := invariant.word
  constructor
  · exact ⟨ending, isEnding, word.events⟩
  · exact word.isPrefix
  · intro before id full after split
    exact (word.inOrder before _ after split).2.2
  · intro before code message id full after split
    obtain ⟨_, onlyDeltas, precedes⟩ := word.inOrder before _ after split
    refine ⟨precedes, ?_⟩
    intro id member
    cases onlyDeltas _ member
  · intro before event full after split
    exact (word.inOrder before _ after split).1
  · intro error awaiting
    exact (invariant.settled awaiting).unanswered error rfl
  · intro ending awaiting
    have settled := invariant.settled awaiting
    exact ⟨system.handler.outcome, settled.recorded, settled.completed⟩
  · intro unsettled
    rcases invariant.phases with ⟨flowing, _⟩ | ⟨closing, _⟩ | ⟨ending, _, awaiting⟩
    · exact flowing.unrecorded.recorded
    · exact closing.unrecorded.recorded
    · exact absurd awaiting (unsettled ending)

/-- A full buffer delays the second delta; both are written and then `done`. -/
theorem sse_protocol_backpressure :
    ∃ events, ∃ system : StreamSystem Unit,
      Run StreamStep (.initial ⟨[0x6D], []⟩ [0x72] true false) events system ∧
        writtenEvents system.trace =
          [.delta [0x61] [0x72], .delta [0x62] [0x72], .done [0x72]] ∧
        recordedOutcomes system.trace = [.completed] ∧ doneAccepted system.trace := by
  let initial : StreamSystem Unit := .initial ⟨[0x6D], []⟩ [0x72] true false
  have admitted := (@Run.refl _ _ StreamStep initial).snoc (StreamStep.resume .taken (.acquired (.ok 0)) rfl)
  have waiting := admitted.snoc (StreamStep.resume .full (.delta [0x61]) rfl)
  have drained := waiting.snoc (StreamStep.resume .taken .drain rfl)
  have written := drained.snoc (StreamStep.resume .taken (.delta [0x62]) rfl)
  have finished := written.snoc (StreamStep.resume .taken (.providerSettled (.ok ())) rfl)
  refine ⟨_, _, finished, by decide +kernel, by decide +kernel, ?_⟩
  obtain ⟨outcome, recorded, accepted⟩ :=
    (sse_protocol _ _ _ _ finished).recorded .returned (by decide +kernel)
  have completed : [StreamOutcome.completed] = [outcome] := by
    rw [← recorded]
    decide +kernel
  exact accepted.mp (List.singleton_inj.mp completed).symm

end ModelMux.Routes
