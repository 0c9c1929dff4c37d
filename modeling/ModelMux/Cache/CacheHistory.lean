/-
What a cached answer is.

The answers that count for a lookup are those put for the same namespace, the
same owner and an equal request, if their text fits.  The first of them is
stored for its lifetime; what is put in the meantime changes nothing.  A
lookup returns the stored answer exactly as it was put.
-/

import ModelMux.Cache.RedisChatCache
import ModelMux.Foundation.LabelledRun

namespace ModelMux.Cache

open Queue (Document CollisionFree)

/-! ### Entries -/

/-- The answer in a response whose text fits an entry. -/
def fittingAnswer (limits : CacheLimits) (response : Json) : Option ChatResponse :=
  (isChatResponse response).filter
    (fun answer => Utf8.byteLength (stringifyResponse answer) ≤ limits.maxEntryBytes)

def entryStart : JsString :=
  JsString.ofString "\x7b\"message\":\x7b\"role\":\"assistant\",\"content\":\""

def entryEnd : JsString := JsString.ofString "\"\x7d\x7d"

theorem stringifyResponse_eq (response : ChatResponse) :
    stringifyResponse response = entryStart ++ (Json.escape response.content ++ entryEnd) := by
  simp only [stringifyResponse, responseJson, Json.print, Json.printMembers, Json.quote,
    List.cons_append, List.append_assoc]
  rfl

theorem wellFormed_stringifyResponse (response : ChatResponse) :
    Utf8.wellFormed (stringifyResponse response) = true :=
  Utf8.wellFormed_print (responseJson response)

theorem byteLength_content_le (response : ChatResponse) :
    Utf8.byteLength response.content ≤ Utf8.byteLength (stringifyResponse response) := by
  rw [stringifyResponse_eq, Utf8.byteLength_append (by decide),
    Utf8.byteLength_append (Utf8.wellFormed_escape _)]
  have escaped := Utf8.byteLength_le_escape response.content
  omega

theorem isChatResponse_responseJson (response : ChatResponse) :
    isChatResponse (responseJson response) = some response := by
  rfl

theorem parse_stringifyResponse (response : ChatResponse) :
    Json.parse (stringifyResponse response) = some (responseJson response) := by
  rw [Json.parse, stringifyResponse, Json.parseText_print]
  rfl

theorem entryText_eq (limits : CacheLimits) (response : Json) :
    entryText limits response = (fittingAnswer limits response).map stringifyResponse := by
  unfold entryText fittingAnswer
  cases isChatResponse response with
  | none => rfl
  | some answer =>
      have content := byteLength_content_le answer
      by_cases fits : Utf8.byteLength (stringifyResponse answer) ≤ limits.maxEntryBytes
      · have small : ¬Utf8.byteLength answer.content > limits.maxEntryBytes := by omega
        simp [Option.filter, fits, small]
      · have large : Utf8.byteLength (stringifyResponse answer) > limits.maxEntryBytes := by omega
        simp [Option.filter, fits, large]

theorem fits_of_fittingAnswer {limits : CacheLimits} {response : Json} {answer : ChatResponse}
    (fitting : fittingAnswer limits response = some answer) :
    isChatResponse response = some answer ∧
      Utf8.byteLength (stringifyResponse answer) ≤ limits.maxEntryBytes := by
  rw [fittingAnswer, Option.filter_eq_some_iff] at fitting
  exact ⟨fitting.1, by simpa using fitting.2⟩

theorem readEntry_encode {limits : CacheLimits} {answer : ChatResponse}
    (fits : Utf8.byteLength (stringifyResponse answer) ≤ limits.maxEntryBytes) :
    readEntry limits
        ((Utf8.encode (stringifyResponse answer)).take (limits.maxEntryBytes + 1)) =
      some answer := by
  have length : (Utf8.encode (stringifyResponse answer)).length ≤ limits.maxEntryBytes := fits
  have start : (stringifyResponse answer).head? = some 0x7B := by
    rw [stringifyResponse_eq]
    rfl
  have decoded : Utf8.decode (Utf8.encode (stringifyResponse answer)) =
      some (stringifyResponse answer) := by
    apply Utf8.decode_encode (wellFormed_stringifyResponse answer)
    rw [start]
    decide
  have nonempty : (Utf8.encode (stringifyResponse answer)).length ≠ 0 := by
    intro empty
    rw [List.length_eq_zero_iff.mp empty] at decoded
    have blank : stringifyResponse answer = [] := (Option.some.inj decoded).symm
    rw [blank] at start
    cases start
  rw [List.take_of_length_le (by omega), readEntry, decoded, Option.bind_some,
    parse_stringifyResponse]
  simp [nonempty, isChatResponse_responseJson, length]

/-! ### Puts that count -/

def clock : ℤ → List CacheEvent → ℤ
  | nowMs, [] => nowMs
  | nowMs, .elapse milliseconds :: rest => clock (nowMs + milliseconds) rest
  | nowMs, .get _ _ _ _ :: rest => clock nowMs rest
  | nowMs, .put _ _ _ _ :: rest => clock nowMs rest

section Puts

open Classical

/-- The answers put for the namespace, the owner and a request equal up to the
order of object members whose text fits, with the times of the puts. -/
noncomputable def puts (limits : CacheLimits) (namespaceId ownerId : JsString)
    (request : Document) : ℤ → List CacheEvent → List (Offer ChatResponse)
  | _, [] => []
  | nowMs, .elapse milliseconds :: rest =>
      puts limits namespaceId ownerId request (nowMs + milliseconds) rest
  | nowMs, .get _ _ _ _ :: rest => puts limits namespaceId ownerId request nowMs rest
  | nowMs, .put namespaceId' ownerId' request' response :: rest =>
      if namespaceId' = namespaceId ∧ ownerId' = ownerId ∧
          Json.Reordered request'.value request.value then
        (fittingAnswer limits response).toList.map (fun answer => ⟨nowMs, answer⟩) ++
          puts limits namespaceId ownerId request nowMs rest
      else puts limits namespaceId ownerId request nowMs rest

end Puts

variable {digest : JsString → JsString} {limits : CacheLimits} {namespaceId ownerId : JsString}
  {request : Document} {events : List CacheEvent} {start : ℤ}

theorem clock_append (left right : List CacheEvent) :
    clock start (left ++ right) = clock (clock start left) right := by
  induction left generalizing start with
  | nil => rfl
  | cons event rest ih => cases event <;> exact ih

theorem puts_append (left right : List CacheEvent) :
    puts limits namespaceId ownerId request start (left ++ right) =
      puts limits namespaceId ownerId request start left ++
        puts limits namespaceId ownerId request (clock start left) right := by
  induction left generalizing start with
  | nil => rfl
  | cons event rest ih =>
      cases event with
      | elapse milliseconds => exact ih
      | get _ _ _ _ => exact ih
      | put _ _ _ _ =>
          simp only [List.cons_append, puts, clock]
          split
          · rw [ih, List.append_assoc]
          · exact ih

theorem le_clock (start : ℤ) (events : List CacheEvent) : start ≤ clock start events := by
  induction events generalizing start with
  | nil => exact le_rfl
  | cons event rest ih =>
      cases event with
      | elapse milliseconds =>
          have later := ih (start + milliseconds)
          simp only [clock]
          omega
      | get _ _ _ _ => exact ih start
      | put _ _ _ _ => exact ih start

theorem mem_puts {offer : Offer ChatResponse}
    (member : offer ∈ puts limits namespaceId ownerId request start events) :
    offer.time ≤ clock start events ∧
      ∃ request' response, .put namespaceId ownerId request' response ∈ events ∧
        Json.Reordered request'.value request.value ∧
        fittingAnswer limits response = some offer.value := by
  induction events generalizing start with
  | nil => cases member
  | cons event rest ih =>
      have later : ∀ {begin : ℤ}, clock begin rest = clock start (event :: rest) →
          offer ∈ puts limits namespaceId ownerId request begin rest →
          offer.time ≤ clock start (event :: rest) ∧
            ∃ request' response, .put namespaceId ownerId request' response ∈ event :: rest ∧
              Json.Reordered request'.value request.value ∧
              fittingAnswer limits response = some offer.value := by
        intro begin same present
        obtain ⟨made, request', response, listed, equal, fitting⟩ := ih present
        exact ⟨same ▸ made, request', response, List.mem_cons_of_mem _ listed, equal, fitting⟩
      cases event with
      | elapse milliseconds => exact later rfl member
      | get _ _ _ _ => exact later rfl member
      | put namespaceId' ownerId' request' response =>
          simp only [puts] at member
          split at member
          · next matched =>
              obtain ⟨rfl, rfl, equal⟩ := matched
              rcases List.mem_append.mp member with here | rest
              · obtain ⟨answer, found, rfl⟩ := List.mem_map.mp here
                exact ⟨le_clock start _, request', response, List.mem_cons_self, equal,
                  by simpa using found⟩
              · exact later rfl rest
          · exact later rfl member

/-! ### Histories -/

def hashedTexts (events : List CacheEvent) : List JsString :=
  events.filterMap (fun event =>
    match event with
    | .elapse _ => none
    | .get namespaceId ownerId request _ => some (keyText namespaceId ownerId request)
    | .put namespaceId ownerId request _ => some (keyText namespaceId ownerId request))

def lifetimeMs (limits : CacheLimits) : ℤ := (limits.ttlSeconds * 1000 : ℕ)

def entryBytes (answer : ChatResponse) : List UInt8 := Utf8.encode (stringifyResponse answer)

/-- Where the digest takes a put for the key, its text is that of the key. -/
def Separated (digest : JsString → JsString) (text : JsString) : CacheEvent → Prop
  | .put namespaceId ownerId request _ =>
      digest (keyText namespaceId ownerId request) = digest text →
        keyText namespaceId ownerId request = text
  | _ => True

/-- The first answer put and, from then on, the first one put when the last that
was stored has expired. -/
noncomputable def storedPuts (limits : CacheLimits) (namespaceId ownerId : JsString)
    (request : Document) (start : ℤ) (events : List CacheEvent) : List (Offer ChatResponse) :=
  Offer.taken (lifetimeMs limits) (puts limits namespaceId ownerId request start events)

/-- At the key of a lookup Redis holds the answer that was stored last. -/
structure EntryInvariant (digest : JsString → JsString) (limits : CacheLimits)
    (namespaceId ownerId : JsString) (request : Document) (start : ℤ) (events : List CacheEvent)
    (state : CacheState) : Prop where
  time : state.nowMs = clock start events
  tracked : Offer.Tracked (lifetimeMs limits) entryBytes
    (puts limits namespaceId ownerId request start events) state.redis
    (chatCacheKey digest namespaceId ownerId request)

theorem entryInvariant_put {state : CacheState} {namespaceId' ownerId' : JsString}
    {request' : Document} {response : Json}
    (invariant : EntryInvariant digest limits namespaceId ownerId request start events state)
    (separated : Separated digest (keyText namespaceId ownerId request)
      (.put namespaceId' ownerId' request' response)) :
    EntryInvariant digest limits namespaceId ownerId request start
      (events ++ [.put namespaceId' ownerId' request' response])
      (put digest limits state namespaceId' ownerId' request' response) := by
  have time : clock start (events ++ [.put namespaceId' ownerId' request' response]) =
      clock start events := clock_append _ _
  have written : put digest limits state namespaceId' ownerId' request' response =
      (fittingAnswer limits response).elim state (fun answer =>
        { state with
          redis := state.redis.writeNew state.nowMs
            (chatCacheKey digest namespaceId' ownerId' request') (entryBytes answer)
            (state.nowMs + lifetimeMs limits) }) := by
    rw [put, entryText_eq]
    cases fittingAnswer limits response <;> rfl
  by_cases matched : namespaceId' = namespaceId ∧ ownerId' = ownerId ∧
      Json.Reordered request'.value request.value
  · have key : chatCacheKey digest namespaceId' ownerId' request' =
        chatCacheKey digest namespaceId ownerId request := by
      rw [chatCacheKey, chatCacheKey, keyText_eq_iff.mpr matched]
    cases fitting : fittingAnswer limits response with
    | none =>
        rw [fitting, Option.elim_none] at written
        rw [written]
        refine ⟨invariant.time.trans time.symm, ?_⟩
        rw [puts_append]
        simpa [puts, matched, fitting] using invariant.tracked
    | some answer =>
        rw [fitting, Option.elim_some] at written
        rw [written, key]
        refine ⟨invariant.time.trans time.symm, ?_⟩
        rw [puts_append]
        simp only [puts, if_pos matched, fitting, Option.toList_some, List.map_cons, List.map_nil,
          List.append_nil, ← invariant.time]
        exact invariant.tracked.writeNew state.nowMs answer
  · have other : chatCacheKey digest namespaceId ownerId request ≠
        chatCacheKey digest namespaceId' ownerId' request' := by
      intro same
      exact matched (keyText_eq_iff.mp (separated (chatCacheKey_eq_iff.mp same.symm)))
    have unchanged : puts limits namespaceId ownerId request start
        (events ++ [.put namespaceId' ownerId' request' response]) =
        puts limits namespaceId ownerId request start events := by
      rw [puts_append]
      simp [puts, matched]
    have kept : (put digest limits state namespaceId' ownerId' request' response).redis
        (chatCacheKey digest namespaceId ownerId request) =
        state.redis (chatCacheKey digest namespaceId ownerId request) := by
      rw [written]
      cases fittingAnswer limits response with
      | none => rfl
      | some answer => exact ExpiringStore.writeNew_other other _
    constructor
    · rw [time, ← invariant.time, written]
      cases fittingAnswer limits response <;> rfl
    · rw [Offer.Tracked, unchanged, kept]
      exact invariant.tracked

theorem entryInvariant_step {state next : CacheState} {event : CacheEvent}
    (invariant : EntryInvariant digest limits namespaceId ownerId request start events state)
    (separated : Separated digest (keyText namespaceId ownerId request) event)
    (taken : CacheStep digest limits state event next) :
    EntryInvariant digest limits namespaceId ownerId request start (events ++ [event]) next := by
  cases event with
  | elapse milliseconds =>
      cases taken
      refine ⟨?_, ?_⟩
      · rw [clock_append, ← invariant.time]
        rfl
      · rw [puts_append]
        simpa [puts] using invariant.tracked
  | get namespaceId' ownerId' request' answer =>
      obtain ⟨rfl, _⟩ := taken
      refine ⟨?_, ?_⟩
      · rw [clock_append, ← invariant.time]
        rfl
      · rw [puts_append]
        simpa [puts] using invariant.tracked
  | put namespaceId' ownerId' request' response =>
      cases taken
      exact entryInvariant_put invariant separated

theorem entryInvariant_run {state : CacheState}
    (run : Run (CacheStep digest limits) ⟨start, ExpiringStore.empty⟩ events state)
    (separated : ∀ event ∈ events, Separated digest (keyText namespaceId ownerId request) event) :
    EntryInvariant digest limits namespaceId ownerId request start events state := by
  apply (run.restrict _ separated).historyInvariant
    (EntryInvariant digest limits namespaceId ownerId request start)
  · exact ⟨rfl, rfl⟩
  · intro history state event next invariant taken
    exact entryInvariant_step invariant taken.2 taken.1

theorem get_iff {state : CacheState}
    (invariant : EntryInvariant digest limits namespaceId ownerId request start events state)
    (response : ChatResponse) :
    get digest limits state namespaceId ownerId request = some response ↔
      ∃ offer ∈ storedPuts limits namespaceId ownerId request start events,
        offer.value = response ∧ clock start events < offer.time + lifetimeMs limits := by
  have positive : 0 ≤ lifetimeMs limits := Int.natCast_nonneg _
  have made : ∀ offer ∈ puts limits namespaceId ownerId request start events,
      offer.time ≤ state.nowMs := by
    intro offer member
    rw [invariant.time]
    exact (mem_puts member).1
  have whole : ∀ offer ∈ storedPuts limits namespaceId ownerId request start events,
      readEntry limits ((entryBytes offer.value).take (limits.maxEntryBytes + 1)) =
        some offer.value := by
    intro offer member
    obtain ⟨_, _, _, _, _, fitting⟩ := mem_puts (Offer.mem_of_mem_taken member)
    exact readEntry_encode (fits_of_fittingAnswer fitting).2
  have seen := invariant.tracked.read_iff positive made
  rw [← invariant.time]
  unfold get getrange
  constructor
  · intro found
    cases data : state.redis.read state.nowMs (chatCacheKey digest namespaceId ownerId request) with
    | none =>
        rw [data] at found
        cases found
    | some bytes =>
        obtain ⟨offer, member, rfl, unexpired⟩ := (seen bytes).mp data
        rw [data, Option.getD_some, whole offer member] at found
        exact ⟨offer, member, Option.some.inj found, unexpired⟩
  · rintro ⟨offer, member, rfl, unexpired⟩
    rw [(seen _).mpr ⟨offer, member, rfl, unexpired⟩, Option.getD_some, whole offer member]

theorem cached_answer_exact {state : CacheState}
    (run : Run (CacheStep digest limits) ⟨start, ExpiringStore.empty⟩ events state)
    (collisionFree : CollisionFree digest (hashedTexts events)) {before after : List CacheEvent}
    {answer : Option ChatResponse}
    (asked : events = before ++ .get namespaceId ownerId request answer :: after) :
    (∀ response, answer = some response ↔
      ∃ offer ∈ storedPuts limits namespaceId ownerId request start before,
        offer.value = response ∧ clock start before < offer.time + lifetimeMs limits) ∧
    (∀ earlier later, before = earlier ++ later →
      ∀ offer ∈ storedPuts limits namespaceId ownerId request start earlier,
        clock start before < offer.time + lifetimeMs limits → answer = some offer.value) ∧
    (∀ response, answer = some response →
      ∃ request' value, .put namespaceId ownerId request' value ∈ before ∧
        isChatResponse value = some response ∧
        ∀ conversation conversation', Represents request conversation →
          Represents request' conversation' → conversation' = conversation) := by
  subst asked
  obtain ⟨state', next, upTo, taken, _⟩ := run.split_event before after _
  have separated : ∀ event ∈ before,
      Separated digest (keyText namespaceId ownerId request) event := by
    intro event member
    cases event with
    | elapse milliseconds => trivial
    | get _ _ _ _ => trivial
    | put namespaceId' ownerId' request' value =>
        intro same
        apply collisionFree _ _ _ _ same
        · exact List.mem_filterMap.mpr ⟨_, List.mem_append_left _ member, rfl⟩
        · exact List.mem_filterMap.mpr
            ⟨_, List.mem_append_right before List.mem_cons_self, rfl⟩
  obtain ⟨rfl, rfl⟩ := taken
  have found := get_iff (entryInvariant_run upTo separated)
  refine ⟨found, ?_, ?_⟩
  · rintro earlier later rfl offer member unexpired
    apply (found offer.value).mpr
    refine ⟨offer, ?_, rfl, unexpired⟩
    rw [storedPuts, puts_append]
    exact Offer.taken_subset_append _ _ _ member
  · intro response returned
    obtain ⟨offer, member, rfl, _⟩ := (found response).mp returned
    obtain ⟨_, request', value, listed, equal, fitting⟩ :=
      mem_puts (Offer.mem_of_mem_taken member)
    refine ⟨request', value, listed, (fits_of_fittingAnswer fitting).1, ?_⟩
    intro conversation conversation' represents represents'
    exact represents_unique represents' represents equal

theorem cached_answer_exact_hit :
    let limits : CacheLimits := ⟨300, 128, 20, by decide, by decide, by decide⟩
    let namespaceId := JsString.ofString "test"
    let ownerId := JsString.ofString "alice"
    let conversation : Providers.ChatRequest :=
      ⟨JsString.ofString "local", [⟨.user, JsString.ofString "private prompt"⟩]⟩
    let request : Document := ⟨requestJson conversation, distinctKeys_requestJson conversation⟩
    let answer : ChatResponse := ⟨JsString.ofString "cached answer"⟩
    ∃ offer ∈ storedPuts limits namespaceId ownerId request 0
        [.put namespaceId ownerId request (responseJson answer), .elapse 299000],
      offer.value = answer ∧ 299000 < offer.time + lifetimeMs limits := by
  intro limits namespaceId ownerId conversation request answer
  let initial : CacheState := ⟨0, ExpiringStore.empty⟩
  let written := put id limits initial namespaceId ownerId request (responseJson answer)
  let later : CacheState := { written with nowMs := written.nowMs + (299000 : ℕ) }
  have returned : some answer = get id limits later namespaceId ownerId request := by
    decide +kernel
  have stored : CacheStep id limits initial
      (.put namespaceId ownerId request (responseJson answer)) written := rfl
  have waited : CacheStep id limits written (.elapse 299000) later := rfl
  have asked : CacheStep id limits later
      (.get namespaceId ownerId request (some answer)) later := ⟨rfl, returned⟩
  have run := ((Run.single stored).snoc waited).snoc asked
  have exactly := cached_answer_exact run (fun _ _ _ _ same => same) rfl
  exact (exactly.1 answer).mp rfl

end ModelMux.Cache
