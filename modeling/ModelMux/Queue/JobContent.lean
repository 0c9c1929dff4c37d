/-
The texts that jobs store in `jsonb` columns.

`enqueue` binds the request and `complete` the answer, each as `JSON.stringify` writes
it.  With a reachable database the statements raise exactly when the cast to `jsonb`
does, and a `complete` that raises is an error of the delivery: it is left
unacknowledged, the broker has failed, and the loop of the worker ends.
-/

import ModelMux.Cache.RedisChatCache
import ModelMux.Json.Jsonb
import ModelMux.Providers.ChatAdapter
import ModelMux.Queue.ConsumerShutdown

namespace ModelMux.Queue

open Providers (ChatRole ChatMessage ChatRequest IsAnswer)
open Cache (ChatResponse roleText responseJson stringifyResponse)
open Json (Member jsonbAccepts isStorable storable)

/-! ### The schema of requests -/

def readRole (text : JsString) : Option ChatRole :=
  [.system, .user, .assistant].find? (fun role => roleText role = text)

def messageSchema : Json → Option ChatMessage
  | .object members =>
      if members.all (fun member =>
          member.1 = JsString.ofString "role" || member.1 = JsString.ofString "content") then
        match Json.get members (JsString.ofString "role"),
            Json.get members (JsString.ofString "content") with
        | some (.string role), some (.string content) =>
            if content = [] then none
            else (readRole role).map (fun role => { role := role, content := content })
        | _, _ => none
      else none
  | _ => none

/-- The request in a body that the schema accepts, after the validator has removed and
coerced what it removes and coerces. -/
def chatRequestSchema : Json → Option ChatRequest
  | .object members =>
      if members.all (fun member =>
          member.1 = JsString.ofString "model" || member.1 = JsString.ofString "messages") then
        match Json.get members (JsString.ofString "model"),
            Json.get members (JsString.ofString "messages") with
        | some (.string model), some (.array items) =>
            if model = [] || items.isEmpty then none
            else (items.mapM messageSchema).map
              (fun messages => { model := model, messages := messages })
        | _, _ => none
      else none
  | _ => none

def isStorableRequest (request : ChatRequest) : Bool :=
  isStorable request.model && request.messages.all (fun message => isStorable message.content)

/-! ### Objects with two members -/

theorem storableMembers_iff (members : List Member) :
    Json.storableMembers members = true ↔
      ∀ member ∈ members, isStorable member.1 = true ∧ storable member.2 = true := by
  induction members with
  | nil => simp [Json.storableMembers]
  | cons member members ih =>
      obtain ⟨key, value⟩ := member
      simp [Json.storableMembers, ih]

theorem get_of_mem {members : List Member} (distinct : (members.map Prod.fst).Nodup)
    {member : Member} (present : member ∈ members) :
    Json.get members member.1 = some member.2 := by
  induction members with
  | nil => simp at present
  | cons first rest ih =>
      rw [List.map_cons, List.nodup_cons] at distinct
      rcases List.mem_cons.mp present with rfl | later
      · simp [Json.get]
      · have different : first.1 ≠ member.1 := fun same =>
          distinct.1 (same ▸ List.mem_map_of_mem later)
        have found := ih distinct.2 later
        simpa [Json.get, different] using found

theorem mem_of_get {members : List Member} {key : JsString} {value : Json}
    (found : Json.get members key = some value) : (key, value) ∈ members := by
  rw [Json.get] at found
  obtain ⟨member, located, rfl⟩ := Option.map_eq_some_iff.mp found
  have same : member.1 = key := by simpa using List.find?_some located
  rw [← same]
  exact List.mem_of_find?_eq_some located

/-- An object with two keys that can be stored is stored if its values are. -/
theorem storable_two {members : List Member} {left right : JsString} {first second : Json}
    (distinct : (members.map Prod.fst).Nodup)
    (only : members.all (fun member => member.1 = left || member.1 = right) = true)
    (leftStorable : isStorable left = true) (rightStorable : isStorable right = true)
    (leftFound : Json.get members left = some first)
    (rightFound : Json.get members right = some second) :
    Json.storableMembers members = (storable first && storable second) := by
  rw [Bool.eq_iff_iff, storableMembers_iff, Bool.and_eq_true]
  constructor
  · intro all
    exact ⟨(all _ (mem_of_get leftFound)).2, (all _ (mem_of_get rightFound)).2⟩
  · rintro ⟨firstStorable, secondStorable⟩ member present
    have found := get_of_mem distinct present
    have named := List.all_eq_true.mp only member present
    simp only [Bool.or_eq_true, decide_eq_true_eq] at named
    rcases named with here | here
    · rw [here, leftFound, Option.some.injEq] at found
      exact ⟨here ▸ leftStorable, found ▸ firstStorable⟩
    · rw [here, rightFound, Option.some.injEq] at found
      exact ⟨here ▸ rightStorable, found ▸ secondStorable⟩

/-! ### Requests -/

theorem isStorable_role {text : JsString} {role : ChatRole} (read : readRole text = some role) :
    isStorable text = true := by
  have same : roleText role = text := by simpa using List.find?_some read
  have all : ∀ role, isStorable (roleText role) = true := by
    intro role
    cases role <;> decide
  exact same ▸ all role

theorem storable_message {value : Json} {message : ChatMessage} (distinct : value.DistinctKeys)
    (accepted : messageSchema value = some message) :
    storable value = isStorable message.content := by
  unfold messageSchema at accepted
  split at accepted
  · split_ifs at accepted with only
    split at accepted
    · rename_i roleFound contentFound
      split_ifs at accepted with empty
      obtain ⟨read, isRole, rfl⟩ := Option.map_eq_some_iff.mp accepted
      rw [storable, storable_two distinct.1 only (by decide) (by decide) roleFound contentFound,
        storable, storable, isStorable_role isRole, Bool.true_and]
    · cases accepted
  · cases accepted

theorem storable_messages {items : List Json} {messages : List ChatMessage}
    (distinct : Json.DistinctKeysItems items)
    (accepted : items.mapM messageSchema = some messages) :
    Json.storableItems items = messages.all (fun message => isStorable message.content) := by
  induction items generalizing messages with
  | nil =>
      simp at accepted
      simp [accepted, Json.storableItems]
  | cons item items ih =>
      rw [List.mapM_cons] at accepted
      obtain ⟨message, first, later⟩ := Option.bind_eq_some_iff.mp accepted
      obtain ⟨rest, remaining, same⟩ := Option.bind_eq_some_iff.mp later
      cases same
      rw [Json.storableItems, storable_message distinct.1 first, ih distinct.2 remaining,
        List.all_cons]

/-- The texts of a request decide whether its document can be stored. -/
theorem storable_request {document : Document} {request : ChatRequest}
    (accepted : chatRequestSchema document.value = some request) :
    storable document.value = isStorableRequest request := by
  obtain ⟨value, distinct⟩ := document
  simp only at accepted ⊢
  unfold chatRequestSchema at accepted
  split at accepted
  · split_ifs at accepted with only
    split at accepted
    · rename_i items modelFound messagesFound
      split_ifs at accepted with empty
      obtain ⟨messages, read, rfl⟩ := Option.map_eq_some_iff.mp accepted
      have distinctItems : Json.DistinctKeysItems items :=
        (Json.distinctKeysMembers_iff _).mp distinct.2 _ (mem_of_get messagesFound)
      rw [storable, storable_two distinct.1 only (by decide) (by decide) modelFound messagesFound,
        storable, storable, storable_messages distinctItems read, isStorableRequest]
    · cases accepted
  · cases accepted

theorem storable_response (content : JsString) :
    storable (responseJson ⟨content⟩) = isStorable content := by
  have messageKey : isStorable (JsString.ofString "message") = true := by decide
  have roleKey : isStorable (JsString.ofString "role") = true := by decide
  have role : isStorable (JsString.ofString "assistant") = true := by decide
  have contentKey : isStorable (JsString.ofString "content") = true := by decide
  simp [responseJson, storable, Json.storableMembers, messageKey, roleKey, role, contentKey]

/-! ### Statements -/

section Statements

variable {Data Result Digest : Type}

/-- The cast of `$7` is made before the row is compared with those of the table. -/
def enqueueStatement [DecidableEq Digest] (hashing : Hashing Document Digest)
    (options : JobStoreOptions) (now : Timestamp) (uuid : Uuid)
    (submission : JobSubmission Document) (table : JobTable Document Result Digest) :
    InsertOutcome Document Result Digest :=
  if jsonbAccepts (Json.print submission.data.value) then
    enqueueInsert hashing options now uuid submission table
  else .raised

def completeStatement (options : JobStoreOptions) (now : Timestamp) (message : JobEnvelope)
    (response : ChatResponse) (table : JobTable Data ChatResponse Digest) :
    Option (JobTable Data ChatResponse Digest) :=
  if jsonbAccepts (stringifyResponse response) then
    some (complete options now message response table)
  else none

end Statements

/-! ### The worker -/

variable {Error : Type}

/-- What `execute` makes of an answer while the database is reachable; `error` is what
the statement raises. -/
def executeAnswer (error : Error) (response : ChatResponse) : Except (Option Error) Action :=
  if jsonbAccepts (stringifyResponse response) then .ok .ack else .error (some error)

def answerInputs (error : Error) (tag : ℕ) (response : ChatResponse) : List (WorkerInput Error) :=
  [.handlerReturned tag (executeAnswer error response), .handled tag none, .taskSettled tag,
    .loopAnswered .resolved]

/-- A worker that is not shutting down, between two rounds of its loop, while a delivery
is handled. -/
structure Working (process : WorkerProcess Error) (tag : ℕ) : Prop where
  handling : process.broker.tasks tag = some .handling
  healthy : process.broker.failure = none
  sleeping : process.loop = some .delaying
  running : process.drain = none

theorem answered_survives {process : WorkerProcess Error} {tag : ℕ} (working : Working process tag)
    (error : Error) {response : ChatResponse}
    (accepted : jsonbAccepts (stringifyResponse response) = true) :
    ∃ next, (answerInputs error tag response).foldlM WorkerProcess.step process = some next ∧
      next.broker.failure = none ∧ next.loop = some .maintaining ∧ .acked tag ∈ next.log := by
  obtain ⟨handling, healthy, sleeping, running⟩ := working
  simp [answerInputs, executeAnswer, accepted, WorkerProcess.step, BrokerState.handlerReturns,
    handling, healthy, WorkerProcess.update, BrokerState.setTask, BrokerState.handle,
    BrokerState.settleTask, sleeping, running, LoopPhase.step, LoopPhase.head]

/-- A text that is refused stops the worker, with the delivery unacknowledged. -/
theorem refused_stops {process : WorkerProcess Error} {tag : ℕ} (working : Working process tag)
    (error : Error) {response : ChatResponse}
    (refused : jsonbAccepts (stringifyResponse response) = false) :
    ∃ next, (answerInputs error tag response).foldlM WorkerProcess.step process = some next ∧
      next.broker.failure = some (.raised error) ∧
      next.loop = some (.finished (.error (.raised error))) ∧
      next.log = process.log ++ [.returned tag (.error (some error))] := by
  obtain ⟨handling, healthy, sleeping, running⟩ := working
  simp [answerInputs, executeAnswer, refused, WorkerProcess.step, BrokerState.handlerReturns,
    handling, WorkerProcess.update, BrokerState.setTask, BrokerState.handle, BrokerState.settleTask,
    sleeping, running, LoopPhase.step, LoopPhase.head, BrokerState.taskFailure]

/-! ### Content that persists -/

structure Persists (document : Document) (content : JsString) : Prop where
  data : jsonbAccepts (Json.print document.value) = true
  response : jsonbAccepts (stringifyResponse ⟨content⟩) = true
  enqueues : ∀ (Result Digest : Type) [DecidableEq Digest] (hashing : Hashing Document Digest)
    (options : JobStoreOptions) (now : Timestamp) (uuid : Uuid)
    (submission : JobSubmission Document) (table : JobTable Document Result Digest),
    submission.data = document →
      enqueueStatement hashing options now uuid submission table =
        enqueueInsert hashing options now uuid submission table
  completes : ∀ (Data Digest : Type) (options : JobStoreOptions) (now : Timestamp)
    (message : JobEnvelope) (table : JobTable Data ChatResponse Digest),
    completeStatement options now message ⟨content⟩ table =
      some (complete options now message ⟨content⟩ table)
  survives : ∀ (Error : Type) (error : Error) (process : WorkerProcess Error) (tag : ℕ),
    Working process tag →
      ∃ next, (answerInputs error tag ⟨content⟩).foldlM WorkerProcess.step process = some next ∧
        next.broker.failure = none ∧ next.loop = some .maintaining ∧ .acked tag ∈ next.log

theorem jsonbAccepts_request {document : Document} {request : ChatRequest}
    (accepted : chatRequestSchema document.value = some request) :
    jsonbAccepts (Json.print document.value) = isStorableRequest request := by
  rw [Json.jsonbAccepts_print, storable_request accepted]

theorem jsonbAccepts_response (content : JsString) :
    jsonbAccepts (stringifyResponse ⟨content⟩) = isStorable content := by
  rw [stringifyResponse, Json.jsonbAccepts_print, storable_response]

theorem persists_of_accepted {document : Document} {content : JsString}
    (data : jsonbAccepts (Json.print document.value) = true)
    (response : jsonbAccepts (stringifyResponse ⟨content⟩) = true) :
    Persists document content where
  data := data
  response := response
  enqueues := by
    rintro Result Digest _ hashing options now uuid submission table rfl
    rw [enqueueStatement, if_pos data]
  completes := by
    intro Data Digest options now message table
    rw [completeStatement, if_pos response]
  survives := fun _ error _ _ working => answered_survives working error response

/-- For every request that the schema accepts and every answer of an adapter. -/
theorem job_content_persists_iff {document : Document} {request : ChatRequest}
    {content : JsString} (accepted : chatRequestSchema document.value = some request)
    (_answered : IsAnswer content) :
    Persists document content ↔ isStorableRequest request = true ∧ isStorable content = true := by
  rw [← jsonbAccepts_request accepted, ← jsonbAccepts_response content]
  constructor
  · intro persists
    exact ⟨persists.data, persists.response⟩
  · rintro ⟨data, response⟩
    exact persists_of_accepted data response

def promptDocument (content : JsString) : Document where
  value := Cache.requestJson
    { model := JsString.ofString "llama3"
      messages := [{ role := .user, content := content }] }
  distinctKeys := Cache.distinctKeys_requestJson _

theorem chatRequestSchema_prompt {content : JsString} (nonempty : content ≠ []) :
    chatRequestSchema (promptDocument content).value =
      some
        { model := JsString.ofString "llama3"
          messages := [{ role := .user, content := content }] } := by
  have message : messageSchema (Cache.messageJson { role := .user, content := content }) =
      some { role := .user, content := content } := by
    have keys : JsString.ofString "role" ≠ JsString.ofString "content" := by decide
    have role : readRole (roleText .user) = some .user := by decide
    simp [Cache.messageJson, messageSchema, Json.get, keys, nonempty, role]
  have keys : JsString.ofString "model" ≠ JsString.ofString "messages" := by decide
  have model : JsString.ofString "llama3" ≠ [] := by decide
  simp [promptDocument, Cache.requestJson, chatRequestSchema, Json.get, keys, model, message]

theorem job_content_persists_hello :
    Persists (promptDocument (JsString.ofString "hello")) (JsString.ofString "hi") :=
  (job_content_persists_iff (chatRequestSchema_prompt (by decide)) (Providers.isAnswer _)).mpr
    (by decide)

def sampleDelivered : JobEnvelope := { id := JsString.ofString "job_1", attempt := 1 }

def sleepingInputs : List (WorkerInput Unit) :=
  ([.run] : List (WorkerInput Unit)) ++ List.replicate 7 (WorkerInput.loopAnswered .resolved) ++
    ([.loopAnswered (.registered ⟨"amq.ctag-1", sampleTag_ne⟩), .loopAnswered .resolved,
      .loopAnswered .resolved, .loopAnswered (.dispatched false)] : List (WorkerInput Unit))

def workingInputs : List (WorkerInput Unit) :=
  sleepingInputs ++ ([.delivered (stringifyEnvelope sampleDelivered) none] : List (WorkerInput Unit))

theorem workingInputs_working :
    ∃ process, workingInputs.foldlM WorkerProcess.step (.initial Unit) = some process ∧
      Working process 0 ∧ process.log.countP (BrokerEntry.answers 0) = 0 := by
  have read : readEnvelope (stringifyEnvelope sampleDelivered) = some sampleDelivered :=
    readEnvelope_stringify (by decide) (by decide) (by decide)
  obtain ⟨sleeping, slept, subscribed, listening, first, healthy, delaying, running, silent⟩ :
      ∃ sleeping : WorkerProcess Unit,
        sleepingInputs.foldlM WorkerProcess.step (.initial Unit) = some sleeping ∧
          sleeping.broker.subscribed = true ∧ sleeping.broker.draining = false ∧
          sleeping.broker.arrived = 0 ∧ sleeping.broker.failure = none ∧
          sleeping.loop = some .delaying ∧ sleeping.drain = none ∧
          sleeping.log.countP (BrokerEntry.answers 0) = 0 :=
    ⟨_, rfl, rfl, rfl, rfl, rfl, rfl, rfl, rfl⟩
  have delivered : sleeping.step (.delivered (stringifyEnvelope sampleDelivered) none) =
      some (sleeping.update (sleeping.broker.addTask .handling,
        [.arrived 0 (stringifyEnvelope sampleDelivered), .started 0])) := by
    simp [WorkerProcess.step, BrokerState.deliver, subscribed, listening, read, first]
  have folded : workingInputs.foldlM WorkerProcess.step (.initial Unit) =
      some (sleeping.update (sleeping.broker.addTask .handling,
        [.arrived 0 (stringifyEnvelope sampleDelivered), .started 0])) := by
    rw [workingInputs, List.foldlM_append, slept]
    exact (bind_pure (sleeping.step _)).trans delivered
  refine ⟨_, folded, ⟨?_, healthy, delaying, running⟩, ?_⟩
  · simp [WorkerProcess.update, BrokerState.addTask, BrokerState.setTask, first]
  · simp [WorkerProcess.update, silent, BrokerEntry.answers]

def nulAnswerInputs : List (WorkerInput Unit) := workingInputs ++ answerInputs () 0 ⟨[0]⟩

/-- U+0000 in a request is refused by the database, and in an answer it also stops the
worker. -/
theorem nul_content_refused :
    (chatRequestSchema (promptDocument [0]).value).isSome = true ∧
      ¬Persists (promptDocument [0]) (JsString.ofString "hi") ∧
      Providers.OllamaProvider.chat (Providers.OllamaProvider.answerBody [0]) = some [0] ∧
      ¬Persists (promptDocument (JsString.ofString "hello")) [0] ∧
      ∃ process : WorkerProcess Unit,
        Run (fun process input next => process.step input = some next) (.initial Unit)
          nulAnswerInputs process ∧
        process.broker.failure.isSome = true ∧ process.loop.any LoopPhase.isFinished = true ∧
        process.log.countP (BrokerEntry.answers 0) = 0 := by
  have request : jsonbAccepts (Json.print (promptDocument [0]).value) = false := by
    rw [jsonbAccepts_request (chatRequestSchema_prompt (by decide))]
    decide
  have answer : jsonbAccepts (stringifyResponse ⟨[0]⟩) = false := by
    rw [jsonbAccepts_response]
    decide
  obtain ⟨before, folded, working, unanswered⟩ := workingInputs_working
  obtain ⟨process, ended, failure, loop, log⟩ := refused_stops working () answer
  have run : nulAnswerInputs.foldlM WorkerProcess.step (.initial Unit) = some process := by
    rw [nulAnswerInputs, List.foldlM_append, folded]
    exact ended
  refine ⟨?_, ?_, Providers.OllamaProvider.chat_answerBody [0], ?_, process, .of_foldlM run, ?_, ?_,
    ?_⟩
  · rw [chatRequestSchema_prompt (by decide)]
    rfl
  · intro persists
    simp [persists.data] at request
  · intro persists
    simp [persists.response] at answer
  · rw [failure]
    rfl
  · rw [loop]
    rfl
  · rw [log, List.countP_append, unanswered]
    rfl

end ModelMux.Queue
