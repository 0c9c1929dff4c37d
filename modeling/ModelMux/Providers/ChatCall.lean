/-
A call that is not streamed and what may interrupt it.

The operation sends the request and reads the whole body; the deadline and an
abort of the parent signal race with it.  The call settles with the cause of the
first interrupt that comes before the result of the operation, and otherwise with
what the network has answered; it never waits for the network once it has been
interrupted.
-/

import ModelMux.Providers.ChatAdapter
import ModelMux.Providers.StreamCall

namespace ModelMux.Providers

/-! ### The operation -/

structure ChatAdapter where
  provider : String
  timeoutMs : ℕ
  readsErrorDetail : Bool
  read : JsString → Option JsString

def OllamaProvider.chatAdapter (timeoutMs : ℕ) : ChatAdapter where
  provider := "Ollama"
  timeoutMs := timeoutMs
  readsErrorDetail := true
  read := OllamaProvider.chat

def OpenAIProvider.chatAdapter (timeoutMs : ℕ) : ChatAdapter where
  provider := "OpenAI"
  timeoutMs := timeoutMs
  readsErrorDetail := false
  read := OpenAIProvider.chat

/-- No consumer takes part, so no error comes from one. -/
abbrev ChatAnswer := Except (StreamError Empty) JsString

/-- The operation leaves `send` through its promise. -/
inductive ChatPhase where
  | fetching
  | readingErrorDetail (status : JsNumber)
  | opened
  | readingBody
  | leaving (outcome : ChatAnswer)
  | finished (outcome : ChatAnswer)

/-- A body that cannot be read is `none`. -/
inductive ChatArrival where
  | fetched (response : Option Response)
  | errorBodyRead (body : Option Json)
  | bodyRead (body : Option JsString)
  | resumed

def ChatPhase.settled? : ChatPhase → Option ChatAnswer
  | .finished outcome => some outcome
  | _ => none

namespace ChatAdapter

variable (adapter : ChatAdapter)

def responseError : StreamError Empty := .adapterError (.providerResponseError adapter.provider)

def answer (body : JsString) : ChatAnswer :=
  match adapter.read body with
  | some content => .ok content
  | none => .error adapter.responseError

def thrown (signal : Option (StreamError Empty)) (error : StreamError Empty) : ChatAnswer :=
  .error (signal.getD error)

def operate (signal : Option (StreamError Empty)) : ChatPhase → ChatArrival → Option ChatPhase
  | .fetching, .fetched none =>
      some (.leaving (thrown signal (.providerConnectionError adapter.provider)))
  | .fetching, .fetched (some response) =>
      if response.ok then some .opened
      else if adapter.readsErrorDetail then some (.readingErrorDetail response.status)
      else some (.leaving (.error (.providerHttpError adapter.provider response.status none)))
  | .readingErrorDetail status, .errorBodyRead body =>
      some (.leaving (thrown signal
        (.providerHttpError adapter.provider status (readErrorDetail body))))
  | .opened, .resumed => some .readingBody
  | .readingBody, .bodyRead none => some (.finished (thrown signal adapter.responseError))
  | .readingBody, .bodyRead (some body) =>
      match Json.parse body with
      | none => some (.finished (thrown signal adapter.responseError))
      | some _ => some (.finished (adapter.answer body))
  | .leaving outcome, .resumed => some (.finished outcome)
  | _, _ => none

theorem operate_silent {reason : StreamError Empty} {phase next : ChatPhase} {input : ChatArrival}
    {emission : Option Empty}
    (went : (adapter.operate (some reason) phase input).map (fun next => (next, none)) =
      some (next, emission)) : emission = none := by
  obtain ⟨_, _, same⟩ := Option.map_eq_some_iff.mp went
  cases same
  rfl

theorem operate_rests {signal : Option (StreamError Empty)} {phase : ChatPhase}
    {input : ChatArrival} {outcome : ChatAnswer} (settled : phase.settled? = some outcome) :
    (adapter.operate signal phase input).map (fun next => (next, (none : Option Empty))) = none := by
  cases phase with
  | finished own => rfl
  | fetching | readingErrorDetail | opened | readingBody | leaving => cases settled

/-- The operation that `chat` gives to `withProviderDeadline`; it emits nothing. -/
def operation : DeadlineOperation ChatPhase ChatArrival Empty JsString (StreamError Empty) where
  timeoutError := .providerTimeoutError adapter.provider adapter.timeoutMs
  requestAbortedError := .requestAbortedError
  abortError := .abortError
  start := .fetching
  operate := fun signal phase input =>
    (adapter.operate signal phase input).map (fun next => (next, none))
  settled? := ChatPhase.settled?
  silent := adapter.operate_silent
  rests := adapter.operate_rests

end ChatAdapter

/-! ### Causes -/

inductive Network (adapter : ChatAdapter) (inputs : List ChatArrival) : ChatAnswer → Prop
  | answered {response : Response} {body content : JsString} (ok : response.ok = true)
      (fetched : .fetched (some response) ∈ inputs) (received : .bodyRead (some body) ∈ inputs)
      (read : adapter.read body = some content) : Network adapter inputs (.ok content)
  | malformed {response : Response} {body : Option JsString} (ok : response.ok = true)
      (fetched : .fetched (some response) ∈ inputs) (received : .bodyRead body ∈ inputs)
      (unread : ∀ text, body = some text → Json.parse text = none ∨ adapter.read text = none) :
      Network adapter inputs (.error adapter.responseError)
  | refused {response : Response} (failed : response.ok = false)
      (fetched : .fetched (some response) ∈ inputs) (plain : adapter.readsErrorDetail = false) :
      Network adapter inputs (.error (.providerHttpError adapter.provider response.status none))
  | explained {response : Response} {body : Option Json} (failed : response.ok = false)
      (fetched : .fetched (some response) ∈ inputs) (received : .errorBodyRead body ∈ inputs)
      (detailed : adapter.readsErrorDetail = true) :
      Network adapter inputs
        (.error (.providerHttpError adapter.provider response.status (readErrorDetail body)))
  | unreachable (fetched : .fetched none ∈ inputs) :
      Network adapter inputs (.error (.providerConnectionError adapter.provider))

/-- The outcome is the network's, or the operation has found the signal aborted. -/
def Justified (adapter : ChatAdapter) (signal : Option (StreamError Empty))
    (inputs : List ChatArrival) (outcome : ChatAnswer) : Prop :=
  Network adapter inputs outcome ∨ ∃ reason, signal = some reason ∧ outcome = .error reason

def ChatPhase.Backed (adapter : ChatAdapter) (signal : Option (StreamError Empty))
    (inputs : List ChatArrival) : ChatPhase → Prop
  | .fetching => True
  | .readingErrorDetail status =>
      adapter.readsErrorDetail = true ∧
        ∃ response : Response, response.ok = false ∧ response.status = status ∧
          .fetched (some response) ∈ inputs
  | .opened => ∃ response : Response, response.ok = true ∧ .fetched (some response) ∈ inputs
  | .readingBody => ∃ response : Response, response.ok = true ∧ .fetched (some response) ∈ inputs
  | .leaving outcome => Justified adapter signal inputs outcome
  | .finished outcome => Justified adapter signal inputs outcome

variable {adapter : ChatAdapter} {inputs : List ChatArrival} {input : ChatArrival}
  {signal : Option (StreamError Empty)}

theorem Network.mono {later : List ChatArrival} {outcome : ChatAnswer}
    (caused : Network adapter inputs outcome) (more : inputs ⊆ later) :
    Network adapter later outcome := by
  cases caused with
  | answered ok fetched received read => exact .answered ok (more fetched) (more received) read
  | malformed ok fetched received unread => exact .malformed ok (more fetched) (more received) unread
  | refused failed fetched plain => exact .refused failed (more fetched) plain
  | explained failed fetched received detailed =>
      exact .explained failed (more fetched) (more received) detailed
  | unreachable fetched => exact .unreachable (more fetched)

theorem Justified.mono {later : List ChatArrival} {outcome : ChatAnswer}
    (justified : Justified adapter signal inputs outcome) (more : inputs ⊆ later) :
    Justified adapter signal later outcome := by
  rcases justified with caused | aborted
  · exact Or.inl (caused.mono more)
  · exact Or.inr aborted

theorem Justified.thrown {error : StreamError Empty}
    (caused : Network adapter inputs (.error error)) :
    Justified adapter signal inputs (ChatAdapter.thrown signal error) := by
  cases signal with
  | none => exact Or.inl caused
  | some reason => exact Or.inr ⟨reason, rfl, rfl⟩

theorem ChatPhase.Backed.mono {later : List ChatArrival} {phase : ChatPhase}
    (backed : phase.Backed adapter signal inputs) (more : inputs ⊆ later) :
    phase.Backed adapter signal later := by
  cases phase with
  | fetching => trivial
  | readingErrorDetail status =>
      obtain ⟨detailed, response, failed, same, fetched⟩ := backed
      exact ⟨detailed, response, failed, same, more fetched⟩
  | opened =>
      obtain ⟨response, ok, fetched⟩ := backed
      exact ⟨response, ok, more fetched⟩
  | readingBody =>
      obtain ⟨response, ok, fetched⟩ := backed
      exact ⟨response, ok, more fetched⟩
  | leaving outcome => exact Justified.mono backed more
  | finished outcome => exact Justified.mono backed more

theorem operate_backed {phase next : ChatPhase} (backed : phase.Backed adapter signal inputs)
    (operated : adapter.operate signal phase input = some next) :
    next.Backed adapter signal (inputs ++ [input]) := by
  have more : inputs ⊆ inputs ++ [input] := List.subset_append_left _ _
  have here : input ∈ inputs ++ [input] := by simp
  unfold ChatAdapter.operate at operated
  split at operated
  · cases operated
    exact .thrown (.unreachable here)
  · rename_i response
    split_ifs at operated with ok detailed
    · cases operated
      exact ⟨response, ok, here⟩
    · cases operated
      exact ⟨detailed, response, by simpa using ok, rfl, here⟩
    · cases operated
      exact Or.inl (.refused (by simpa using ok) here (by simpa using detailed))
  · cases operated
    obtain ⟨detailed, response, failed, rfl, fetched⟩ := backed
    exact .thrown (.explained failed (more fetched) here detailed)
  · cases operated
    obtain ⟨response, ok, fetched⟩ := backed
    exact ⟨response, ok, more fetched⟩
  · cases operated
    obtain ⟨response, ok, fetched⟩ := backed
    exact .thrown (.malformed ok (more fetched) here (by simp))
  · rename_i body
    obtain ⟨response, ok, fetched⟩ := backed
    split at operated
    · rename_i unparsed
      cases operated
      refine .thrown (.malformed ok (more fetched) here ?_)
      rintro text ⟨⟩
      exact Or.inl unparsed
    · cases operated
      unfold ChatAdapter.answer
      split
      · rename_i content read
        exact Or.inl (.answered ok (more fetched) here read)
      · rename_i unread
        refine Or.inl (.malformed ok (more fetched) here ?_)
        rintro text ⟨⟩
        exact Or.inr unread
  · cases operated
    exact Justified.mono backed more
  · cases operated

theorem ChatPhase.Backed.unaborted {phase : ChatPhase} {later : Option (StreamError Empty)}
    (backed : phase.Backed adapter none inputs) : phase.Backed adapter later inputs := by
  have justified {outcome : ChatAnswer} (justified : Justified adapter none inputs outcome) :
      Justified adapter later inputs outcome := by
    rcases justified with caused | ⟨reason, impossible, _⟩
    · exact Or.inl caused
    · cases impossible
  cases phase with
  | leaving outcome => exact justified backed
  | finished outcome => exact justified backed
  | fetching | readingErrorDetail | opened | readingBody => exact backed

/-! ### Every run of a call -/

abbrev ChatLabel := DeadlineInput ChatArrival × Option Empty

abbrev ChatDeadlineCall := DeadlineCall ChatPhase JsString (StreamError Empty)

def ChatPhase.awaitsNetwork : ChatPhase → Bool
  | .fetching => true
  | .readingErrorDetail _ => true
  | .readingBody => true
  | _ => false

section Runs

variable {trace : List ChatLabel} {call : ChatDeadlineCall} {parentAborted : Bool}

theorem run_backed
    (run : Run (DeadlineStep adapter.operation) (.start adapter.operation parentAborted) trace call) :
    ∀ phase, call.phase = some phase → phase.Backed adapter call.signal (arrivals trace) := by
  apply run_phase run (fun signal trace phase => phase.Backed adapter signal (arrivals trace))
  · trivial
  · intro signal trace phase input next emission backed went
    obtain ⟨stepped, operated, same⟩ := Option.map_eq_some_iff.mp went
    cases same
    rw [arrivals_operated]
    exact operate_backed backed operated
  · intro signal later trace phase input backed same foreign
    rw [arrivals_foreign foreign]
    cases aborted : signal with
    | none =>
        rw [aborted] at backed
        exact backed.unaborted
    | some reason =>
        rw [same (by simp [aborted])]
        exact backed

/-- Only the network can keep the call waiting. -/
theorem chat_goes_on {phase : ChatPhase} {raced : Option ChatAnswer}
    (started : call.phase = some phase) (pending : call.outer = .awaiting raced) :
    phase.awaitsNetwork = true ∨
      ∃ input ∈ [.operated .resumed, .relayed, .continued],
        ∃ next, DeadlineStep adapter.operation call (input, none) next := by
  cases raced with
  | some result => exact Or.inr ⟨.continued, by simp, _, DeadlineCall.step_continued pending⟩
  | none =>
      cases phase with
      | fetching => exact Or.inl rfl
      | readingErrorDetail status => exact Or.inl rfl
      | readingBody => exact Or.inl rfl
      | opened =>
          exact Or.inr ⟨.operated .resumed, by simp, { call with phase := some .readingBody }, by
            simp [DeadlineStep, DeadlineCall.step, started, ChatAdapter.operation,
              ChatAdapter.operate]⟩
      | leaving outcome =>
          exact Or.inr ⟨.operated .resumed, by simp, { call with phase := some (.finished outcome) },
            by simp [DeadlineStep, DeadlineCall.step, started, ChatAdapter.operation,
              ChatAdapter.operate]⟩
      | finished outcome =>
          exact Or.inr ⟨.relayed, by simp, { call with outer := .awaiting (some outcome) }, by
            simp [DeadlineStep, DeadlineCall.step, started, pending, ChatAdapter.operation,
              ChatPhase.settled?]⟩

theorem chat_explained
    (run : Run (DeadlineStep adapter.operation) (.start adapter.operation parentAborted) trace call)
    {raced : ChatAnswer} (pending : call.outer = .awaiting (some raced)) :
    (∀ interrupt, ComesFirst interrupt trace →
        DeadlineCall.outcome call.signal raced = .error (adapter.operation.reason interrupt)) ∧
      (∀ content, DeadlineCall.outcome call.signal raced = .ok content → Uninterrupted trace) ∧
      (Network adapter (arrivals trace) (DeadlineCall.outcome call.signal raced) ∨
        ∃ interrupt, FirstOf interrupt trace ∧
          DeadlineCall.outcome call.signal raced =
            .error (adapter.operation.reason interrupt)) := by
  have sound := run_deadlineInvariant run
  obtain ⟨won, first⟩ := sound.decided raced pending
  refine ⟨?_, ?_, ?_⟩
  · intro interrupt comes
    rw [first interrupt comes]
    rfl
  · intro content resolved
    exact .of_unstopped (sound.calm (DeadlineInvariant.outcome_ok resolved).1).2
  · have aborts {reason : StreamError Empty} (aborted : call.signal = some reason) :
        ∃ interrupt, FirstOf interrupt trace ∧
          (.error reason : ChatAnswer) = .error (adapter.operation.reason interrupt) := by
      obtain ⟨interrupt, firstOf, rfl⟩ := sound.cause _ reason pending aborted
      exact ⟨interrupt, firstOf, rfl⟩
    have justified : Justified adapter call.signal (arrivals trace) raced := by
      rcases won with finished | aborted
      · obtain ⟨phase, started, settled⟩ := Option.bind_eq_some_iff.mp finished
        have backed := run_backed run phase started
        cases phase with
        | finished outcome =>
            cases settled
            exact backed
        | fetching | readingErrorDetail | opened | readingBody | leaving => cases settled
      · exact Or.inr aborted
    cases raced with
    | error error =>
        rcases justified with caused | ⟨reason, aborted, same⟩
        · exact Or.inl caused
        · rw [same]
          exact Or.inr (aborts aborted)
    | ok content =>
        cases aborted : call.signal with
        | some reason => exact Or.inr (aborts aborted)
        | none =>
            rcases justified with caused | ⟨_, _, impossible⟩
            · exact Or.inl caused
            · cases impossible

/-- A call whose parent signal was aborted already is refused.  Any other settles once,
with the cause of the first interrupt if that comes before the result of the operation,
with a value only if nothing has interrupted it, and otherwise with what the network has
answered.  It goes on by itself unless it waits for the network, and an interrupt ends
that wait. -/
theorem chat_settles
    (run : Run (DeadlineStep adapter.operation) (.start adapter.operation parentAborted) trace call) :
    (parentAborted = true → call.outer = .settled (.error .requestAbortedError)) ∧
      (∀ outcome, call.outer = .settled outcome → ∀ later last,
        Run (DeadlineStep adapter.operation) call later last → last.outer = .settled outcome) ∧
      (∀ raced, call.outer = .awaiting raced →
        (¬ Uninterrupted trace → ∃ next outcome,
          DeadlineStep adapter.operation call (.continued, none) next ∧
            next.outer = .settled outcome) ∧
        ((∃ phase, call.phase = some phase ∧ phase.awaitsNetwork = true) ∨
          ∃ input ∈ [.operated .resumed, .relayed, .continued],
            ∃ next, DeadlineStep adapter.operation call (input, none) next)) ∧
      ∀ next outcome, DeadlineStep adapter.operation call (.continued, none) next →
        next.outer = .settled outcome →
        (∀ interrupt, ComesFirst interrupt trace →
          outcome = .error (adapter.operation.reason interrupt)) ∧
        (∀ content, outcome = .ok content → Uninterrupted trace) ∧
        (Network adapter (arrivals trace) outcome ∨
          ∃ interrupt, FirstOf interrupt trace ∧
            outcome = .error (adapter.operation.reason interrupt)) := by
  have sound := run_deadlineInvariant run
  refine ⟨?_, fun outcome settled later last continued => run_settled continued settled, ?_, ?_⟩
  · rintro rfl
    exact run_refused run
  · intro raced pending
    have made := sound.unrefused raced pending
    subst made
    obtain ⟨phase, started⟩ := run_running run
    refine ⟨?_, ?_⟩
    · intro interrupted
      cases raced with
      | none =>
          have calm := (sound.unraced pending).1
          exact absurd (.of_unstopped (sound.calm calm).2) interrupted
      | some result => exact ⟨_, _, DeadlineCall.step_continued pending, rfl⟩
    · rcases chat_goes_on started pending with waits | goes
      · exact Or.inl ⟨phase, started, waits⟩
      · exact Or.inr goes
  · intro next outcome taken settled
    cases taken.change with
    | continued pending =>
        cases settled
        exact chat_explained run pending
    | aborted impossible => cases impossible
    | ignored impossible => cases impossible

/-- A call whose deadline passes before the provider answers times out. -/
theorem chat_settles_timeout :
    ∃ call next : ChatDeadlineCall,
      Run (DeadlineStep (OllamaProvider.chatAdapter 1000).operation)
        (.start (OllamaProvider.chatAdapter 1000).operation false) [(.deadline, none)] call ∧
      DeadlineStep (OllamaProvider.chatAdapter 1000).operation call (.continued, none) next ∧
      next.outer = .settled (.error (.providerTimeoutError "Ollama" 1000)) := by
  obtain ⟨call, fired⟩ := (DeadlineCall.start (OllamaProvider.chatAdapter 1000).operation
    false).interruptible.2 none rfl
  have run := Run.single fired
  have interrupted : ComesFirst .deadline [((.deadline, none) : ChatLabel)] :=
    ⟨[], _, [], rfl, rfl, by simp [Uninterrupted], by simp⟩
  obtain ⟨_, _, waits, explained⟩ := chat_settles run
  have pending : call.outer = .awaiting (some (.error (.providerTimeoutError "Ollama" 1000))) := by
    cases fired
    rfl
  obtain ⟨next, outcome, taken, settled⟩ := (waits _ pending).1 interrupted.firstOf.interrupted
  have cause := (explained next outcome taken settled).1 .deadline interrupted
  rw [cause] at settled
  exact ⟨call, next, run, taken, settled⟩

end Runs

end ModelMux.Providers
