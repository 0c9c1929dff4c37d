/-
A streaming call of an adapter and what may interrupt it.

The operation of the adapter stops at each of its awaits: the fetch, the detail of an
error response, a read of the body, the consumer, and the promises of the generators
in between.  What it awaits may come at any time, also after `withProviderDeadline` has
aborted its signal and settled the call.
-/

import ModelMux.Providers.ProviderDeadline
import ModelMux.Providers.StreamAdapter

namespace ModelMux.Providers

/-! ### Adapters -/

/-- `take` is the generator between the lines of the body and the items of the loop,
`react` the body of the loop. -/
structure StreamAdapter (Parser Memory : Type) where
  provider : String
  timeoutMs : ℕ
  readsErrorDetail : Bool
  parser : Parser
  take : Parser → JsString → Option (Option JsString × Parser)
  memory : Memory
  react : Memory → JsString → Reaction Memory

def OllamaProvider.adapter (timeoutMs : ℕ) : StreamAdapter Unit Unit where
  provider := "Ollama"
  timeoutMs := timeoutMs
  readsErrorDetail := true
  parser := ()
  take := fun _ line => some (some line, ())
  memory := ()
  react := OllamaProvider.react

def OpenAIProvider.adapter (runtime : StringRuntime) (timeoutMs : ℕ) :
    StreamAdapter SseReader Bool where
  provider := "OpenAI"
  timeoutMs := timeoutMs
  readsErrorDetail := false
  parser := ⟨[], 0⟩
  take := SseReader.take
  memory := false
  react := OpenAIProvider.react runtime

/-- `abortError` is the reason of `controller.abort()`. -/
inductive StreamError (Failure : Type) where
  | adapterError (error : AdapterError)
  | providerConnectionError (provider : String)
  | providerHttpError (provider : String) (status : JsNumber) (detail : Option JsString)
  | providerTimeoutError (provider : String) (timeoutMs : ℕ)
  | requestAbortedError
  | consumerError (failure : Failure)
  | abortError

/-! ### The operation -/

structure Response where
  ok : Bool
  status : JsNumber
  hasBody : Bool

inductive Ahead where
  | read (reader : LineReader)
  | fail
  | finish

structure StreamLoop (Parser Memory : Type) where
  memory : Memory
  parser : Parser
  lines : List JsString
  ahead : Ahead

/-- The operation leaves through the promises of `send` or of the generators, and has
finished when its own promise settles. -/
inductive StreamPhase (Parser Memory Failure : Type) where
  | fetching
  | readingErrorDetail (status : JsNumber)
  | reading (memory : Memory) (parser : Parser) (reader : LineReader)
  | running (loop : StreamLoop Parser Memory)
  | delivering (loop : StreamLoop Parser Memory) (after : Continuation Memory)
  | leaving (outcome : Except (StreamError Failure) Unit)
  | finished (outcome : Except (StreamError Failure) Unit)

inductive StreamArrival (Failure : Type) where
  | fetched (response : Option Response)
  | errorBodyRead (body : Option Json)
  | received (part : Option (List UInt8))
  | readFailed
  | resumed
  | answered (result : Except Failure Unit)

variable {Parser Memory Failure : Type}

/-- The detail in the body of an error response; `none` is a body that is not JSON. -/
def readErrorDetail (body : Option Json) : Option JsString :=
  match (body.bind isRecord).bind (fun data => Json.get data (JsString.ofString "error")) with
  | some (.string detail) => some (detail.take 300)
  | _ => none

def throwIfAborted (signal : Option (StreamError Failure))
    (otherwise : StreamPhase Parser Memory Failure) : StreamPhase Parser Memory Failure :=
  match signal with
  | some reason => .leaving (.error reason)
  | none => otherwise

def StreamLoop.proceed (loop : StreamLoop Parser Memory) :
    Continuation Memory → StreamPhase Parser Memory Failure
  | .next memory => .running { loop with memory := memory }
  | .resolve => .leaving (.ok ())
  | .reject error => .leaving (.error (.adapterError error))

namespace StreamAdapter

variable (adapter : StreamAdapter Parser Memory)

def responseError : StreamError Failure :=
  .adapterError (.providerResponseError adapter.provider)

/-- The loop takes its next line; the text that it hands to `onDelta`, if any. -/
def resume (signal : Option (StreamError Failure)) (loop : StreamLoop Parser Memory) :
    StreamPhase Parser Memory Failure × Option JsString :=
  match loop.lines with
  | [] =>
      match loop.ahead with
      | .read reader => (throwIfAborted signal (.reading loop.memory loop.parser reader), none)
      | .fail => (.leaving (.error adapter.responseError), none)
      | .finish => (.leaving (.error adapter.responseError), none)
  | line :: rest =>
      match adapter.take loop.parser line with
      | none => (.leaving (.error adapter.responseError), none)
      | some (none, parser) => (.running { loop with parser := parser, lines := rest }, none)
      | some (some item, parser) =>
          match adapter.react loop.memory item with
          | .ignore => (.running { loop with parser := parser, lines := rest }, none)
          | .act content after =>
              match signal with
              | some reason => (.leaving (.error reason), none)
              | none =>
                  if content = [] then
                    (StreamLoop.proceed { loop with parser := parser, lines := rest } after, none)
                  else (.delivering { loop with parser := parser, lines := rest } after, some content)

def operate (signal : Option (StreamError Failure)) :
    StreamPhase Parser Memory Failure → StreamArrival Failure →
      Option (StreamPhase Parser Memory Failure × Option JsString)
  | .fetching, .fetched none =>
      some (throwIfAborted signal
        (.leaving (.error (.providerConnectionError adapter.provider))), none)
  | .fetching, .fetched (some response) =>
      if response.ok then
        some (.running ⟨adapter.memory, adapter.parser, [],
          if response.hasBody then .read .start else .fail⟩, none)
      else if adapter.readsErrorDetail then some (.readingErrorDetail response.status, none)
      else
        some (.leaving (.error (.providerHttpError adapter.provider response.status none)), none)
  | .readingErrorDetail status, .errorBodyRead body =>
      some (throwIfAborted signal
        (.leaving (.error (.providerHttpError adapter.provider status (readErrorDetail body)))),
        none)
  | .reading memory parser reader, .received (some chunk) =>
      some (.running ⟨memory, parser, (reader.receive chunk).1,
        match (reader.receive chunk).2 with
        | some next => .read next
        | none => .fail⟩, none)
  | .reading memory parser reader, .received none =>
      some (.running ⟨memory, parser, (reader.close adapter.provider).yielded,
        match (reader.close adapter.provider).outcome with
        | .ok () => .finish
        | .error _ => .fail⟩, none)
  | .reading _ _ _, .readFailed =>
      some (throwIfAborted signal
        (.leaving (.error (.providerConnectionError adapter.provider))), none)
  | .running loop, .resumed => some (adapter.resume signal loop)
  | .delivering loop after, .answered (.ok ()) => some (loop.proceed after, none)
  | .delivering _ _, .answered (.error failure) =>
      some (.leaving (.error (.consumerError failure)), none)
  | .leaving outcome, .resumed => some (.finished outcome, none)
  | _, _ => none

end StreamAdapter

/-! ### Steps of the operation -/

namespace StreamPhase

def isDelivering : StreamPhase Parser Memory Failure → Bool
  | .delivering _ _ => true
  | _ => false

def settled? : StreamPhase Parser Memory Failure → Option (Except (StreamError Failure) Unit)
  | .finished outcome => some outcome
  | _ => none

end StreamPhase

def StreamArrival.isAnswer : StreamArrival Failure → Bool
  | .answered _ => true
  | _ => false

theorem proceed_idle (loop : StreamLoop Parser Memory) (after : Continuation Memory) :
    (loop.proceed after : StreamPhase Parser Memory Failure).isDelivering = false := by
  cases after <;> rfl

theorem throwIfAborted_idle {signal : Option (StreamError Failure)}
    {otherwise : StreamPhase Parser Memory Failure} (idle : otherwise.isDelivering = false) :
    (throwIfAborted signal otherwise).isDelivering = false := by
  cases signal with
  | none => exact idle
  | some reason => rfl

inductive Operated (signal : Option (StreamError Failure)) :
    StreamPhase Parser Memory Failure → StreamArrival Failure →
      StreamPhase Parser Memory Failure × Option JsString → Prop
  | silent {phase next : StreamPhase Parser Memory Failure} {input : StreamArrival Failure}
      (idle : phase.isDelivering = false) (other : input.isAnswer = false)
      (rests : next.isDelivering = false) : Operated signal phase input (next, none)
  | called {phase next : StreamPhase Parser Memory Failure} {input : StreamArrival Failure}
      {content : JsString} (idle : phase.isDelivering = false) (other : input.isAnswer = false)
      (awaits : next.isDelivering = true) (allowed : signal = none) :
      Operated signal phase input (next, some content)
  | answered {phase next : StreamPhase Parser Memory Failure} {input : StreamArrival Failure}
      (awaited : phase.isDelivering = true) (answer : input.isAnswer = true)
      (rests : next.isDelivering = false) : Operated signal phase input (next, none)

/-- The loop calls the consumer only past the check of the signal. -/
theorem resume_operated (adapter : StreamAdapter Parser Memory)
    (signal : Option (StreamError Failure)) (loop : StreamLoop Parser Memory) :
    Operated signal (.running loop) .resumed (adapter.resume signal loop) := by
  unfold StreamAdapter.resume
  split
  · split
    · exact .silent rfl rfl (throwIfAborted_idle rfl)
    · exact .silent rfl rfl rfl
    · exact .silent rfl rfl rfl
  · split
    · exact .silent rfl rfl rfl
    · exact .silent rfl rfl rfl
    · split
      · exact .silent rfl rfl rfl
      · split
        · exact .silent rfl rfl rfl
        · split_ifs
          · exact .silent rfl rfl (proceed_idle _ _)
          · exact .called rfl rfl rfl rfl

theorem operate_operated {adapter : StreamAdapter Parser Memory}
    {signal : Option (StreamError Failure)} {phase : StreamPhase Parser Memory Failure}
    {input : StreamArrival Failure} {stepped : StreamPhase Parser Memory Failure × Option JsString}
    (operated : adapter.operate signal phase input = some stepped) :
    Operated signal phase input stepped := by
  unfold StreamAdapter.operate at operated
  split at operated
  · cases operated
    exact .silent rfl rfl (throwIfAborted_idle rfl)
  · split_ifs at operated <;> cases operated <;> exact .silent rfl rfl rfl
  · cases operated
    exact .silent rfl rfl (throwIfAborted_idle rfl)
  · cases operated
    exact .silent rfl rfl rfl
  · cases operated
    exact .silent rfl rfl rfl
  · cases operated
    exact .silent rfl rfl (throwIfAborted_idle rfl)
  · cases operated
    exact resume_operated adapter signal _
  · cases operated
    exact .answered rfl rfl (proceed_idle _ _)
  · cases operated
    exact .answered rfl rfl rfl
  · cases operated
    exact .silent rfl rfl rfl
  · cases operated

namespace StreamAdapter

variable (adapter : StreamAdapter Parser Memory)

theorem operate_silent {reason : StreamError Failure} {phase next : StreamPhase Parser Memory Failure}
    {input : StreamArrival Failure} {emission : Option JsString}
    (went : adapter.operate (some reason) phase input = some (next, emission)) : emission = none := by
  cases operate_operated went with
  | silent idle other rests => rfl
  | called idle other awaits allowed => cases allowed
  | answered awaited answer rests => rfl

theorem operate_rests {signal : Option (StreamError Failure)}
    {phase : StreamPhase Parser Memory Failure} {input : StreamArrival Failure}
    {outcome : Except (StreamError Failure) Unit} (settled : phase.settled? = some outcome) :
    adapter.operate signal phase input = none := by
  cases phase with
  | finished own => rfl
  | fetching | readingErrorDetail | reading | running | delivering | leaving => cases settled

/-- The operation that `stream` gives to `withProviderDeadline`; it emits the texts that
it hands to `onDelta`. -/
def operation (Failure : Type) :
    DeadlineOperation (StreamPhase Parser Memory Failure) (StreamArrival Failure) JsString Unit
      (StreamError Failure) where
  timeoutError := .providerTimeoutError adapter.provider adapter.timeoutMs
  requestAbortedError := .requestAbortedError
  abortError := .abortError
  start := .fetching
  operate := adapter.operate
  settled? := StreamPhase.settled?
  silent := adapter.operate_silent
  rests := adapter.operate_rests

end StreamAdapter

/-! ### Calls of the consumer -/

abbrev StreamLabel (Failure : Type) := DeadlineInput (StreamArrival Failure) × Option JsString

abbrev StreamCall (Parser Memory Failure : Type) :=
  DeadlineCall (StreamPhase Parser Memory Failure) Unit (StreamError Failure)

def StreamLabel.calls (label : StreamLabel Failure) : Bool := label.2.isSome

def StreamLabel.answers (label : StreamLabel Failure) : Bool :=
  match label.1 with
  | .operated input => input.isAnswer
  | _ => false

theorem answers_of_foreign {input : DeadlineInput (StreamArrival Failure)}
    (foreign : ∀ own, input ≠ .operated own) :
    StreamLabel.answers (input, none) = false := by
  cases input with
  | operated own => exact absurd rfl (foreign own)
  | deadline | parentAborted | relayed | continued => rfl

/-- The consumer has answered every call but the one that the operation awaits. -/
def Balanced (trace : List (StreamLabel Failure)) (phase : StreamPhase Parser Memory Failure) :
    Prop :=
  trace.countP StreamLabel.calls =
    trace.countP StreamLabel.answers + if phase.isDelivering then 1 else 0

theorem Balanced.operated {signal : Option (StreamError Failure)}
    {trace : List (StreamLabel Failure)} {phase next : StreamPhase Parser Memory Failure}
    {input : StreamArrival Failure} {emission : Option JsString} (balanced : Balanced trace phase)
    (operated : Operated signal phase input (next, emission)) :
    Balanced (trace ++ [(.operated input, emission)]) next := by
  unfold Balanced at balanced ⊢
  rw [List.countP_append, List.countP_append, balanced]
  cases operated with
  | silent idle other rests => simp [StreamLabel.calls, StreamLabel.answers, idle, other, rests]
  | called idle other awaits allowed =>
      simp [StreamLabel.calls, StreamLabel.answers, idle, other, awaits]
  | answered awaited answer rests =>
      simp [StreamLabel.calls, StreamLabel.answers, awaited, answer, rests]

theorem Balanced.foreign {trace : List (StreamLabel Failure)}
    {phase : StreamPhase Parser Memory Failure} {input : DeadlineInput (StreamArrival Failure)}
    (balanced : Balanced trace phase) (foreign : ∀ own, input ≠ .operated own) :
    Balanced (trace ++ [(input, none)]) phase := by
  unfold Balanced at balanced ⊢
  rw [List.countP_append, List.countP_append, balanced]
  simp [StreamLabel.calls, answers_of_foreign foreign]

theorem run_balanced {adapter : StreamAdapter Parser Memory} {parentAborted : Bool}
    {trace : List (StreamLabel Failure)} {call : StreamCall Parser Memory Failure}
    (run : Run (DeadlineStep (adapter.operation Failure))
      (.start (adapter.operation Failure) parentAborted) trace call) :
    ∀ phase, call.phase = some phase → Balanced trace phase := by
  apply run_phase run (fun _ trace phase => Balanced trace phase)
  · rfl
  · intro signal trace phase input next emission balanced went
    exact balanced.operated (operate_operated went)
  · intro signal later trace phase input balanced _ foreign
    exact balanced.foreign foreign

theorem run_unstarted {adapter : StreamAdapter Parser Memory} {parentAborted : Bool}
    {trace : List (StreamLabel Failure)} {call : StreamCall Parser Memory Failure}
    (run : Run (DeadlineStep (adapter.operation Failure))
      (.start (adapter.operation Failure) parentAborted) trace call)
    (unstarted : call.phase = none) : trace.countP StreamLabel.calls = 0 := by
  revert unstarted
  apply run.historyInvariant (fun trace (call : StreamCall Parser Memory Failure) =>
    call.phase = none → trace.countP StreamLabel.calls = 0)
  · intro _
    rfl
  · intro trace call label next never taken unstarted
    rw [List.countP_append]
    cases taken.change with
    | operated => cases unstarted
    | aborted | ignored | relayed | continued =>
        rw [never unstarted]
        rfl

/-! ### Every run -/

/-- What an interrupted call is rejected with. -/
def StreamAdapter.cause (adapter : StreamAdapter Parser Memory) : Interrupt → StreamError Failure
  | .deadline => .providerTimeoutError adapter.provider adapter.timeoutMs
  | .parent => .requestAbortedError

theorem reason_cause (adapter : StreamAdapter Parser Memory) (interrupt : Interrupt) :
    (adapter.operation Failure).reason interrupt = adapter.cause interrupt := by
  cases interrupt <;> rfl

/-- In every run, whatever interrupts it and whenever: `onDelta` is called only while its
earlier calls have been answered and neither an interrupt nor the settling of the call
has come before; the call settles once, and resolves only if no interrupt came before;
and an interrupt that comes first, while the operation is running, rejects the call with
its own cause. -/
def GoesSilent (adapter : StreamAdapter Parser Memory) : Prop :=
  ∀ (Failure : Type) (parentAborted : Bool) (trace : List (StreamLabel Failure))
    (call : StreamCall Parser Memory Failure),
    Run (DeadlineStep (adapter.operation Failure))
      (.start (adapter.operation Failure) parentAborted) trace call →
      (∀ before label after, trace = before ++ label :: after → label.calls = true →
        parentAborted = false ∧ (∀ other ∈ before ++ [label], other.1.stops = false) ∧
          before.countP StreamLabel.calls = before.countP StreamLabel.answers) ∧
      trace.countP StreamLabel.calls ≤ trace.countP StreamLabel.answers + 1 ∧
      (∀ outcome, call.outer = .settled outcome → ∀ later last,
        Run (DeadlineStep (adapter.operation Failure)) call later last →
          last.outer = .settled outcome) ∧
      (call.outer = .settled (.ok ()) → parentAborted = false ∧
        ∃ before after, trace = before ++ (.continued, none) :: after ∧ Uninterrupted before) ∧
      (parentAborted = true → call.outer = .settled (.error .requestAbortedError)) ∧
      (∀ before label after middle interrupt, trace = before ++ label :: after →
        Run (DeadlineStep (adapter.operation Failure))
          (.start (adapter.operation Failure) false) before middle →
        parentAborted = false → middle.phase.bind StreamPhase.settled? = none →
        label.1.interrupt? = some interrupt → Uninterrupted before →
          call.outer = .settled (.error (adapter.cause interrupt)) ∨
            ∃ next, DeadlineStep (adapter.operation Failure) call (.continued, none) next ∧
              next.outer = .settled (.error (adapter.cause interrupt))) ∧
      (∃ next, DeadlineStep (adapter.operation Failure) call (.parentAborted, none) next) ∧
      ∀ raced, call.outer = .awaiting raced →
        ∃ next, DeadlineStep (adapter.operation Failure) call (.deadline, none) next

theorem called_balanced {adapter : StreamAdapter Parser Memory} {parentAborted : Bool}
    {before after : List (StreamLabel Failure)} {label : StreamLabel Failure}
    {call : StreamCall Parser Memory Failure}
    (run : Run (DeadlineStep (adapter.operation Failure))
      (.start (adapter.operation Failure) parentAborted) (before ++ label :: after) call)
    (called : label.calls = true) :
    before.countP StreamLabel.calls = before.countP StreamLabel.answers := by
  obtain ⟨middle, next, upTo, taken, _⟩ := run.split_event before after label
  cases taken.change with
  | operated running went =>
      have balanced := run_balanced upTo _ running
      cases operate_operated went with
      | silent => cases called
      | called idle other awaits allowed => simpa [Balanced, idle] using balanced
      | answered => cases called
  | aborted | ignored | relayed | continued => cases called

theorem goesSilent (adapter : StreamAdapter Parser Memory) : GoesSilent adapter := by
  intro Failure parentAborted trace call run
  refine ⟨?_, ?_, fun outcome settled later last continued => run_settled continued settled,
    run_resolves run, ?_, ?_, call.interruptible.1, call.interruptible.2⟩
  · rintro before ⟨input, emission⟩ after rfl called
    cases emission with
    | none => cases called
    | some content =>
        obtain ⟨made, unstopped⟩ := run_silent run rfl
        exact ⟨made, unstopped, called_balanced run called⟩
  · cases started : call.phase with
    | none =>
        rw [run_unstarted run started]
        exact Nat.zero_le _
    | some phase =>
        have balanced := run_balanced run phase started
        unfold Balanced at balanced
        rw [balanced]
        split_ifs <;> omega
  · rintro rfl
    exact run_refused run
  · rintro before label after middle interrupt rfl upTo rfl running interrupts quiet
    rw [← reason_cause]
    exact run_rejects run (comesFirst_of_running upTo running interrupts quiet)

/-- Both adapters, whatever their deadline. -/
theorem interrupted_streams_go_silent (runtime : OpenAIProvider.StringRuntime) (timeoutMs : ℕ) :
    GoesSilent (OllamaProvider.adapter timeoutMs) ∧
      GoesSilent (OpenAIProvider.adapter runtime timeoutMs) :=
  ⟨goesSilent _, goesSilent _⟩

/-! ### An interrupt with a frame still unread -/

def frame (content : String) : List UInt8 :=
  Utf8.encode (JsString.ofString
    ("\x7b\"message\":\x7b\"content\":\"" ++ content ++ "\"\x7d,\"done\":false\x7d\n"))

/-- One chunk brings two frames; the consumer has answered for the first. -/
def sampleInputs : List (DeadlineInput (StreamArrival Empty)) :=
  [.operated (.fetched (some ⟨true, .finite 200, true⟩)), .operated .resumed,
    .operated (.received (some (frame "A" ++ frame "B"))), .operated .resumed,
    .operated (.answered (.ok ()))]

def StreamPhase.unread : StreamPhase Parser Memory Failure → ℕ
  | .running loop => loop.lines.length
  | _ => 0

def Outer.isPending {Value Error : Type} : Outer Value Error → Bool
  | .awaiting _ => true
  | .settled _ => false

abbrev sampleOperation :
    DeadlineOperation (StreamPhase Unit Unit Empty) (StreamArrival Empty) JsString Unit
      (StreamError Empty) :=
  (OllamaProvider.adapter 1000).operation Empty

/-- The deadline passes while the second frame is buffered: the call times out and the
frame is never delivered. -/
theorem interrupted_streams_go_silent_buffered :
    ∃ (trace : List (StreamLabel Empty)) (call : StreamCall Unit Unit Empty),
      Run (DeadlineStep sampleOperation) (.start sampleOperation false)
        (trace ++ [(.deadline, none)]) call ∧
      trace.map Prod.snd = [none, none, none, some (JsString.ofString "A"), none] ∧
      call.phase.map StreamPhase.unread = some 1 ∧
      (∃ next, DeadlineStep sampleOperation call (.continued, none) next ∧
        next.outer = .settled (.error (.providerTimeoutError "Ollama" 1000))) ∧
      ∀ later last, Run (DeadlineStep sampleOperation) call later last →
        later.countP StreamLabel.calls = 0 := by
  have computed : ((DeadlineCall.start sampleOperation false).replay sampleOperation
      sampleInputs).map (fun result =>
        (result.1.map Prod.snd, result.1.all (fun label => label.1.interrupt?.isNone),
          result.2.phase.map StreamPhase.unread,
          (result.2.phase.bind StreamPhase.settled?).isNone, result.2.outer.isPending)) =
      some ([none, none, none, some (JsString.ofString "A"), none], true, some 1, true, true) := by
    decide +kernel
  obtain ⟨⟨trace, middle⟩, replayed, same⟩ := Option.map_eq_some_iff.mp computed
  simp only [Prod.mk.injEq] at same
  obtain ⟨emissions, calm, unread, running, pending⟩ := same
  have upTo := run_replay replayed
  have silent := (interrupted_streams_go_silent ⟨Json.NumberToken.text, 2000⟩ 1000).1 Empty false
  cases outer : middle.outer with
  | settled outcome => simp [outer, Outer.isPending] at pending
  | awaiting raced =>
      obtain ⟨call, fired⟩ := (silent _ _ upTo).2.2.2.2.2.2.2 raced outer
      have run := upTo.snoc fired
      obtain ⟨_, _, _, _, _, rejects, _, _⟩ := silent _ _ run
      have quiet : Uninterrupted trace := by
        intro label member
        exact Option.isNone_iff_eq_none.mp (List.all_eq_true.mp calm label member)
      have kept : call.phase = middle.phase ∧ ∃ raced, call.outer = .awaiting raced := by
        cases fired.change with
        | aborted => exact ⟨rfl, _, rfl⟩
        | ignored => exact ⟨rfl, raced, outer⟩
      refine ⟨trace, call, run, emissions, by rw [kept.1, unread], ?_, ?_⟩
      · obtain ⟨_, raced, waiting⟩ := kept
        rcases rejects trace (.deadline, none) [] middle .deadline rfl upTo rfl
          (Option.isNone_iff_eq_none.mp running) rfl quiet with settled | settles
        · cases waiting.symm.trans settled
        · exact settles
      · intro later last continued
        rw [List.countP_eq_zero]
        intro label member called
        obtain ⟨front, back, rfl⟩ := List.append_of_mem member
        have whole := (silent _ _ (run.append continued)).1
          (trace ++ [(.deadline, none)] ++ front) label back (by simp) called
        have stopped := whole.2.1 (.deadline, none) (by simp)
        cases stopped

end ModelMux.Providers
