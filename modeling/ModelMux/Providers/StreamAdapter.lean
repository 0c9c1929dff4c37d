/-
The streaming loops of the provider adapters.

`OllamaProvider.stream` runs its loop over the lines of the body and
`OpenAIProvider.stream` over the data of its server-sent events.  The body of a
loop is a function of one item and of what the loop remembers; it tells which
text is handed to `onDelta` and how the loop goes on.  `consume` drives a loop
over everything that its generator yields, with a consumer that never rejects.
-/

import ModelMux.Json.Number
import ModelMux.Providers.StreamParser

namespace ModelMux.Providers

open Json (Member)

inductive AdapterError where
  | providerResponseError (provider : String)
  | typeError
  | rangeError
deriving DecidableEq

inductive Continuation (Memory : Type) where
  | next (memory : Memory)
  | resolve
  | reject (error : AdapterError)

/-- `ignore` is a `continue` before the signal is checked; empty content is not
delivered. -/
inductive Reaction (Memory : Type) where
  | ignore
  | act (content : JsString) (after : Continuation Memory)

structure Streamed where
  deltas : List JsString
  outcome : Except AdapterError Unit

def deliver (content : JsString) : List JsString := if content = [] then [] else [content]

variable {Memory : Type}

def consume (react : Memory → JsString → Reaction Memory) (ended : AdapterError)
    (memory : Memory) : List JsString → Streamed
  | [] => ⟨[], .error ended⟩
  | item :: rest =>
      match react memory item with
      | .ignore => consume react ended memory rest
      | .act content .resolve => ⟨deliver content, .ok ()⟩
      | .act content (.reject error) => ⟨deliver content, .error error⟩
      | .act content (.next later) =>
          ⟨deliver content ++ (consume react ended later rest).deltas,
            (consume react ended later rest).outcome⟩

/-- What the loop remembers and has delivered after items that do not end it. -/
def passThrough (react : Memory → JsString → Reaction Memory) (memory : Memory) :
    List JsString → Option (Memory × List JsString)
  | [] => some (memory, [])
  | item :: rest =>
      match react memory item with
      | .ignore => passThrough react memory rest
      | .act content (.next later) =>
          (passThrough react later rest).map
            (fun passed => (passed.1, deliver content ++ passed.2))
      | .act _ _ => none

theorem consume_append {react : Memory → JsString → Reaction Memory} {memory later : Memory}
    {before deltas : List JsString} (passed : passThrough react memory before = some (later, deltas))
    (ended : AdapterError) (rest : List JsString) :
    consume react ended memory (before ++ rest) =
      ⟨deltas ++ (consume react ended later rest).deltas,
        (consume react ended later rest).outcome⟩ := by
  induction before generalizing memory deltas with
  | nil =>
      rw [passThrough, Option.some.injEq, Prod.mk.injEq] at passed
      rw [List.nil_append, passed.1, ← passed.2, List.nil_append]
  | cons item before ih =>
      rw [List.cons_append, consume]
      rw [passThrough] at passed
      split at passed
      · rename_i ignored
        rw [ignored]
        exact ih passed
      · rename_i content next acted
        obtain ⟨⟨final, rest⟩, passedRest, same⟩ := Option.map_eq_some_iff.mp passed
        simp only [Prod.mk.injEq] at same
        obtain ⟨rfl, rfl⟩ := same
        rw [acted]
        dsimp only
        rw [ih passedRest, List.append_assoc]
      · simp at passed

/-- Items are passed up to the one that ends the loop. -/
theorem passThrough_split (react : Memory → JsString → Reaction Memory) (memory : Memory)
    (items : List JsString) :
    ∃ before later deltas, passThrough react memory before = some (later, deltas) ∧
      (items = before ∨
        ∃ item rest content, items = before ++ item :: rest ∧
          (react later item = .act content .resolve ∨
            ∃ error, react later item = .act content (.reject error))) := by
  induction items generalizing memory with
  | nil => exact ⟨[], memory, [], rfl, Or.inl rfl⟩
  | cons item items ih =>
      cases reacted : react memory item with
      | ignore =>
          obtain ⟨before, later, deltas, passed, stop⟩ := ih memory
          refine ⟨item :: before, later, deltas, by rw [passThrough, reacted]; exact passed, ?_⟩
          rcases stop with rfl | ⟨last, rest, content, rfl, ends⟩
          · exact Or.inl rfl
          · exact Or.inr ⟨last, rest, content, rfl, ends⟩
      | act content after =>
          cases after with
          | next next =>
              obtain ⟨before, later, deltas, passed, stop⟩ := ih next
              refine ⟨item :: before, later, deliver content ++ deltas, ?_, ?_⟩
              · rw [passThrough, reacted]
                dsimp only
                rw [passed, Option.map_some]
              · rcases stop with rfl | ⟨last, rest, content, rfl, ends⟩
                · exact Or.inl rfl
                · exact Or.inr ⟨last, rest, content, rfl, ends⟩
          | resolve =>
              exact ⟨[], memory, [], rfl, Or.inr ⟨item, items, content, rfl, Or.inl reacted⟩⟩
          | reject error =>
              exact ⟨[], memory, [], rfl,
                Or.inr ⟨item, items, content, rfl, Or.inr ⟨error, reacted⟩⟩⟩

/-- A loop fails when its generator does, and also when the generator returns. -/
def consumeAll (react : Memory → JsString → Reaction Memory) (provider : String)
    (memory : Memory) (generated : Generated) : Streamed :=
  consume react
    (match generated.outcome with
      | .error error => .providerResponseError error.provider
      | .ok () => .providerResponseError provider)
    memory generated.yielded

def isAssistantRole : Option Json → Bool
  | none => true
  | some (.string role) => role = JsString.ofString "assistant"
  | some _ => false

theorem isAssistantRole_iff (role : Option Json) :
    isAssistantRole role = true ↔
      role = none ∨ role = some (.string (JsString.ofString "assistant")) := by
  match role with
  | none => simp [isAssistantRole]
  | some .null => simp [isAssistantRole]
  | some (.bool value) => simp [isAssistantRole]
  | some (.number token) => simp [isAssistantRole]
  | some (.string units) => simp [isAssistantRole]
  | some (.array items) => simp [isAssistantRole]
  | some (.object members) => simp [isAssistantRole]

/-! ### Ollama -/

namespace OllamaProvider

def reject : Reaction Unit := .act [] (.reject (.providerResponseError "Ollama"))

def hasToolCalls : Option Json → Bool
  | some (.array (_ :: _)) => true
  | _ => false

def messageContent : Json → Option JsString
  | .object message =>
      match Json.get message (JsString.ofString "content") with
      | some (.string content) =>
          if isAssistantRole (Json.get message (JsString.ofString "role")) &&
              !hasToolCalls (Json.get message (JsString.ofString "tool_calls")) then
            some content
          else none
      | _ => none
  | _ => none

def react (_ : Unit) (line : JsString) : Reaction Unit :=
  if JsString.trim line = [] then .ignore
  else
    match parseStreamJson line with
    | none => reject
    | some data =>
        match Json.get data (JsString.ofString "error"),
            Json.get data (JsString.ofString "done") with
        | none, some (.bool done) =>
            match Json.get data (JsString.ofString "message") with
            | some message =>
                match messageContent message with
                | some content => .act content (if done then .resolve else .next ())
                | none => reject
            | none => if done then .act [] .resolve else reject
        | _, _ => reject

/-- The loop of `stream` over the body of a response that `send` has accepted. -/
def stream (body : Option (List (List UInt8))) : Streamed :=
  consumeAll react "Ollama" () (readLines "Ollama" body)

end OllamaProvider

/-! ### OpenAI -/

namespace OpenAIProvider

def reject : Reaction Bool := .act [] (.reject (.providerResponseError "OpenAI"))

def isNullish : Option Json → Bool
  | none => true
  | some .null => true
  | some _ => false

/-- `none` stands for a thrown `ProviderResponseError`. -/
def textContent (message : List Member) : Option JsString :=
  match Json.get message (JsString.ofString "content") with
  | some (.string content) => some content
  | content =>
      if isNullish content then
        match Json.get message (JsString.ofString "refusal") with
        | some (.string refusal) => some refusal
        | _ => none
      else none

/-- How numbers are written, and how many arrays inside each other `String` can follow
before the stack overflows. -/
structure StringRuntime where
  numberText : Json.NumberToken → JsString
  nestingLimit : ℕ

mutual

/-- `String(value)` with room for `depth` more levels of arrays.  An own `toString` hides
the inherited one and is no function, and the inherited `valueOf` returns the object. -/
def stringForm (runtime : StringRuntime) (depth : ℕ) : Json → Except AdapterError JsString
  | .null => .ok (JsString.ofString "null")
  | .bool true => .ok (JsString.ofString "true")
  | .bool false => .ok (JsString.ofString "false")
  | .number token => .ok (runtime.numberText token)
  | .string units => .ok units
  | .array items =>
      match depth with
      | 0 => .error .rangeError
      | depth + 1 => (elementForms runtime depth items).map [0x2C].intercalate
  | .object members =>
      if (Json.get members (JsString.ofString "toString")).isSome then .error .typeError
      else .ok (JsString.ofString "[object Object]")

def elementForms (runtime : StringRuntime) (depth : ℕ) :
    List Json → Except AdapterError (List JsString)
  | [] => .ok []
  | .null :: rest => (elementForms runtime depth rest).map (List.cons [])
  | item :: rest =>
      (stringForm runtime depth item).bind (fun text =>
        (elementForms runtime depth rest).map (List.cons text))

end

def finishReasons : List JsString :=
  [JsString.ofString "stop", JsString.ofString "length", JsString.ofString "content_filter"]

def doneEvent : JsString := JsString.ofString "[DONE]"

def isIndexZero : Option Json → Bool
  | none => true
  | some (.number token) => token.value = .finite 0
  | some _ => false

def deltaText (delta : List Member) : Option JsString :=
  if isAssistantRole (Json.get delta (JsString.ofString "role")) &&
      (Json.get delta (JsString.ofString "tool_calls")).isNone &&
      (Json.get delta (JsString.ofString "function_call")).isNone then
    if isNullish (Json.get delta (JsString.ofString "content")) &&
        isNullish (Json.get delta (JsString.ofString "refusal")) then some []
    else textContent delta
  else none

def afterText (runtime : StringRuntime) (finishReason : Option Json) : Continuation Bool :=
  match finishReason with
  | none => .next false
  | some .null => .next false
  | some reason =>
      match stringForm runtime runtime.nestingLimit reason with
      | .error error => .reject error
      | .ok text =>
          if text ∈ finishReasons then .next true
          else .reject (.providerResponseError "OpenAI")

/-- The body of the loop; `finished` tells whether a finish reason has been seen. -/
def react (runtime : StringRuntime) (finished : Bool) (event : JsString) : Reaction Bool :=
  if event = doneEvent then if finished then .act [] .resolve else reject
  else
    match parseStreamJson event with
    | none => reject
    | some data =>
        match Json.get data (JsString.ofString "error"),
            Json.get data (JsString.ofString "choices") with
        | none, some (.array []) => .act [] (.next finished)
        | none, some (.array (.object choice :: _)) =>
            match Json.get choice (JsString.ofString "delta") with
            | some (.object delta) =>
                if !finished && isIndexZero (Json.get choice (JsString.ofString "index")) then
                  match deltaText delta with
                  | some content =>
                      .act content
                        (afterText runtime
                          (Json.get choice (JsString.ofString "finish_reason")))
                  | none => reject
                else reject
            | _ => reject
        | _, _ => reject

def stream (runtime : StringRuntime) (body : Option (List (List UInt8))) : Streamed :=
  consumeAll (react runtime) "OpenAI" false (readSseData "OpenAI" body)

end OpenAIProvider

end ModelMux.Providers
