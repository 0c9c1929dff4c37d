/-
The answers of the adapters to a request that is not streamed.

`chat` reads the body of a successful response as JSON and takes the text of the answer
out of it.  JSON can write every string, so every string can be an answer.
-/

import ModelMux.Providers.StreamAdapter

namespace ModelMux.Providers

/-! ### Ollama -/

namespace OllamaProvider

/-- The content of the answer in a body; `none` stands for a thrown
`ProviderResponseError`. -/
def chat (body : JsString) : Option JsString :=
  match ((Json.parse body).bind isRecord).bind
      (fun data => Json.get data (JsString.ofString "message")) with
  | some (.object message) =>
      match Json.get message (JsString.ofString "content") with
      | some (.string content) => some content
      | _ => none
  | _ => none

def answerBody (content : JsString) : JsString :=
  Json.print (.object
    [(JsString.ofString "message", .object [(JsString.ofString "content", .string content)])])

theorem chat_answerBody (content : JsString) : chat (answerBody content) = some content := by
  have parsed : Json.parse (answerBody content) = some (.object
      [(JsString.ofString "message",
        .object [(JsString.ofString "content", .string content)])]) := by
    unfold Json.parse answerBody
    rw [Json.parseText_print]
    simp [Json.build, Json.buildMembers, Json.fromEntries, Json.setMember, Json.ownOrder,
      Json.arrayIndex?, JsString.ofString, CodeUnit.ofChar, CodeUnit.isDigit]
  simp [chat, parsed, isRecord, Json.get]

end OllamaProvider

/-! ### OpenAI -/

namespace OpenAIProvider

def chat (body : JsString) : Option JsString :=
  match ((Json.parse body).bind isRecord).bind
      (fun data => Json.get data (JsString.ofString "choices")) with
  | some (.array (.object choice :: _)) =>
      match Json.get choice (JsString.ofString "message") with
      | some (.object message) =>
          match Json.get message (JsString.ofString "role") with
          | some (.string role) =>
              if role = JsString.ofString "assistant" then textContent message else none
          | _ => none
      | _ => none
  | _ => none

end OpenAIProvider

def IsAnswer (content : JsString) : Prop :=
  ∃ body, OllamaProvider.chat body = some content ∨ OpenAIProvider.chat body = some content

theorem isAnswer (content : JsString) : IsAnswer content :=
  ⟨OllamaProvider.answerBody content, Or.inl (OllamaProvider.chat_answerBody content)⟩

end ModelMux.Providers
