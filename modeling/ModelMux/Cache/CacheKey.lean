/-
Keys of cached answers.

A key hashes the canonical text of the namespace, the owner and the complete
request.  Equal texts mean the same namespace, the same owner and requests
that are equal up to the order of object members, hence the same conversation.
-/

import ModelMux.Queue.Submission
import ModelMux.Providers.Router

namespace ModelMux.Cache

open Providers (ChatRole ChatMessage ChatRequest)
open Queue (Document)

/-- The text that `hash` digests for a key. -/
def keyText (namespaceId ownerId : JsString) (request : Document) : JsString :=
  Json.canonicalText (.array [.string namespaceId, .string ownerId, request.value])

/-- The key, with the digest of a text in hexadecimal left open. -/
def chatCacheKey (digest : JsString → JsString) (namespaceId ownerId : JsString)
    (request : Document) : JsString :=
  JsString.ofString "modelmux:chat-cache:v1:" ++ digest (keyText namespaceId ownerId request)

theorem chatCacheKey_eq_iff {digest : JsString → JsString} {namespaceId ownerId : JsString}
    {namespaceId' ownerId' : JsString} {request request' : Document} :
    chatCacheKey digest namespaceId ownerId request =
        chatCacheKey digest namespaceId' ownerId' request' ↔
      digest (keyText namespaceId ownerId request) =
        digest (keyText namespaceId' ownerId' request') :=
  ⟨List.append_cancel_left, congrArg (JsString.ofString "modelmux:chat-cache:v1:" ++ ·)⟩

theorem keyText_eq_iff {namespaceId ownerId namespaceId' ownerId' : JsString}
    {request request' : Document} :
    keyText namespaceId ownerId request = keyText namespaceId' ownerId' request' ↔
      namespaceId = namespaceId' ∧ ownerId = ownerId' ∧
        Json.Reordered request.value request'.value := by
  rw [← Json.canonicalText_eq_iff request.distinctKeys request'.distinctKeys]
  constructor
  · intro same
    have values := Json.print_injective same
    simp only [Json.canonicalize, Json.canonicalizeItems, Json.array.injEq, List.cons.injEq,
      Json.string.injEq, and_true] at values
    exact ⟨values.1, values.2.1, congrArg Json.print values.2.2⟩
  · rintro ⟨rfl, rfl, same⟩
    have values := Json.print_injective same
    simp only [keyText, Json.canonicalText, Json.canonicalize, Json.canonicalizeItems, values]

/-! ### Conversations -/

def roleText : ChatRole → JsString
  | .system => JsString.ofString "system"
  | .user => JsString.ofString "user"
  | .assistant => JsString.ofString "assistant"

def messageJson (message : ChatMessage) : Json :=
  .object
    [(JsString.ofString "role", .string (roleText message.role)),
      (JsString.ofString "content", .string message.content)]

def requestJson (request : ChatRequest) : Json :=
  .object
    [(JsString.ofString "model", .string request.model),
      (JsString.ofString "messages", .array (request.messages.map messageJson))]

/-- The document is the request, with the properties of its objects in some order. -/
def Represents (document : Document) (request : ChatRequest) : Prop :=
  Json.Reordered document.value (requestJson request)

theorem roleText_injective : Function.Injective roleText := by
  intro left right same
  cases left <;> cases right <;> first | rfl | exact absurd same (by decide)

theorem canonicalize_messageJson (message : ChatMessage) :
    Json.canonicalize (messageJson message) =
      .object
        [(JsString.ofString "content", .string message.content),
          (JsString.ofString "role", .string (roleText message.role))] := by
  rfl

theorem canonicalize_requestJson (request : ChatRequest) :
    Json.canonicalize (requestJson request) =
      .object
        [(JsString.ofString "messages",
            .array (request.messages.map (fun message => Json.canonicalize (messageJson message)))),
          (JsString.ofString "model", .string request.model)] := by
  have items : Json.canonicalizeItems (request.messages.map messageJson) =
      request.messages.map (fun message => Json.canonicalize (messageJson message)) := by
    rw [Json.canonicalizeItems_eq_map, List.map_map]
    rfl
  rw [← items]
  rfl

theorem distinctKeys_requestJson (request : ChatRequest) : (requestJson request).DistinctKeys := by
  have keys : JsString.ofString "model" ≠ JsString.ofString "messages" := by decide
  have messageKeys : JsString.ofString "role" ≠ JsString.ofString "content" := by decide
  refine ⟨by simpa using keys, trivial, ?_, trivial⟩
  apply (Json.distinctKeysItems_iff _).mpr
  intro item member
  obtain ⟨message, _, rfl⟩ := List.mem_map.mp member
  exact ⟨by simpa using messageKeys, trivial, trivial, trivial⟩

theorem messageJson_injective {left right : ChatMessage}
    (same : Json.canonicalize (messageJson left) = Json.canonicalize (messageJson right)) :
    left = right := by
  obtain ⟨role, content⟩ := left
  obtain ⟨role', content'⟩ := right
  simp only [canonicalize_messageJson, Json.object.injEq, List.cons.injEq, Prod.mk.injEq,
    Json.string.injEq, true_and, and_true] at same
  rw [roleText_injective same.2, same.1]

/-- Equal documents are the same conversation: one model and the same messages in
the same order, with their roles and texts. -/
theorem represents_unique {document document' : Document} {request request' : ChatRequest}
    (represents : Represents document request) (represents' : Represents document' request')
    (same : Json.Reordered document.value document'.value) : request = request' := by
  have between : Json.Reordered (requestJson request) (requestJson request') :=
    represents.symm.trans (same.trans represents')
  have canonical := between.canonicalize_eq (distinctKeys_requestJson request)
  obtain ⟨model, messages⟩ := request
  obtain ⟨model', messages'⟩ := request'
  simp only [canonicalize_requestJson, Json.object.injEq, List.cons.injEq, Prod.mk.injEq,
    Json.string.injEq, Json.array.injEq, true_and, and_true] at canonical
  have sameMessages : messages = messages' :=
    List.map_injective_iff.mpr (fun left right => messageJson_injective) canonical.1
  rw [sameMessages, canonical.2]

end ModelMux.Cache
