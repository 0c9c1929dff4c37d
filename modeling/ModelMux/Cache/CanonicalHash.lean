/-
Canonical texts decide equality up to property order.

The cache and the job store have a copy of `hash` each.  Both stringify with the
replacer that sorts the keys of every object, so both digest the canonical text.
The digest reads the UTF-8 bytes of the text; a canonical text is well formed,
so that its bytes say as much as the text.
-/

import ModelMux.Cache.CacheKey
import ModelMux.Json.CanonicalForm
import ModelMux.Json.Utf8

namespace ModelMux

def Queue.hashReplacer : Json → Json := Json.sortKeys

namespace Cache

open Queue (Document)

def hashReplacer : Json → Json := Json.sortKeys

/-! ### Bytes -/

/-- `createHash("sha256").update(text).digest("hex")`, with the digest of bytes left open. -/
def utf8Digest (sha256 : List UInt8 → JsString) (text : JsString) : JsString :=
  sha256 (Utf8.encode text)

def keyBytes (namespaceId ownerId : JsString) (request : Document) : List UInt8 :=
  Utf8.encode (keyText namespaceId ownerId request)

theorem decode_keyBytes (namespaceId ownerId : JsString) (request : Document) :
    Utf8.decode (keyBytes namespaceId ownerId request) =
      some (keyText namespaceId ownerId request) := by
  apply Utf8.decode_encode (Utf8.wellFormed_print _)
  rw [Json.canonicalize, Json.canonicalizeItems, Json.print, List.head?_cons]
  decide

theorem keyText_of_keyBytes {namespaceId ownerId namespaceId' ownerId' : JsString}
    {request request' : Document}
    (same : keyBytes namespaceId ownerId request = keyBytes namespaceId' ownerId' request') :
    keyText namespaceId ownerId request = keyText namespaceId' ownerId' request' := by
  have decoded := decode_keyBytes namespaceId ownerId request
  rw [same, decode_keyBytes] at decoded
  exact (Option.some.inj decoded).symm

/-! ### Canonical texts -/

theorem canonical_text_decides :
    (∀ value text, Json.StringifiedAs hashReplacer value text ↔ text = Json.canonicalText value) ∧
    (∀ value text, Json.StringifiedAs Queue.hashReplacer value text ↔
      Json.StringifiedAs hashReplacer value text) ∧
    (∀ left right : Document, left.value.canonicalText = right.value.canonicalText ↔
      Json.Reordered left.value right.value) ∧
    (∀ left right, Json.Reordered left right ↔ Json.Alike left right) ∧
    (∀ (sha256 : List UInt8 → JsString) (namespaceId ownerId namespaceId' ownerId' : JsString)
      (request request' : Document),
      (sha256 (keyBytes namespaceId ownerId request) =
          sha256 (keyBytes namespaceId' ownerId' request') →
        keyBytes namespaceId ownerId request = keyBytes namespaceId' ownerId' request') →
      (chatCacheKey (utf8Digest sha256) namespaceId ownerId request =
          chatCacheKey (utf8Digest sha256) namespaceId' ownerId' request' ↔
        namespaceId = namespaceId' ∧ ownerId = ownerId' ∧
          Json.Reordered request.value request'.value)) := by
  refine ⟨Json.stringifiedAs_sortKeys_iff, fun _ _ => Iff.rfl, ?_, Json.reordered_iff_alike, ?_⟩
  · intro left right
    exact Json.canonicalText_eq_iff left.distinctKeys right.distinctKeys
  · intro sha256 namespaceId ownerId namespaceId' ownerId' request request' collisionFree
    rw [chatCacheKey_eq_iff, ← keyText_eq_iff]
    constructor
    · intro same
      exact keyText_of_keyBytes (collisionFree same)
    · intro same
      rw [same]

def sampleConversation : Providers.ChatRequest :=
  ⟨JsString.ofString "local", [⟨.user, JsString.ofString "hi"⟩]⟩

def sampleRequest : Document := ⟨requestJson sampleConversation, distinctKeys_requestJson _⟩

def sampleReordered : Document :=
  { value := .object
      [(JsString.ofString "messages", .array
          [.object
            [(JsString.ofString "content", .string (JsString.ofString "hi")),
              (JsString.ofString "role", .string (JsString.ofString "user"))]]),
        (JsString.ofString "model", .string (JsString.ofString "local"))]
    distinctKeys := ⟨by decide, ⟨⟨by decide, trivial, trivial, trivial⟩, trivial⟩, trivial, trivial⟩ }

/-- SHA-256 in hexadecimal, on the two keys of the sample. -/
def sampleSha256 (bytes : List UInt8) : JsString :=
  if bytes = keyBytes (JsString.ofString "test") (JsString.ofString "alice") sampleRequest then
    JsString.ofString "f7b0fa99db985a705d4b94801529372644a49de1c470dd0361fa4c11e5232ba3"
  else if bytes = keyBytes (JsString.ofString "test") (JsString.ofString "bob") sampleRequest then
    JsString.ofString "c3e40b02b87e44240e0215698e22f31ba24ecfb5e852a60ed3f45b064abf5552"
  else []

theorem canonical_text_decides_owners :
    let namespaceId := JsString.ofString "test"
    let alice := JsString.ofString "alice"
    let bob := JsString.ofString "bob"
    chatCacheKey (utf8Digest sampleSha256) namespaceId alice sampleRequest =
        chatCacheKey (utf8Digest sampleSha256) namespaceId alice sampleReordered ∧
      chatCacheKey (utf8Digest sampleSha256) namespaceId alice sampleRequest ≠
        chatCacheKey (utf8Digest sampleSha256) namespaceId bob sampleRequest := by
  intro namespaceId alice bob
  obtain ⟨_, _, texts, _, keys⟩ := canonical_text_decides
  constructor
  · have same : Json.Reordered sampleRequest.value sampleReordered.value :=
      (texts sampleRequest sampleReordered).mp (by decide +kernel)
    have bytes : keyBytes namespaceId alice sampleRequest =
        keyBytes namespaceId alice sampleReordered := by decide +kernel
    exact (keys sampleSha256 namespaceId alice namespaceId alice _ _ (fun _ => bytes)).mpr
      ⟨rfl, rfl, same⟩
  · have different : sampleSha256 (keyBytes namespaceId alice sampleRequest) ≠
        sampleSha256 (keyBytes namespaceId bob sampleRequest) := by decide +kernel
    intro same
    have owners := ((keys sampleSha256 namespaceId alice namespaceId bob _ _
      (fun equal => absurd equal different)).mp same).2.1
    exact absurd owners (by decide)

end Cache

end ModelMux
