/-
The chat cache in Redis.

An entry is the UTF-8 text of an answer, written with its lifetime by one
`SET EX NX` and read by one `GETRANGE` that asks for a byte more than an entry
may have.  Commands are answered, and neither cancelled nor timed out.
-/

import ModelMux.Cache.CacheKey
import ModelMux.Foundation.ExpiringStore
import ModelMux.Json.Utf8

namespace ModelMux.Cache

open Queue (Document)

/-! ### Options -/

structure CacheLimits where
  ttlSeconds : ℕ
  maxEntryBytes : ℕ
  timeoutMs : ℕ
  ttlPositive : 1 ≤ ttlSeconds
  sizePositive : 1 ≤ maxEntryBytes
  timeoutPositive : 1 ≤ timeoutMs

structure RedisChatCacheOptions where
  namespaceId : JsString
  limits : CacheLimits
  namespaceGiven : namespaceId ≠ []

theorem positiveInteger_pos (value : ℚ)
    (accepted : (JsNumber.finite value).isSafeInteger = true ∧ 1 ≤ value.num ∧
      value.num ≤ 2147483647) : 1 ≤ value.num.toNat := by
  omega

def positiveInteger (number : JsNumber) : Option { value : ℕ // 1 ≤ value } :=
  match number with
  | .finite value =>
      if accepted : (JsNumber.finite value).isSafeInteger = true ∧ 1 ≤ value.num ∧
          value.num ≤ 2147483647 then
        some ⟨value.num.toNat, positiveInteger_pos value accepted⟩
      else none
  | .infinite _ => none
  | .notANumber => none

def validateOptions (namespaceId : JsString) (ttlSeconds maxEntryBytes timeoutMs : JsNumber) :
    Except String RedisChatCacheOptions :=
  match positiveInteger ttlSeconds with
  | none => .error "Cache ttlSeconds must be a positive integer"
  | some ⟨ttl, ttlPositive⟩ =>
      match positiveInteger maxEntryBytes with
      | none => .error "Cache maxEntryBytes must be a positive integer"
      | some ⟨size, sizePositive⟩ =>
          match positiveInteger timeoutMs with
          | none => .error "Cache timeoutMs must be a positive integer"
          | some ⟨timeout, timeoutPositive⟩ =>
              if given : namespaceId ≠ [] then
                .ok ⟨namespaceId,
                  ⟨ttl, size, timeout, ttlPositive, sizePositive, timeoutPositive⟩, given⟩
              else .error "Cache namespace is required"

/-! ### Redis -/

abbrev RedisStore := ExpiringStore JsString (List UInt8)

/-- `GETRANGE key 0 last`; a missing key reads as an empty string. -/
def getrange (redis : RedisStore) (nowMs : ℤ) (key : JsString) (last : ℕ) : List UInt8 :=
  ((redis.read nowMs key).getD []).take (last + 1)

def setNew (redis : RedisStore) (nowMs : ℤ) (key value : JsString) (ttlSeconds : ℕ) : RedisStore :=
  redis.writeNew nowMs key (Utf8.encode value) (nowMs + (ttlSeconds * 1000 : ℕ))

/-! ### Answers -/

/-- An answer; its message always has the role of the assistant. -/
structure ChatResponse where
  content : JsString
deriving DecidableEq

/-- The answer that `isChatResponse` finds in a value, without other properties. -/
def isChatResponse : Json → Option ChatResponse
  | .object members =>
      match Json.get members (JsString.ofString "message") with
      | some (.object message) =>
          match Json.get message (JsString.ofString "role"),
              Json.get message (JsString.ofString "content") with
          | some (.string role), some (.string content) =>
              if role = JsString.ofString "assistant" then some ⟨content⟩ else none
          | _, _ => none
      | _ => none
  | _ => none

def responseJson (response : ChatResponse) : Json :=
  .object
    [(JsString.ofString "message",
        .object
          [(JsString.ofString "role", .string (JsString.ofString "assistant")),
            (JsString.ofString "content", .string response.content)])]

def stringifyResponse (response : ChatResponse) : JsString := Json.print (responseJson response)

def readEntry (limits : CacheLimits) (data : List UInt8) : Option ChatResponse :=
  if data.length = 0 || data.length > limits.maxEntryBytes then none
  else
    match (Utf8.decode data).bind Json.parse with
    | none => none
    | some value => isChatResponse value

def entryText (limits : CacheLimits) (response : Json) : Option JsString :=
  match isChatResponse response with
  | none => none
  | some answer =>
      if Utf8.byteLength answer.content > limits.maxEntryBytes then none
      else if Utf8.byteLength (stringifyResponse answer) > limits.maxEntryBytes then none
      else some (stringifyResponse answer)

/-! ### Calls -/

structure CacheState where
  nowMs : ℤ
  redis : RedisStore

variable (digest : JsString → JsString) (limits : CacheLimits)

def get (state : CacheState) (namespaceId ownerId : JsString) (request : Document) :
    Option ChatResponse :=
  readEntry limits
    (getrange state.redis state.nowMs (chatCacheKey digest namespaceId ownerId request)
      limits.maxEntryBytes)

def put (state : CacheState) (namespaceId ownerId : JsString) (request : Document)
    (response : Json) : CacheState :=
  match entryText limits response with
  | none => state
  | some value =>
      { state with
        redis := setNew state.redis state.nowMs (chatCacheKey digest namespaceId ownerId request)
          value limits.ttlSeconds }

inductive CacheEvent where
  | elapse (milliseconds : ℕ)
  | get (namespaceId ownerId : JsString) (request : Document) (answer : Option ChatResponse)
  | put (namespaceId ownerId : JsString) (request : Document) (response : Json)

def CacheStep (before : CacheState) (event : CacheEvent) (after : CacheState) : Prop :=
  match event with
  | .elapse milliseconds => after = { before with nowMs := before.nowMs + milliseconds }
  | .get namespaceId ownerId request answer =>
      after = before ∧ answer = get digest limits before namespaceId ownerId request
  | .put namespaceId ownerId request response =>
      after = put digest limits before namespaceId ownerId request response

end ModelMux.Cache
