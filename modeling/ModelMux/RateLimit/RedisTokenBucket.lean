/-
The token bucket in Redis.

Every subject has a hash with the tokens left by its last call and the time
of that call.  The script that a call evaluates refills the bucket, takes a
token if there is one and lets the hash expire after twice the time that an
empty bucket needs to fill up.  Numbers are exact and Redis answers every
call.
-/

import ModelMux.Foundation.ExpiringStore
import ModelMux.Foundation.LabelledRun
import ModelMux.Json.Number

namespace ModelMux.RateLimit

structure RateLimitPolicy where
  capacity : JsNumber
  refillPerSecond : JsNumber
deriving DecidableEq

structure RateLimitDecision where
  allowed : Bool
  remaining : ℤ
  retryAfterSeconds : ℤ
deriving DecidableEq

inductive RateLimiterCause where
  | invalidPolicy
  | invalidResult
deriving DecidableEq

def RateLimiterCause.message : RateLimiterCause → String
  | .invalidPolicy => "API key has an invalid rate limit policy"
  | .invalidResult => "Redis returned an invalid token bucket result"

structure RateLimiterUnavailableError where
  cause : RateLimiterCause
deriving DecidableEq

def validatePolicy (policy : RateLimitPolicy) : Except RateLimiterUnavailableError Unit :=
  if !policy.capacity.isInteger ||
      policy.capacity.lessThan (.finite 1) ||
      !policy.refillPerSecond.isFinite ||
      policy.refillPerSecond.atMost (.finite 0) then
    .error ⟨.invalidPolicy⟩
  else .ok ()

/-! ### The script -/

structure RedisTime where
  seconds : ℤ
  microseconds : ℤ
deriving DecidableEq

def RedisTime.nowMs (time : RedisTime) : ℤ := time.seconds * 1000 + time.microseconds / 1000

structure BucketHash where
  tokens : ℚ
  updatedAtMs : ℤ
deriving DecidableEq

abbrev BucketStore := ExpiringStore JsString BucketHash

def cost : ℚ := 1

/-- The tokens that the script finds in the bucket after the refill. -/
def refilledTokens (capacity refillPerSecond : ℚ) (state : Option BucketHash) (nowMs : ℤ) : ℚ :=
  let tokens := match state with
    | none => capacity
    | some hash => hash.tokens
  let updatedAtMs := match state with
    | none => nowMs
    | some hash => hash.updatedAtMs
  let elapsedMs : ℚ := max 0 (nowMs - updatedAtMs : ℤ)
  min capacity (tokens + elapsedMs / 1000 * refillPerSecond)

def ttlSeconds (capacity refillPerSecond : ℚ) : ℤ := max 1 ⌈capacity / refillPerSecond * 2⌉

def tokenBucketScript (store : BucketStore) (time : RedisTime) (key : JsString)
    (capacity refillPerSecond : ℚ) : List ℤ × BucketStore :=
  let nowMs := time.nowMs
  let tokens := refilledTokens capacity refillPerSecond (store.read nowMs key) nowMs
  let written := fun (tokens : ℚ) =>
    store.write key ⟨tokens, nowMs⟩ (nowMs + ttlSeconds capacity refillPerSecond * 1000)
  if cost ≤ tokens then ([1, ⌊tokens - cost⌋, 0], written (tokens - cost))
  else ([0, ⌊tokens⌋, max 1 ⌈(cost - tokens) / refillPerSecond⌉], written tokens)

/-! ### Calls -/

def bucketKey (subject : JsString) : JsString :=
  JsString.ofString "modelmux:rate-limit:\x7b" ++ subject ++ JsString.ofString "\x7d"

/-- `isTokenBucketResult` and the decision made of the result; the integers that a
script returns are finite numbers. -/
def readResult : List ℤ → Except RateLimiterUnavailableError RateLimitDecision
  | [allowed, remaining, retryAfterSeconds] =>
      .ok
        { allowed := allowed = 1
          remaining := remaining
          retryAfterSeconds := retryAfterSeconds }
  | _ => .error ⟨.invalidResult⟩

def consume (store : BucketStore) (time : RedisTime) (subject : JsString) (policy : RateLimitPolicy) :
    Except RateLimiterUnavailableError RateLimitDecision × BucketStore :=
  match validatePolicy policy, policy.capacity, policy.refillPerSecond with
  | .ok (), .finite capacity, .finite refillPerSecond =>
      let evaluated := tokenBucketScript store time (bucketKey subject) capacity refillPerSecond
      (readResult evaluated.1, evaluated.2)
  -- Never taken: a policy that passes the check has finite numbers.
  | .ok (), _, _ => (.error ⟨.invalidPolicy⟩, store)
  | .error error, _, _ => (.error error, store)

structure ConsumeCall where
  time : RedisTime
  subject : JsString
  policy : RateLimitPolicy
  result : Except RateLimiterUnavailableError RateLimitDecision

def ConsumeStep (before : BucketStore) (call : ConsumeCall) (after : BucketStore) : Prop :=
  consume before call.time call.subject call.policy = (call.result, after)

theorem consumeStep_of_result {store : BucketStore} (call : ConsumeCall)
    (result : (consume store call.time call.subject call.policy).1 = call.result) :
    ConsumeStep store call (consume store call.time call.subject call.policy).2 :=
  Prod.ext result rfl

end ModelMux.RateLimit
