/-
The bucket in Redis is the ideal bucket.

Under one accepted policy the script finds, at every call of a subject, as
many tokens as the ideal bucket holds after the earlier calls.  A hash that
has expired stands for a bucket that would be full again, so that the expiry
makes no difference.
-/

import ModelMux.Foundation.TokenBucket
import ModelMux.RateLimit.RedisTokenBucket

namespace ModelMux.RateLimit

structure AcceptedPolicy where
  capacity : ℕ
  refillPerSecond : ℚ
  capacityPositive : 1 ≤ capacity
  refillPositive : 0 < refillPerSecond

namespace AcceptedPolicy

def policy (bucket : AcceptedPolicy) : RateLimitPolicy :=
  ⟨.finite bucket.capacity, .finite bucket.refillPerSecond⟩

def rate (bucket : AcceptedPolicy) : BucketRate ℚ :=
  { capacity := bucket.capacity
    perUnit := bucket.refillPerSecond / 1000
    capacityPositive := Nat.cast_nonneg _
    ratePositive := div_nonneg bucket.refillPositive.le (by norm_num) }

def found (bucket : AcceptedPolicy) (state : Option BucketHash) (nowMs : ℤ) : ℚ :=
  refilledTokens bucket.capacity bucket.refillPerSecond state nowMs

def lifetime (bucket : AcceptedPolicy) : ℤ :=
  ttlSeconds bucket.capacity bucket.refillPerSecond * 1000

variable {bucket : AcceptedPolicy}

theorem validatePolicy_finite {capacity refillPerSecond : ℚ} :
    validatePolicy ⟨.finite capacity, .finite refillPerSecond⟩ = .ok () ↔
      capacity.den = 1 ∧ 1 ≤ capacity ∧ 0 < refillPerSecond := by
  have positive : (JsNumber.finite refillPerSecond).atMost (.finite 0) = true ↔
      refillPerSecond ≤ 0 := by
    simp [JsNumber.atMost, JsNumber.lessThan, le_iff_lt_or_eq]
  unfold validatePolicy
  split
  · rename_i rejected
    simp only [JsNumber.isInteger, JsNumber.isFinite, JsNumber.lessThan, Bool.or_eq_true,
      Bool.not_eq_true', decide_eq_false_iff_not, decide_eq_true_eq, positive] at rejected
    constructor
    · intro impossible
      cases impossible
    · rintro ⟨integral, large, refills⟩
      rcases rejected with ((fractional | small) | infinite) | empty
      · exact absurd integral fractional
      · exact absurd large (not_le.mpr small)
      · cases infinite
      · exact absurd empty (not_le.mpr refills)
  · rename_i passed
    simp only [JsNumber.isInteger, JsNumber.isFinite, JsNumber.lessThan, Bool.or_eq_true,
      Bool.not_eq_true', decide_eq_false_iff_not, decide_eq_true_eq, positive, not_or, not_not,
      not_lt, not_le] at passed
    obtain ⟨⟨⟨integral, large⟩, _⟩, refills⟩ := passed
    exact ⟨fun _ => ⟨integral, large, refills⟩, fun _ => rfl⟩

theorem validatePolicy_ok_iff {policy : RateLimitPolicy} :
    validatePolicy policy = .ok () ↔ ∃ bucket : AcceptedPolicy, bucket.policy = policy := by
  constructor
  · intro accepted
    obtain ⟨capacity, refillPerSecond⟩ := policy
    cases capacity with
    | infinite negative => cases accepted
    | notANumber => cases accepted
    | finite capacity =>
        cases refillPerSecond with
        | infinite negative =>
            simp [validatePolicy, JsNumber.isFinite] at accepted
        | notANumber =>
            simp [validatePolicy, JsNumber.isFinite] at accepted
        | finite refillPerSecond =>
            obtain ⟨integral, large, refills⟩ := validatePolicy_finite.mp accepted
            have whole : ((capacity.num.toNat : ℕ) : ℚ) = capacity := by
              have positive : 0 ≤ capacity.num := Rat.num_nonneg.mpr (zero_le_one.trans large)
              calc ((capacity.num.toNat : ℕ) : ℚ)
                  = ((capacity.num.toNat : ℤ) : ℚ) := rfl
                _ = capacity.num := by rw [Int.toNat_of_nonneg positive]
                _ = capacity := Rat.coe_int_num_of_den_eq_one integral
            have atLeastOne : 1 ≤ capacity.num.toNat := by
              rw [← whole] at large
              exact_mod_cast large
            refine ⟨⟨capacity.num.toNat, refillPerSecond, atLeastOne, refills⟩, ?_⟩
            simp only [policy, whole]
  · rintro ⟨bucket, rfl⟩
    apply validatePolicy_finite.mpr
    exact ⟨Rat.den_natCast _, by exact_mod_cast bucket.capacityPositive, bucket.refillPositive⟩

/-- A bucket is full before its hash expires. -/
theorem capacity_le_lifetime (bucket : AcceptedPolicy) :
    (bucket.capacity : ℚ) ≤ bucket.rate.perUnit * bucket.lifetime := by
  have refills := bucket.refillPositive
  have capacity : (0 : ℚ) ≤ bucket.capacity := Nat.cast_nonneg _
  have rounded : (bucket.capacity : ℚ) / bucket.refillPerSecond * 2 ≤
      ttlSeconds bucket.capacity bucket.refillPerSecond := by
    have above : ⌈(bucket.capacity : ℚ) / bucket.refillPerSecond * 2⌉ ≤
        ttlSeconds bucket.capacity bucket.refillPerSecond := le_max_right _ _
    exact (Int.le_ceil _).trans (by exact_mod_cast above)
  calc (bucket.capacity : ℚ)
      ≤ bucket.capacity * 2 := by linarith
    _ = bucket.refillPerSecond * (bucket.capacity / bucket.refillPerSecond * 2) := by
        field_simp
    _ ≤ bucket.refillPerSecond * ttlSeconds bucket.capacity bucket.refillPerSecond :=
        mul_le_mul_of_nonneg_left rounded refills.le
    _ = bucket.rate.perUnit * bucket.lifetime := by
        simp only [rate, lifetime, Int.cast_mul, Int.cast_ofNat]
        ring

theorem found_none (bucket : AcceptedPolicy) (nowMs : ℤ) :
    bucket.found none nowMs = bucket.capacity := by
  simp [found, refilledTokens]

theorem found_some (bucket : AcceptedPolicy) (hash : BucketHash) (nowMs : ℤ) :
    bucket.found (some hash) nowMs =
      bucket.rate.refill hash.tokens ((nowMs - hash.updatedAtMs).toNat : ℚ) := by
  have elapsed : max 0 ((nowMs - hash.updatedAtMs : ℤ) : ℚ) =
      ((nowMs - hash.updatedAtMs).toNat : ℚ) := by
    have whole : (((nowMs - hash.updatedAtMs).toNat : ℕ) : ℤ) = max 0 (nowMs - hash.updatedAtMs) := by
      omega
    exact_mod_cast (congrArg (fun value : ℤ => (value : ℚ)) whole).symm
  simp only [found, refilledTokens, BucketRate.refill, rate, elapsed]
  congr 2
  ring

/-! ### A call under an accepted policy -/

def decision (bucket : AcceptedPolicy) (tokens : ℚ) : RateLimitDecision :=
  if 1 ≤ tokens then ⟨true, ⌊tokens - 1⌋, 0⟩
  else ⟨false, ⌊tokens⌋, max 1 ⌈(1 - tokens) / bucket.refillPerSecond⌉⟩

theorem decision_allowed_iff {tokens : ℚ} : (bucket.decision tokens).allowed = true ↔ 1 ≤ tokens := by
  unfold decision
  split
  · rename_i token
    simp [token]
  · rename_i missing
    simp [missing]

def foundAt (bucket : AcceptedPolicy) (store : BucketStore) (subject : JsString) (nowMs : ℤ) : ℚ :=
  bucket.found (store.read nowMs (bucketKey subject)) nowMs

/-- A call takes a token if it finds one and writes back what is left. -/
theorem consume_eq (bucket : AcceptedPolicy) (store : BucketStore) (time : RedisTime)
    (subject : JsString) :
    let tokens := bucket.foundAt store subject time.nowMs
    consume store time subject bucket.policy =
      (.ok (bucket.decision tokens),
        store.write (bucketKey subject)
          ⟨tokens - BucketRate.cost ⟨(time.nowMs : ℚ), (bucket.decision tokens).allowed⟩, time.nowMs⟩
          (time.nowMs + bucket.lifetime)) := by
  intro tokens
  have accepted : validatePolicy bucket.policy = .ok () := validatePolicy_ok_iff.mpr ⟨bucket, rfl⟩
  have evaluated : consume store time subject bucket.policy =
      (readResult (tokenBucketScript store time (bucketKey subject) bucket.capacity
          bucket.refillPerSecond).1,
        (tokenBucketScript store time (bucketKey subject) bucket.capacity
          bucket.refillPerSecond).2) := by
    rw [consume, accepted]
    rfl
  have refilled : refilledTokens bucket.capacity bucket.refillPerSecond
      (store.read time.nowMs (bucketKey subject)) time.nowMs = tokens := rfl
  rw [evaluated]
  by_cases token : 1 ≤ tokens
  · simp [tokenBucketScript, refilled, cost, token, readResult, decision, BucketRate.cost, lifetime]
  · simp [tokenBucketScript, refilled, cost, token, readResult, decision, BucketRate.cost, lifetime]

end AcceptedPolicy

theorem bucketKey_injective {left right : JsString} (same : bucketKey left = bucketKey right) :
    left = right :=
  List.append_cancel_left (List.append_cancel_right same)

theorem tokenBucketScript_other (store : BucketStore) (time : RedisTime) {key other : JsString}
    (different : other ≠ key) (capacity refillPerSecond : ℚ) :
    (tokenBucketScript store time key capacity refillPerSecond).2 other = store other := by
  unfold tokenBucketScript
  dsimp only
  split
  · exact ExpiringStore.write_other different
  · exact ExpiringStore.write_other different

theorem consume_other {store after : BucketStore} {call : ConsumeCall} {subject : JsString}
    (different : call.subject ≠ subject) (taken : ConsumeStep store call after) :
    after (bucketKey subject) = store (bucketKey subject) := by
  have keys : bucketKey subject ≠ bucketKey call.subject :=
    fun same => different (bucketKey_injective same).symm
  have unchanged : ((consume store call.time call.subject call.policy).2) (bucketKey subject) =
      store (bucketKey subject) := by
    unfold consume
    split
    · exact tokenBucketScript_other _ _ keys _ _
    · rfl
    · rfl
  rw [← unchanged, taken]

/-! ### Histories -/

def ConsumeCall.granted (call : ConsumeCall) : Bool :=
  match call.result with
  | .ok decision => decision.allowed
  | .error _ => false

def ConsumeCall.bucketCall (call : ConsumeCall) : BucketCall ℚ :=
  ⟨call.time.nowMs, call.granted⟩

/-- The calls of a subject, as the ideal bucket sees them. -/
def bucketCalls (subject : JsString) (calls : List ConsumeCall) : List (BucketCall ℚ) :=
  (calls.filter (fun call => call.subject = subject)).map ConsumeCall.bucketCall

theorem bucketCalls_snoc_self {subject : JsString} {calls : List ConsumeCall} {call : ConsumeCall}
    (own : call.subject = subject) :
    bucketCalls subject (calls ++ [call]) = bucketCalls subject calls ++ [call.bucketCall] := by
  simp [bucketCalls, own]

theorem bucketCalls_snoc_other {subject : JsString} {calls : List ConsumeCall} {call : ConsumeCall}
    (other : call.subject ≠ subject) :
    bucketCalls subject (calls ++ [call]) = bucketCalls subject calls := by
  simp [bucketCalls, other]

/-- The subject keeps its policy and its calls are made at nondecreasing times. -/
structure SteadyCalls (bucket : AcceptedPolicy) (subject : JsString) (calls : List ConsumeCall) :
    Prop where
  fixed : ∀ call ∈ calls, call.subject = subject → call.policy = bucket.policy
  ordered : BucketRate.Ordered (bucketCalls subject calls)

variable {bucket : AcceptedPolicy} {subject : JsString} {calls : List ConsumeCall}
  {store after : BucketStore} {call : ConsumeCall}

theorem SteadyCalls.earlier (before later : List ConsumeCall)
    (steady : SteadyCalls bucket subject (before ++ later)) : SteadyCalls bucket subject before := by
  constructor
  · intro call member
    exact steady.fixed call (List.mem_append_left _ member)
  · have ordered := steady.ordered
    simp only [BucketRate.Ordered, bucketCalls, List.filter_append, List.map_append,
      List.pairwise_append] at ordered
    exact ordered.1

structure BucketInvariant (bucket : AcceptedPolicy) (subject : JsString) (calls : List ConsumeCall)
    (store : BucketStore) : Prop where
  covered : bucket.rate.Covered (bucketCalls subject calls)
  tracked : ∀ nowMs : ℤ, (∀ call ∈ bucketCalls subject calls, call.time ≤ nowMs) →
    bucket.foundAt store subject nowMs = bucket.rate.level (bucketCalls subject calls) nowMs
  stored : ∀ entry, store (bucketKey subject) = some entry →
    0 ≤ entry.value.tokens ∧ entry.value.tokens ≤ bucket.capacity

theorem bucketInvariant_initial (unused : store (bucketKey subject) = none) :
    BucketInvariant bucket subject [] store := by
  constructor
  · intro before call later split
    simp [bucketCalls] at split
  · intro nowMs _
    have unseen : store.read nowMs (bucketKey subject) = none := by
      rw [ExpiringStore.read, unused]
    rw [AcceptedPolicy.foundAt, unseen, AcceptedPolicy.found_none]
    rfl
  · intro entry present
    rw [unused] at present
    cases present

theorem bucketInvariant_other (other : call.subject ≠ subject)
    (invariant : BucketInvariant bucket subject calls store)
    (taken : ConsumeStep store call after) :
    BucketInvariant bucket subject (calls ++ [call]) after := by
  have same := consume_other other taken
  have history : bucketCalls subject (calls ++ [call]) = bucketCalls subject calls :=
    bucketCalls_snoc_other other
  constructor
  · rw [history]
    exact invariant.covered
  · intro nowMs later
    rw [history] at later ⊢
    rw [AcceptedPolicy.foundAt, ExpiringStore.read_of_eq same]
    exact invariant.tracked nowMs later
  · intro entry present
    exact invariant.stored entry (same ▸ present)

/-- The subject's hash holds the last reading and expires a lifetime later. -/
def StoredAt (bucket : AcceptedPolicy) (subject : JsString) (store : BucketStore) (tokens : ℚ)
    (reading : ℤ) : Prop :=
  store (bucketKey subject) = some ⟨⟨tokens, reading⟩, reading + bucket.lifetime⟩

theorem foundAt_unused (unused : store (bucketKey subject) = none) (nowMs : ℤ) :
    bucket.foundAt store subject nowMs = bucket.capacity := by
  rw [AcceptedPolicy.foundAt, ExpiringStore.read, unused]
  exact bucket.found_none nowMs

/-- Whether the hash has expired or not, a call finds the tokens left and those
for the time since the last reading. -/
theorem foundAt_stored {tokens : ℚ} {reading : ℤ} (held : StoredAt bucket subject store tokens reading)
    (remaining : 0 ≤ tokens) (nowMs : ℤ) :
    bucket.foundAt store subject nowMs =
      bucket.rate.refill tokens ((nowMs - reading).toNat : ℚ) := by
  rw [AcceptedPolicy.foundAt, ExpiringStore.read, held]
  dsimp only
  by_cases alive : nowMs < reading + bucket.lifetime
  · rw [if_pos alive, AcceptedPolicy.found_some]
  · have expired : (bucket.lifetime : ℚ) ≤ ((nowMs - reading).toNat : ℚ) := by
      have passed : bucket.lifetime ≤ ((nowMs - reading).toNat : ℤ) := by omega
      exact_mod_cast passed
    have full : bucket.rate.capacity ≤ bucket.rate.perUnit * ((nowMs - reading).toNat : ℚ) :=
      bucket.capacity_le_lifetime.trans
        (mul_le_mul_of_nonneg_left expired bucket.rate.ratePositive)
    rw [if_neg alive, AcceptedPolicy.found_none, BucketRate.refill, min_eq_left (by linarith)]
    rfl

theorem elapsed_of_le {reading nowMs : ℤ} (later : reading ≤ nowMs) :
    ((nowMs - reading).toNat : ℚ) = (nowMs : ℚ) - reading := by
  have whole : (((nowMs - reading).toNat : ℕ) : ℤ) = nowMs - reading :=
    Int.toNat_of_nonneg (sub_nonneg.mpr later)
  exact_mod_cast congrArg (fun value : ℤ => (value : ℚ)) whole

theorem consume_found (own : call.subject = subject) (policy : call.policy = bucket.policy)
    (taken : ConsumeStep store call after) :
    call.result = .ok (bucket.decision (bucket.foundAt store subject call.time.nowMs)) ∧
      (call.granted = true ↔ 1 ≤ bucket.foundAt store subject call.time.nowMs) ∧
      StoredAt bucket subject after
        (bucket.foundAt store subject call.time.nowMs - BucketRate.cost call.bucketCall)
        call.time.nowMs := by
  have evaluated := bucket.consume_eq store call.time subject
  rw [ConsumeStep, own, policy] at taken
  rw [taken] at evaluated
  obtain ⟨result, written⟩ := Prod.mk.inj evaluated
  have granted : call.granted =
      (bucket.decision (bucket.foundAt store subject call.time.nowMs)).allowed := by
    rw [ConsumeCall.granted, result]
  refine ⟨result, ?_, ?_⟩
  · rw [granted]
    exact AcceptedPolicy.decision_allowed_iff
  · rw [StoredAt, written, ConsumeCall.bucketCall, granted]
    exact ExpiringStore.write_self

theorem consume_own (invariant : BucketInvariant bucket subject calls store)
    (steady : SteadyCalls bucket subject (calls ++ [call])) (own : call.subject = subject)
    (taken : ConsumeStep store call after) :
    ∃ decision, call.result = .ok decision ∧
      (decision.allowed = true ↔
        1 ≤ bucket.rate.level (bucketCalls subject calls) call.time.nowMs) ∧
      StoredAt bucket subject after
        (bucket.rate.level (bucketCalls subject calls) call.time.nowMs -
          BucketRate.cost call.bucketCall) call.time.nowMs := by
  have ordered := steady.ordered
  rw [bucketCalls_snoc_self own] at ordered
  have later := (BucketRate.ordered_snoc.mp ordered).2
  have tracked := invariant.tracked call.time.nowMs later
  obtain ⟨result, _, written⟩ := consume_found own (steady.fixed call (by simp) own) taken
  rw [tracked] at result written
  exact ⟨_, result, AcceptedPolicy.decision_allowed_iff, written⟩

theorem bucketInvariant_own (invariant : BucketInvariant bucket subject calls store)
    (steady : SteadyCalls bucket subject (calls ++ [call])) (own : call.subject = subject)
    (taken : ConsumeStep store call after) :
    BucketInvariant bucket subject (calls ++ [call]) after := by
  obtain ⟨decision, result, allowed, written⟩ := consume_own invariant steady own taken
  have history : bucketCalls subject (calls ++ [call]) =
      bucketCalls subject calls ++ [call.bucketCall] := bucketCalls_snoc_self own
  have granted : call.bucketCall.allowed = decision.allowed := by
    rw [ConsumeCall.bucketCall, ConsumeCall.granted, result]
  have ordered := steady.ordered
  rw [history] at ordered
  obtain ⟨sorted, later⟩ := BucketRate.ordered_snoc.mp ordered
  have covered : bucket.rate.Covered (bucketCalls subject (calls ++ [call])) := by
    rw [history]
    exact BucketRate.covered_snoc.mpr
      ⟨invariant.covered, fun taken => allowed.mp (granted.symm.trans taken)⟩
  have held := BucketRate.level_nonneg invariant.covered sorted later
  have remaining : 0 ≤ bucket.rate.level (bucketCalls subject calls) call.time.nowMs -
      BucketRate.cost call.bucketCall :=
    BucketRate.sub_cost_nonneg held (fun paid => allowed.mp (granted.symm.trans paid))
  constructor
  · exact covered
  · intro nowMs reached
    rw [history] at reached ⊢
    have passed : call.time.nowMs ≤ nowMs := by
      have last := reached call.bucketCall (by simp)
      simpa [ConsumeCall.bucketCall] using last
    rw [BucketRate.level_snoc, foundAt_stored written remaining, elapsed_of_le passed]
    rfl
  · intro entry present
    rw [written] at present
    cases present
    refine ⟨remaining, ?_⟩
    have capped : bucket.rate.level (bucketCalls subject calls) call.time.nowMs ≤ bucket.capacity :=
      BucketRate.level_le_capacity _ _ _
    have paid : 0 ≤ BucketRate.cost call.bucketCall := by
      unfold BucketRate.cost
      split <;> norm_num
    exact (sub_le_self _ paid).trans capped

theorem bucketInvariant_run {initial : BucketStore} (run : Run ConsumeStep initial calls store)
    (unused : initial (bucketKey subject) = none) (steady : SteadyCalls bucket subject calls) :
    BucketInvariant bucket subject calls store := by
  induction run with
  | refl => exact bucketInvariant_initial unused
  | @snoc middle last history call before taken ih =>
      have invariant := ih (steady.earlier _ _)
      by_cases own : call.subject = subject
      · exact bucketInvariant_own invariant steady own taken
      · exact bucketInvariant_other own invariant taken

/-! ### The bound -/

def allowedCalls (subject : JsString) (calls : List ConsumeCall) (firstMs lastMs : ℤ) : ℕ :=
  calls.countP (fun call =>
    decide (call.subject = subject) && call.granted &&
      decide (firstMs ≤ call.time.nowMs) && decide (call.time.nowMs ≤ lastMs))

theorem allowedCalls_eq (subject : JsString) (calls : List ConsumeCall) (firstMs lastMs : ℤ) :
    allowedCalls subject calls firstMs lastMs =
      BucketRate.allowedWithin (bucketCalls subject calls) (firstMs : ℚ) lastMs := by
  unfold allowedCalls BucketRate.allowedWithin bucketCalls
  rw [List.countP_map, List.countP_filter]
  apply List.countP_congr
  intro call _
  simp only [Function.comp_apply, ConsumeCall.bucketCall, Int.cast_le, Bool.and_eq_true]
  tauto

theorem rate_bound {policy : RateLimitPolicy} {subject : JsString} {initial store : BucketStore}
    {calls : List ConsumeCall} (accepted : validatePolicy policy = .ok ())
    (unused : initial (bucketKey subject) = none) (run : Run ConsumeStep initial calls store)
    (fixed : ∀ call ∈ calls, call.subject = subject → call.policy = policy)
    (ordered : (calls.filter (fun call => call.subject = subject)).Pairwise
      (fun earlier later => earlier.time.nowMs ≤ later.time.nowMs)) :
    ∃ bucket : AcceptedPolicy, bucket.policy = policy ∧
      (∀ entry, store (bucketKey subject) = some entry →
        0 ≤ entry.value.tokens ∧ entry.value.tokens ≤ bucket.capacity) ∧
      (∀ firstMs lastMs : ℤ, firstMs ≤ lastMs →
        (allowedCalls subject calls firstMs lastMs : ℚ) ≤
          bucket.capacity + bucket.refillPerSecond * (lastMs - firstMs) / 1000) ∧
      (∀ before call later, calls = before ++ call :: later → call.subject = subject →
        ∃ decision, call.result = .ok decision ∧
          (decision.allowed = false →
            bucket.rate.level (bucketCalls subject before) call.time.nowMs < 1)) := by
  obtain ⟨bucket, rfl⟩ := AcceptedPolicy.validatePolicy_ok_iff.mp accepted
  have steady : SteadyCalls bucket subject calls := by
    refine ⟨fixed, ?_⟩
    rw [BucketRate.Ordered, bucketCalls, List.pairwise_map]
    exact ordered.imp (fun sorted => by simpa [ConsumeCall.bucketCall] using sorted)
  have invariant := bucketInvariant_run run unused steady
  refine ⟨bucket, rfl, invariant.stored, ?_, ?_⟩
  · intro firstMs lastMs window
    have bound := BucketRate.allowedWithin_le invariant.covered steady.ordered
      (Int.cast_le.mpr window : (firstMs : ℚ) ≤ lastMs)
    rw [allowedCalls_eq]
    refine bound.trans (le_of_eq ?_)
    simp only [AcceptedPolicy.rate]
    ring
  · rintro before call later rfl own
    obtain ⟨found, left, upTo, taken, _⟩ := run.split_event before later call
    have begun : SteadyCalls bucket subject (before ++ [call]) := by
      apply SteadyCalls.earlier _ later
      simpa using steady
    obtain ⟨decision, result, allowed, _⟩ :=
      consume_own (bucketInvariant_run upTo unused (begun.earlier _ _)) begun own taken
    refine ⟨decision, result, ?_⟩
    intro refused
    apply lt_of_not_ge
    intro token
    rw [allowed.mpr token] at refused
    cases refused

/-- The first call empties a bucket for one token, and the next one is refused. -/
theorem rate_bound_emptied :
    let policy : RateLimitPolicy := ⟨.finite 1, .finite (1 / 2)⟩
    let subject := JsString.ofString "key-123"
    let first : ConsumeCall := ⟨⟨100, 0⟩, subject, policy, .ok ⟨true, 0, 0⟩⟩
    let second : ConsumeCall := ⟨⟨101, 500999⟩, subject, policy, .ok ⟨false, 0, 1⟩⟩
    ∃ bucket : AcceptedPolicy, bucket.policy = policy ∧
      (allowedCalls subject [first, second] 100000 101500 : ℚ) ≤
        bucket.capacity + bucket.refillPerSecond * ((101500 : ℤ) - (100000 : ℤ)) / 1000 ∧
      bucket.rate.level (bucketCalls subject [first]) (101500 : ℤ) < 1 := by
  intro policy subject first second
  let initial : BucketStore := ExpiringStore.empty
  let middle := (consume initial first.time subject policy).2
  let store := (consume middle second.time subject policy).2
  have emptied : ConsumeStep initial first middle :=
    consumeStep_of_result first (by decide +kernel)
  have refused : ConsumeStep middle second store :=
    consumeStep_of_result second (by decide +kernel)
  have run : Run ConsumeStep initial [first, second] store := (Run.single emptied).snoc refused
  have accepted : validatePolicy policy = .ok () := by decide +kernel
  have fixed : ∀ call ∈ [first, second], call.subject = subject → call.policy = policy := by
    simp [first, second]
  obtain ⟨bucket, same, _, windows, refusals⟩ :=
    rate_bound accepted rfl run fixed (by decide +kernel)
  obtain ⟨decision, result, empty⟩ := refusals [first] second [] rfl rfl
  cases result
  exact ⟨bucket, same, windows 100000 101500 (by norm_num), empty rfl⟩

end ModelMux.RateLimit
