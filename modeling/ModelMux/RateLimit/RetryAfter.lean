/-
What a refusal promises.

A refused call is told how many seconds to wait.  Refused calls take nothing
out of the bucket, so that the hash of any number of them stands for the same
bucket as the hash of the first one: the next call that waits for so long is
allowed, and none is allowed more than a second earlier.
-/

import ModelMux.RateLimit.BucketBounds

namespace ModelMux.RateLimit

variable {bucket : AcceptedPolicy} {subject : JsString} {store after : BucketStore}
  {call : ConsumeCall}

/-! ### Buckets with any past -/

def Unindebted (subject : JsString) (store : BucketStore) : Prop :=
  ∀ entry, store (bucketKey subject) = some entry → 0 ≤ entry.value.tokens

theorem Unindebted.found_nonneg (unindebted : Unindebted subject store) (nowMs : ℤ) :
    0 ≤ bucket.foundAt store subject nowMs := by
  rw [AcceptedPolicy.foundAt, ExpiringStore.read]
  cases present : store (bucketKey subject) with
  | none =>
      rw [AcceptedPolicy.found_none]
      exact bucket.rate.capacityPositive
  | some entry =>
      dsimp only
      split_ifs
      · rw [AcceptedPolicy.found_some]
        exact bucket.rate.refill_nonneg (unindebted entry present) (Nat.cast_nonneg _)
      · rw [AcceptedPolicy.found_none]
        exact bucket.rate.capacityPositive

theorem consume_rejected {time : RedisTime} {policy : RateLimitPolicy}
    {error : RateLimiterUnavailableError} (rejected : validatePolicy policy = .error error) :
    consume store time subject policy = (.error error, store) := by
  rw [consume, rejected]

theorem unindebted_step (unindebted : Unindebted subject store)
    (taken : ConsumeStep store call after) : Unindebted subject after := by
  by_cases own : call.subject = subject
  · cases checked : validatePolicy call.policy with
    | error error =>
        rw [ConsumeStep, consume_rejected checked] at taken
        obtain ⟨_, rfl⟩ := Prod.mk.inj taken
        exact unindebted
    | ok _ =>
        obtain ⟨bucket, policy⟩ := AcceptedPolicy.validatePolicy_ok_iff.mp checked
        obtain ⟨_, granted, written⟩ := consume_found own policy.symm taken
        intro entry present
        rw [written] at present
        cases present
        exact BucketRate.sub_cost_nonneg (unindebted.found_nonneg _) granted.mp
  · intro entry present
    rw [consume_other own taken] at present
    exact unindebted entry present

theorem unindebted_run {calls : List ConsumeCall}
    (run : Run ConsumeStep ExpiringStore.empty calls store) : Unindebted subject store := by
  apply run.invariant (Unindebted subject)
  · intro entry impossible
    cases impossible
  · intro state event next unindebted taken
    exact unindebted_step unindebted taken

/-! ### The seconds to wait -/

def AcceptedPolicy.retryAfter (bucket : AcceptedPolicy) (tokens : ℚ) : ℤ :=
  max 1 ⌈(1 - tokens) / bucket.refillPerSecond⌉

theorem token_of_waited {tokens waitedMs : ℚ}
    (waited : 1000 * (bucket.retryAfter tokens : ℚ) ≤ waitedMs) :
    1 ≤ bucket.rate.refill tokens waitedMs := by
  have refills := bucket.refillPositive
  have capacity : (1 : ℚ) ≤ bucket.capacity := by exact_mod_cast bucket.capacityPositive
  have rounded : (1 - tokens) / bucket.refillPerSecond ≤ bucket.retryAfter tokens := by
    have above : ⌈(1 - tokens) / bucket.refillPerSecond⌉ ≤ bucket.retryAfter tokens :=
      le_max_right _ _
    exact (Int.le_ceil _).trans (by exact_mod_cast above)
  have enough : 1 - tokens ≤ bucket.retryAfter tokens * bucket.refillPerSecond :=
    (div_le_iff₀ refills).mp rounded
  have gained : bucket.refillPerSecond / 1000 * (1000 * (bucket.retryAfter tokens : ℚ)) ≤
      bucket.refillPerSecond / 1000 * waitedMs :=
    mul_le_mul_of_nonneg_left waited (div_nonneg refills.le (by norm_num))
  apply le_min
  · exact capacity
  · simp only [AcceptedPolicy.rate]
    linarith

theorem no_token_before {tokens waitedMs : ℚ} (long : 1 < bucket.retryAfter tokens)
    (early : waitedMs < 1000 * ((bucket.retryAfter tokens : ℚ) - 1)) :
    bucket.rate.refill tokens waitedMs < 1 := by
  have refills := bucket.refillPositive
  have rounded : bucket.retryAfter tokens = ⌈(1 - tokens) / bucket.refillPerSecond⌉ := by
    unfold AcceptedPolicy.retryAfter at long ⊢
    omega
  have missing : (bucket.retryAfter tokens : ℚ) - 1 < (1 - tokens) / bucket.refillPerSecond := by
    have below := Int.ceil_lt_add_one ((1 - tokens) / bucket.refillPerSecond)
    rw [rounded]
    linarith
  have short : ((bucket.retryAfter tokens : ℚ) - 1) * bucket.refillPerSecond < 1 - tokens :=
    (lt_div_iff₀ refills).mp missing
  have gained : bucket.refillPerSecond / 1000 * waitedMs ≤
      bucket.refillPerSecond / 1000 * (1000 * ((bucket.retryAfter tokens : ℚ) - 1)) :=
    mul_le_mul_of_nonneg_left early.le (div_nonneg refills.le (by norm_num))
  apply min_lt_of_right_lt
  simp only [AcceptedPolicy.rate]
  linarith

/-- The hash of a refused call lives as long as the call is told to wait. -/
theorem retryAfter_le_lifetime {tokens : ℚ} (held : 0 ≤ tokens) :
    1000 * bucket.retryAfter tokens ≤ bucket.lifetime := by
  have refills := bucket.refillPositive
  have capacity : (1 : ℚ) ≤ bucket.capacity := by exact_mod_cast bucket.capacityPositive
  have seconds : (1 - tokens) / bucket.refillPerSecond ≤
      (bucket.capacity : ℚ) / bucket.refillPerSecond * 2 := by
    rw [div_mul_eq_mul_div]
    exact div_le_div_of_nonneg_right (by linarith) refills.le
  have rounded := Int.ceil_le_ceil seconds
  unfold AcceptedPolicy.retryAfter AcceptedPolicy.lifetime ttlSeconds
  omega

/-! ### Polling -/

/-- The store stands for a bucket that held some tokens at a time and has not been
taken from since, at every time that no poll has passed. -/
def Awaiting (bucket : AcceptedPolicy) (subject : JsString) (tokens : ℚ) (sinceMs : ℤ)
    (polls : List ConsumeCall) (store : BucketStore) : Prop :=
  ∀ nowMs : ℤ, sinceMs ≤ nowMs →
    (∀ poll ∈ polls, poll.subject = subject → poll.time.nowMs ≤ nowMs) →
    bucket.foundAt store subject nowMs = bucket.rate.refill tokens ((nowMs : ℚ) - sinceMs)

variable {tokens : ℚ} {sinceMs : ℤ} {polls : List ConsumeCall}

theorem awaiting_stored (held : 0 ≤ tokens) (stored : StoredAt bucket subject store tokens sinceMs) :
    Awaiting bucket subject tokens sinceMs [] store := by
  intro nowMs begun _
  rw [foundAt_stored stored held, elapsed_of_le begun]

theorem awaiting_other (other : call.subject ≠ subject)
    (awaiting : Awaiting bucket subject tokens sinceMs polls store)
    (taken : ConsumeStep store call after) :
    Awaiting bucket subject tokens sinceMs (polls ++ [call]) after := by
  intro nowMs begun later
  rw [AcceptedPolicy.foundAt, ExpiringStore.read_of_eq (consume_other other taken)]
  exact awaiting nowMs begun (fun poll member => later poll (List.mem_append_left _ member))

/-- A refused poll writes its own time and loses nothing by it. -/
theorem awaiting_refused (held : 0 ≤ tokens) (own : call.subject = subject)
    (policy : call.policy = bucket.policy) (refused : call.granted = false)
    (awaiting : Awaiting bucket subject tokens sinceMs polls store)
    (begun : sinceMs ≤ call.time.nowMs)
    (later : ∀ poll ∈ polls, poll.subject = subject → poll.time.nowMs ≤ call.time.nowMs)
    (taken : ConsumeStep store call after) :
    Awaiting bucket subject tokens sinceMs (polls ++ [call]) after := by
  obtain ⟨_, _, written⟩ := consume_found own policy taken
  have free : BucketRate.cost call.bucketCall = 0 := by
    simp [BucketRate.cost, ConsumeCall.bucketCall, refused]
  have waited : (0 : ℚ) ≤ (call.time.nowMs : ℚ) - sinceMs := by
    exact_mod_cast sub_nonneg.mpr begun
  rw [free, sub_zero, awaiting call.time.nowMs begun later] at written
  intro nowMs _ reached
  have passed : call.time.nowMs ≤ nowMs := reached call (by simp) own
  have gained : (0 : ℚ) ≤ (nowMs : ℚ) - call.time.nowMs := by
    exact_mod_cast sub_nonneg.mpr passed
  rw [foundAt_stored written (bucket.rate.refill_nonneg held waited), elapsed_of_le passed,
    BucketRate.refill_refill _ _ _ gained]
  congr 1
  ring

/-- The calls of the subject keep its policy, and their times begin at a time and do
not decrease. -/
structure Polling (bucket : AcceptedPolicy) (subject : JsString) (sinceMs : ℤ)
    (polls : List ConsumeCall) : Prop where
  fixed : ∀ poll ∈ polls, poll.subject = subject → poll.policy = bucket.policy
  begun : ∀ poll ∈ polls, poll.subject = subject → sinceMs ≤ poll.time.nowMs
  ordered : (polls.filter (fun poll => poll.subject = subject)).Pairwise
    (fun earlier later => earlier.time.nowMs ≤ later.time.nowMs)

theorem Polling.earlier (left right : List ConsumeCall)
    (polling : Polling bucket subject sinceMs (left ++ right)) :
    Polling bucket subject sinceMs left where
  fixed := fun poll member => polling.fixed poll (List.mem_append_left _ member)
  begun := fun poll member => polling.begun poll (List.mem_append_left _ member)
  ordered := by
    have ordered := polling.ordered
    rw [List.filter_append, List.pairwise_append] at ordered
    exact ordered.1

theorem Polling.upTo {later rest : List ConsumeCall} (polling : Polling bucket subject sinceMs later)
    (split : later = polls ++ call :: rest) : Polling bucket subject sinceMs (polls ++ [call]) := by
  apply Polling.earlier _ rest
  rw [List.append_assoc, List.singleton_append, ← split]
  exact polling

theorem Polling.before (polling : Polling bucket subject sinceMs (polls ++ [call]))
    (own : call.subject = subject) :
    ∀ poll ∈ polls, poll.subject = subject → poll.time.nowMs ≤ call.time.nowMs := by
  have ordered := polling.ordered
  rw [List.filter_append, List.pairwise_append] at ordered
  intro poll member same
  exact ordered.2.2 poll (by simp [member, same]) call (by simp [own])

theorem awaiting_run (held : 0 ≤ tokens)
    (begins : Awaiting bucket subject tokens sinceMs [] store)
    (onward : Run ConsumeStep store polls after) (polling : Polling bucket subject sinceMs polls)
    (refused : ∀ poll ∈ polls, poll.subject = subject → poll.granted = false) :
    Awaiting bucket subject tokens sinceMs polls after := by
  induction onward with
  | refl => exact begins
  | @snoc first last history poll upTo taken ih =>
      have awaiting := ih (polling.earlier _ _)
        (fun earlier member => refused earlier (List.mem_append_left _ member))
      by_cases own : poll.subject = subject
      · exact awaiting_refused held own (polling.fixed poll (by simp) own)
          (refused poll (by simp) own) awaiting (polling.begun poll (by simp) own)
          (polling.before own) taken
      · exact awaiting_other own awaiting taken

/-! ### The promise -/

/-- What a refusal says about the later calls of its subject. -/
structure RetryAfterKept (refused : ConsumeCall) (retryAfterSeconds : ℤ) (after : BucketStore)
    (later : List ConsumeCall) : Prop where
  sufficient : ∀ (polls : List ConsumeCall) (call : ConsumeCall) (rest : List ConsumeCall),
    later = polls ++ call :: rest →
    call.subject = refused.subject →
    (∀ poll ∈ polls, poll.subject = refused.subject → poll.granted = false) →
    refused.time.nowMs + 1000 * retryAfterSeconds ≤ call.time.nowMs → call.granted = true
  tight : 1 < retryAfterSeconds → ∀ call ∈ later, call.subject = refused.subject →
    call.time.nowMs < refused.time.nowMs + 1000 * (retryAfterSeconds - 1) →
    ∃ decision, call.result = .ok decision ∧ decision.allowed = false
  unpostponed : ∀ (polls : List ConsumeCall) (call : ConsumeCall) (rest : List ConsumeCall),
    later = polls ++ call :: rest →
    call.subject = refused.subject →
    (∀ poll ∈ polls, poll.subject = refused.subject → poll.granted = false) →
    call.result = (consume after call.time call.subject call.policy).1
  unexpired : ∀ entry, after (bucketKey refused.subject) = some entry →
    refused.time.nowMs + 1000 * retryAfterSeconds ≤ entry.expiresAt

section Promise

variable {refused : ConsumeCall} {later : List ConsumeCall} {last : BucketStore}

theorem refused_found {remaining retryAfterSeconds : ℤ} (unindebted : Unindebted refused.subject store)
    (taken : ConsumeStep store refused after)
    (answer : refused.result = .ok ⟨false, remaining, retryAfterSeconds⟩) :
    ∃ (bucket : AcceptedPolicy) (tokens : ℚ), bucket.policy = refused.policy ∧ 0 ≤ tokens ∧
      retryAfterSeconds = bucket.retryAfter tokens ∧
      StoredAt bucket refused.subject after tokens refused.time.nowMs := by
  cases checked : validatePolicy refused.policy with
  | error error =>
      rw [ConsumeStep, consume_rejected checked] at taken
      obtain ⟨result, _⟩ := Prod.mk.inj taken
      rw [answer] at result
      cases result
  | ok _ =>
      obtain ⟨bucket, policy⟩ := AcceptedPolicy.validatePolicy_ok_iff.mp checked
      obtain ⟨result, granted, written⟩ := consume_found rfl policy.symm taken
      have denied : refused.granted = false := by
        rw [ConsumeCall.granted, answer]
      have free : BucketRate.cost refused.bucketCall = 0 := by
        simp [BucketRate.cost, ConsumeCall.bucketCall, denied]
      have missing : ¬1 ≤ bucket.foundAt store refused.subject refused.time.nowMs := by
        intro token
        rw [granted.mpr token] at denied
        cases denied
      rw [free, sub_zero] at written
      rw [answer, AcceptedPolicy.decision, if_neg missing] at result
      cases result
      exact ⟨bucket, _, policy, unindebted.found_nonneg _, rfl, written⟩

/-- After refused polls a call of the subject is answered as if there had been none. -/
theorem answer_awaited (held : 0 ≤ tokens)
    (stored : StoredAt bucket subject store tokens sinceMs)
    (onward : Run ConsumeStep store later last) (polling : Polling bucket subject sinceMs later)
    {rest : List ConsumeCall} (split : later = polls ++ call :: rest) (own : call.subject = subject)
    (refused : ∀ poll ∈ polls, poll.subject = subject → poll.granted = false) :
    call.result =
      .ok (bucket.decision (bucket.rate.refill tokens ((call.time.nowMs : ℚ) - sinceMs))) := by
  have begun := polling.upTo split
  subst split
  obtain ⟨before, next, upTo, taken, _⟩ := onward.split_event polls rest call
  have awaiting := awaiting_run held (awaiting_stored held stored) upTo (begun.earlier _ _) refused
  obtain ⟨result, _, _⟩ := consume_found own (begun.fixed call (by simp) own) taken
  rw [result, awaiting _ (begun.begun call (by simp) own) (begun.before own)]

/-- All calls that come too early are refused.  The calls before an early call are
early themselves. -/
theorem refused_early (held : 0 ≤ tokens) (stored : StoredAt bucket subject store tokens sinceMs)
    (onward : Run ConsumeStep store later last) (polling : Polling bucket subject sinceMs later)
    (long : 1 < bucket.retryAfter tokens) {rest : List ConsumeCall}
    (split : later = polls ++ call :: rest) (own : call.subject = subject)
    (early : call.time.nowMs < sinceMs + 1000 * (bucket.retryAfter tokens - 1)) :
    ∃ decision, call.result = .ok decision ∧ decision.allowed = false := by
  induction size : polls.length using Nat.strong_induction_on generalizing polls call rest with
  | _ length ih =>
      have before := (polling.upTo split).before own
      have refusals : ∀ poll ∈ polls, poll.subject = subject → poll.granted = false := by
        intro poll member same
        obtain ⟨left, right, rfl⟩ := List.append_of_mem member
        have shorter : left.length < length := by simp [← size]
        have whole : later = left ++ poll :: (right ++ call :: rest) := by simp [split]
        obtain ⟨decision, result, denied⟩ := ih left.length shorter whole same
          ((before poll member same).trans_lt early) rfl
        rw [ConsumeCall.granted, result]
        exact denied
      have short : (call.time.nowMs : ℚ) - sinceMs <
          1000 * ((bucket.retryAfter tokens : ℚ) - 1) := by
        have whole : call.time.nowMs - sinceMs < 1000 * (bucket.retryAfter tokens - 1) := by omega
        exact_mod_cast whole
      refine ⟨_, answer_awaited held stored onward polling split own refusals, ?_⟩
      have missing := no_token_before long short
      rw [Bool.eq_false_iff, ne_eq, AcceptedPolicy.decision_allowed_iff, not_le]
      exact missing

/-- Whatever the calls before were, and whatever other subjects do: a refused call of
a subject that keeps its policy from then on is told how long it has to wait, up to
the rounding to seconds. -/
theorem retry_after_exact {before : List ConsumeCall}
    (reached : Run ConsumeStep ExpiringStore.empty before store)
    (taken : ConsumeStep store refused after) (onward : Run ConsumeStep after later last)
    {remaining retryAfterSeconds : ℤ}
    (answer : refused.result = .ok ⟨false, remaining, retryAfterSeconds⟩)
    (fixed : ∀ call ∈ later, call.subject = refused.subject → call.policy = refused.policy)
    (clock : ((refused :: later).filter (fun call => call.subject = refused.subject)).Pairwise
      (fun earlier later => earlier.time.nowMs ≤ later.time.nowMs)) :
    RetryAfterKept refused retryAfterSeconds after later := by
  obtain ⟨bucket, tokens, policy, held, rfl, stored⟩ :=
    refused_found (unindebted_run reached) taken answer
  have polling : Polling bucket refused.subject refused.time.nowMs later := by
    rw [List.filter_cons_of_pos (by simp), List.pairwise_cons] at clock
    refine ⟨fun poll member own => (fixed poll member own).trans policy.symm, ?_, clock.2⟩
    intro poll member own
    exact clock.1 poll (by simp [member, own])
  constructor
  · intro polls call rest split own refusals waited
    have long : 1000 * (bucket.retryAfter tokens : ℚ) ≤
        (call.time.nowMs : ℚ) - refused.time.nowMs := by
      have whole : 1000 * bucket.retryAfter tokens ≤ call.time.nowMs - refused.time.nowMs := by
        omega
      exact_mod_cast whole
    rw [ConsumeCall.granted, answer_awaited held stored onward polling split own refusals]
    exact AcceptedPolicy.decision_allowed_iff.mpr (token_of_waited long)
  · intro long call member own early
    obtain ⟨polls, rest, split⟩ := List.append_of_mem member
    exact refused_early held stored onward polling long split own early
  · intro polls call rest split own refusals
    have member : call ∈ later := by simp [split]
    have begun := polling.begun call member own
    rw [answer_awaited held stored onward polling split own refusals, own,
      polling.fixed call member own, AcceptedPolicy.consume_eq, foundAt_stored stored held,
      elapsed_of_le begun]
  · intro entry present
    rw [stored] at present
    cases present
    have lives : 1000 * bucket.retryAfter tokens ≤ bucket.lifetime := retryAfter_le_lifetime held
    dsimp only
    omega

/-- An empty bucket that gains a token in two seconds: half a second later the call is
refused again, and after two seconds it is allowed. -/
theorem retry_after_exact_polled :
    let subject := JsString.ofString "key-123"
    let policy : RateLimitPolicy := ⟨.finite 1, .finite (1 / 2)⟩
    let refused : ConsumeCall := ⟨⟨100, 0⟩, subject, policy, .ok ⟨false, 0, 2⟩⟩
    let poll : ConsumeCall := ⟨⟨100, 500000⟩, subject, policy, .ok ⟨false, 0, 2⟩⟩
    let call : ConsumeCall := ⟨⟨102, 0⟩, subject, policy, .ok ⟨true, 0, 0⟩⟩
    ∃ after, RetryAfterKept refused 2 after [poll, call] ∧ call.granted = true := by
  intro subject policy refused poll call
  let first : ConsumeCall := ⟨⟨100, 0⟩, subject, policy, .ok ⟨true, 0, 0⟩⟩
  have emptied := Run.single (consumeStep_of_result first
    (by decide +kernel : (consume ExpiringStore.empty first.time subject policy).1 = first.result))
  let store := (consume ExpiringStore.empty first.time subject policy).2
  have taken := consumeStep_of_result refused
    (by decide +kernel : (consume store refused.time subject policy).1 = refused.result)
  let after := (consume store refused.time subject policy).2
  have polled := Run.single (consumeStep_of_result poll
    (by decide +kernel : (consume after poll.time subject policy).1 = poll.result))
  have onward := polled.snoc (consumeStep_of_result call (by decide +kernel))
  have kept := retry_after_exact emptied taken onward rfl (by simp [poll, call, refused])
    (by decide +kernel)
  refine ⟨after, kept, kept.sufficient [poll] call [] rfl rfl ?_ (by decide +kernel)⟩
  simp [poll, ConsumeCall.granted]

end Promise

end ModelMux.RateLimit
