/-
The expiry of a bucket is not observable.

Two ways of running the same calls are compared: on a Redis that deletes a
hash as soon as its deadline has passed, and on one that deletes none.  The two
stores hold the same hashes wherever both hold one, and a hash that only the
second one still holds stands for a full bucket.
-/

import ModelMux.RateLimit.BucketBounds

namespace ModelMux.RateLimit

structure ConsumeRequest where
  time : RedisTime
  subject : JsString
  policy : RateLimitPolicy

abbrev ConsumeFunction :=
  BucketStore → RedisTime → JsString → RateLimitPolicy →
    Except RateLimiterUnavailableError RateLimitDecision × BucketStore

/-- `consume` on a Redis that has deleted no key by the time of the call. -/
def consumeUndeleted : ConsumeFunction := fun store time subject policy =>
  consume (store.undeleted time.nowMs) time subject policy

def decisions (answer : ConsumeFunction) :
    BucketStore → List ConsumeRequest → List (Except RateLimiterUnavailableError RateLimitDecision)
  | _, [] => []
  | store, request :: rest =>
      let answered := answer store request.time request.subject request.policy
      answered.1 :: decisions answer answered.2 rest

/-! ### Two stores -/

/-- The hash of the subject is the same in both stores.  Its deadline is the one
set by the script in the first store and does not matter in the second one. -/
inductive SameHash (bucket : AcceptedPolicy) (subject : JsString) (store kept : BucketStore) : Prop
  | unused (absent : store (bucketKey subject) = none)
      (absentKept : kept (bucketKey subject) = none) : SameHash bucket subject store kept
  | stored {tokens : ℚ} {reading : ℤ} (remaining : 0 ≤ tokens)
      (held : StoredAt bucket subject store tokens reading)
      (heldKept : (kept (bucketKey subject)).map Expiring.value = some ⟨tokens, reading⟩) :
      SameHash bucket subject store kept

variable {bucket : AcceptedPolicy} {subject : JsString} {store kept : BucketStore}

theorem SameHash.found (same : SameHash bucket subject store kept) (nowMs : ℤ) :
    bucket.foundAt (kept.undeleted nowMs) subject nowMs = bucket.foundAt store subject nowMs := by
  rw [AcceptedPolicy.foundAt, ExpiringStore.read_undeleted]
  cases same with
  | unused absent absentKept =>
      rw [foundAt_unused absent, absentKept, Option.map_none, AcceptedPolicy.found_none]
  | stored remaining held heldKept =>
      rw [foundAt_stored held remaining, heldKept, AcceptedPolicy.found_some]

theorem SameHash.found_nonneg (same : SameHash bucket subject store kept) (nowMs : ℤ) :
    0 ≤ bucket.foundAt store subject nowMs := by
  cases same with
  | unused absent absentKept =>
      rw [foundAt_unused absent]
      exact bucket.rate.capacityPositive
  | stored remaining held heldKept =>
      rw [foundAt_stored held remaining]
      exact bucket.rate.refill_nonneg remaining (Nat.cast_nonneg _)

/-- The call of a subject is answered alike and leaves the same hash behind. -/
theorem SameHash.consume_own (same : SameHash bucket subject store kept) (time : RedisTime) :
    (consumeUndeleted kept time subject bucket.policy).1 =
        (consume store time subject bucket.policy).1 ∧
      SameHash bucket subject (consume store time subject bucket.policy).2
        (consumeUndeleted kept time subject bucket.policy).2 := by
  have tokens := same.found time.nowMs
  have held := same.found_nonneg time.nowMs
  have deleted := bucket.consume_eq store time subject
  have undeleted := bucket.consume_eq (kept.undeleted time.nowMs) time subject
  rw [tokens] at undeleted
  rw [consumeUndeleted, deleted, undeleted]
  refine ⟨rfl, .stored ?_ ExpiringStore.write_self
    (congrArg (Option.map Expiring.value) ExpiringStore.write_self)⟩
  exact BucketRate.sub_cost_nonneg held AcceptedPolicy.decision_allowed_iff.mp

theorem SameHash.consume_other (same : SameHash bucket subject store kept) {other : JsString}
    (different : other ≠ subject) (time : RedisTime) (policy : RateLimitPolicy) :
    SameHash bucket subject (consume store time other policy).2
      (consumeUndeleted kept time other policy).2 := by
  have unchanged : ∀ before : BucketStore,
      (consume before time other policy).2 (bucketKey subject) = before (bucketKey subject) := by
    intro before
    have taken : ConsumeStep before ⟨time, other, policy, (consume before time other policy).1⟩
        (consume before time other policy).2 := rfl
    exact RateLimit.consume_other different taken
  cases same with
  | unused absent absentKept =>
      refine .unused ((unchanged store).trans absent) ((unchanged _).trans ?_)
      rw [ExpiringStore.undeleted, absentKept, Option.map_none]
  | stored remaining held heldKept =>
      refine .stored remaining ((unchanged store).trans held) ?_
      rw [consumeUndeleted, unchanged, ExpiringStore.value_undeleted, heldKept]

/-! ### Sequences of calls -/

theorem decisions_eq {buckets : JsString → AcceptedPolicy} {requests : List ConsumeRequest}
    (fixed : ∀ request ∈ requests, request.policy = (buckets request.subject).policy)
    (same : ∀ subject, SameHash (buckets subject) subject store kept) :
    decisions consume store requests = decisions consumeUndeleted kept requests := by
  induction requests generalizing store kept with
  | nil => rfl
  | cons request rest ih =>
      have own := (same request.subject).consume_own request.time
      rw [← fixed request (by simp)] at own
      rw [decisions, decisions, own.1]
      congr 1
      apply ih (fun later member => fixed later (List.mem_cons_of_mem _ member))
      intro subject
      by_cases mine : request.subject = subject
      · subst mine
        exact own.2
      · exact (same subject).consume_other mine request.time request.policy

/-- Every subject keeps an accepted policy.  Nothing depends on the order of the
times at which the calls are made. -/
theorem expiry_unobservable {policy : JsString → RateLimitPolicy}
    (accepted : ∀ subject, validatePolicy (policy subject) = .ok ())
    {requests : List ConsumeRequest}
    (fixed : ∀ request ∈ requests, request.policy = policy request.subject) :
    decisions consume ExpiringStore.empty requests =
      decisions consumeUndeleted ExpiringStore.empty requests := by
  have buckets : ∀ subject, ∃ bucket : AcceptedPolicy, bucket.policy = policy subject :=
    fun subject => AcceptedPolicy.validatePolicy_ok_iff.mp (accepted subject)
  choose bucket named using buckets
  apply decisions_eq (fun request member => (fixed request member).trans (named _).symm)
  intro subject
  exact .unused rfl rfl

/-- The hash of the first two calls is gone before the third one. -/
theorem expiry_unobservable_expired :
    let subject := JsString.ofString "key-123"
    let policy : RateLimitPolicy := ⟨.finite 2, .finite 1⟩
    let requests : List ConsumeRequest :=
      [⟨⟨100, 0⟩, subject, policy⟩, ⟨⟨100, 700000⟩, subject, policy⟩, ⟨⟨105, 0⟩, subject, policy⟩]
    let store := (consume (consume ExpiringStore.empty ⟨100, 0⟩ subject policy).2 ⟨100, 700000⟩
      subject policy).2
    store.read 105000 (bucketKey subject) = none ∧
      decisions consume ExpiringStore.empty requests =
        decisions consumeUndeleted ExpiringStore.empty requests ∧
      decisions consume ExpiringStore.empty requests =
        [.ok ⟨true, 1, 0⟩, .ok ⟨true, 0, 0⟩, .ok ⟨true, 1, 0⟩] := by
  intro subject policy requests store
  refine ⟨by decide +kernel, ?_, by decide +kernel⟩
  have accepted : validatePolicy policy = .ok () := by decide +kernel
  exact @expiry_unobservable (fun _ => policy) (fun _ => accepted) requests (by simp [requests])

end ModelMux.RateLimit
