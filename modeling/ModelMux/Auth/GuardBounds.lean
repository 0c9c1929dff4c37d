/-
What the guard promises to the owner of a key.

Only requests that present the text of a key draw on its bucket, and the
requests that pass with a key are bounded by its limits in every window of
time.
-/

import ModelMux.Auth.Guard

namespace ModelMux.Auth

open RateLimit

variable {sha256 : List UInt8 → JsString} {first last next : GuardSystem} {keys : ApiKeyTable}
  {events : List GuardEvent} {event : GuardEvent} {index : ℕ} {id : JsString}

/-! ### Strangers -/

def GuardEvent.charge? : GuardEvent → Option (ℕ × ConsumeCall)
  | .charge index call => some (index, call)
  | .chargeUnreported index call => some (index, call)
  | _ => none

theorem guardStep_charges (before : Run (GuardStep sha256) (.initial keys) events last)
    (taken : GuardStep sha256 last event next) :
    (∀ index call, event.charge? = some (index, call) → ∃ apiKey,
        Known sha256 (.initial keys) (events ++ [event]) next index apiKey ∧
          Charges apiKey last.buckets call next.buckets) ∧
      (event.charge? = none → next.buckets = last.buckets) := by
  have history := requests_explained before
  have step := taken
  cases taken with
  | administer | arrive | lookup | chargeFailed =>
      refine ⟨?_, fun _ => rfl⟩
      intro index call impossible
      cases impossible
  | charge index apiKey call buckets waiting charges =>
      refine ⟨?_, fun impossible => by cases impossible⟩
      rintro index call ⟨⟩
      have known : Known sha256 (.initial keys) events last index apiKey :=
        history.explained _ _ waiting
      exact ⟨apiKey, known.snoc step, charges⟩
  | chargeUnreported index apiKey call buckets waiting charges =>
      refine ⟨?_, fun impossible => by cases impossible⟩
      rintro index call ⟨⟩
      have known : Known sha256 (.initial keys) events last index apiKey :=
        history.explained _ _ waiting
      exact ⟨apiKey, known.snoc step, charges⟩

theorem Known.later {later : List GuardEvent} {apiKey : ApiKeyPrincipal}
    (known : Known sha256 first events last index apiKey)
    (run : Run (GuardStep sha256) last later next) :
    Known sha256 first (events ++ later) next index apiKey := by
  induction run with
  | refl => simpa using known
  | snoc _ taken ih =>
      rw [← List.append_assoc]
      exact ih.snoc taken

/-- Every step of a run that draws on a bucket serves a request with a known key, and the
other steps leave the buckets alone. -/
theorem taken_charges {before after : GuardSystem}
    (taken : Run.Taken (GuardStep sha256) (.initial keys) events last before event after) :
    (∀ index call, event.charge? = some (index, call) → ∃ apiKey,
        Known sha256 (.initial keys) events last index apiKey ∧
          Charges apiKey before.buckets call after.buckets) ∧
      (event.charge? = none → after.buckets = before.buckets) := by
  obtain ⟨earlier, later, rfl, upTo, here, rest⟩ := taken
  obtain ⟨charges, others⟩ := guardStep_charges upTo here
  refine ⟨?_, others⟩
  intro index call charged
  obtain ⟨apiKey, known, drawn⟩ := charges index call charged
  refine ⟨apiKey, ?_, drawn⟩
  have whole := known.later rest
  simpa using whole

theorem charged_known (run : Run (GuardStep sha256) (.initial keys) events last) :
    ∀ call ∈ consumeCalls events, ∃ index apiKey,
      Known sha256 (.initial keys) events last index apiKey ∧ call.subject = apiKey.id ∧
        call.policy = apiKey.rateLimit := by
  intro call member
  obtain ⟨event, listed, evaluated⟩ := List.mem_filterMap.mp member
  obtain ⟨index, charged⟩ : ∃ index, event.charge? = some (index, call) := by
    cases event with
    | charge index own =>
        cases evaluated
        exact ⟨index, rfl⟩
    | chargeUnreported index own =>
        cases evaluated
        exact ⟨index, rfl⟩
    | administer | arrive | lookup | chargeFailed => cases evaluated
  obtain ⟨earlier, later, rfl⟩ := List.append_of_mem listed
  obtain ⟨before, after, upTo, here, rest⟩ := run.split_event earlier later event
  obtain ⟨apiKey, known, drawn⟩ :=
    (taken_charges ⟨earlier, later, rfl, upTo, here, rest⟩).1 index call charged
  exact ⟨index, apiKey, known, drawn.subject, drawn.policy⟩

theorem bucket_untouched {store after : BucketStore} {calls : List ConsumeCall}
    (run : Run ConsumeStep store calls after) (others : ∀ call ∈ calls, call.subject ≠ id) :
    after (bucketKey id) = store (bucketKey id) := by
  induction run with
  | refl => rfl
  | snoc before taken ih =>
      have earlier := ih (fun call member => others call (List.mem_append_left _ member))
      rw [consume_other (others _ (by simp)) taken, earlier]

/-- A step draws on a bucket only for a request that has presented the text of that key
while it was enabled, no other step touches a bucket, and a bucket in use has been drawn
on so. -/
theorem strangers_never_charged (run : Run (GuardStep sha256) (.initial keys) events last) :
    (∀ before event after,
      Run.Taken (GuardStep sha256) (.initial keys) events last before event after →
        (∀ index call, event.charge? = some (index, call) → ∃ apiKey,
          Known sha256 (.initial keys) events last index apiKey ∧
            Charges apiKey before.buckets call after.buckets) ∧
        (event.charge? = none → after.buckets = before.buckets)) ∧
      ∀ id, last.buckets (bucketKey id) ≠ none → ∃ index apiKey,
        Known sha256 (.initial keys) events last index apiKey ∧ apiKey.id = id := by
  refine ⟨fun _ _ _ taken => taken_charges taken, ?_⟩
  intro id used
  by_contra none
  apply used
  refine (bucket_untouched (consumeRun run) ?_).trans rfl
  intro call member own
  obtain ⟨index, apiKey, known, subject, _⟩ := charged_known run call member
  exact none ⟨index, apiKey, known, subject.symm.trans own⟩

theorem strangers_never_charged_used :
    ∃ index apiKey, Known sampleKeySha256 (.initial sampleKeys) sampleGuardEvents sampleGuarded
      index apiKey ∧ apiKey.id = sampleKeyRow.id :=
  (strangers_never_charged sampleGuarded_run).2 sampleKeyRow.id (by decide +kernel)

/-! ### Limits -/

def withinMs (firstMs lastMs nowMs : ℤ) : Bool := decide (firstMs ≤ nowMs) && decide (nowMs ≤ lastMs)

/-- The request has passed with the key, charged within a window of time. -/
def GuardPhase.admittedWithin (id : JsString) (firstMs lastMs : ℤ) : GuardPhase → Bool
  | .admitted apiKey nowMs _ => apiKey.id = id && withinMs firstMs lastMs nowMs
  | _ => false

def GuardEvent.grantedWithin (id : JsString) (firstMs lastMs : ℤ) : GuardEvent → Bool
  | .charge _ call => call.subject = id && call.granted && withinMs firstMs lastMs call.time.nowMs
  | _ => false

variable {firstMs lastMs : ℤ}

theorem admitted_charge {apiKey : ApiKeyPrincipal} {call : ConsumeCall} (index : ℕ)
    (subject : call.subject = apiKey.id) :
    (afterConsume apiKey call.time.nowMs call.result).admittedWithin id firstMs lastMs =
      (GuardEvent.charge index call).grantedWithin id firstMs lastMs := by
  simp only [GuardEvent.grantedWithin, ConsumeCall.granted, subject]
  cases call.result with
  | error error => simp [afterConsume, GuardPhase.admittedWithin]
  | ok decision =>
      cases allowed : decision.allowed <;>
        simp [afterConsume, GuardPhase.admittedWithin, allowed]

theorem admitted_count (run : Run (GuardStep sha256) (.initial keys) events last) :
    last.requests.countP (GuardPhase.admittedWithin id firstMs lastMs) =
      events.countP (GuardEvent.grantedWithin id firstMs lastMs) := by
  induction run with
  | refl => rfl
  | @snoc middle last events event before taken ih =>
      rw [List.countP_append, ← ih]
      cases taken with
      | administer => rfl
      | arrive header =>
          have waiting : (arrival header).admittedWithin id firstMs lastMs = false := by
            unfold arrival
            split <;> rfl
          simp [List.countP_append, waiting, GuardEvent.grantedWithin]
      | lookup index rawApiKey answered waiting =>
          have pending (found : Except GuardError (Option ApiKeyPrincipal)) :
              (afterLookup found).admittedWithin id firstMs lastMs = false := by
            unfold afterLookup
            split <;> rfl
          rw [GuardSystem.move, countP_move waiting _ rfl, pending]
          rfl
      | charge index apiKey call buckets waiting charges =>
          simp only [GuardSystem.move]
          rw [countP_move waiting _ rfl, admitted_charge index charges.subject,
            List.countP_singleton]
      | chargeUnreported index apiKey call buckets waiting charges =>
          simp only [GuardSystem.move]
          rw [countP_move waiting _ rfl]
          rfl
      | chargeFailed index apiKey waiting =>
          rw [GuardSystem.move, countP_move waiting _ rfl]
          rfl

theorem granted_le_allowedCalls (events : List GuardEvent) :
    events.countP (GuardEvent.grantedWithin id firstMs lastMs) ≤
      allowedCalls id (consumeCalls events) firstMs lastMs := by
  unfold allowedCalls consumeCalls
  rw [List.countP_filterMap]
  apply List.countP_mono_left
  intro event _ granted
  cases event with
  | charge index call =>
      simp only [GuardEvent.grantedWithin, withinMs, Bool.and_eq_true] at granted
      simp [GuardEvent.call?, granted]
  | _ => cases granted

/-- The rows with this id have these limits whenever the database is asked for a key. -/
def LimitsKept (sha256 : List UInt8 → JsString) (first : GuardSystem) (events : List GuardEvent)
    (last : GuardSystem) (id : JsString) (policy : RateLimitPolicy) : Prop :=
  ∀ before index after, Run.Taken (GuardStep sha256) first events last before (.lookup index true)
    after → ∀ row ∈ before.keys.rows, row.id = id → row.principal.rateLimit = policy

/-- While the limits of a key stay as they are and the clock of Redis does not step
back, no window of time sees more requests with the key pass than its capacity and
what it gains in the window. -/
theorem admitted_bounded {bucket : AcceptedPolicy}
    (run : Run (GuardStep sha256) (.initial keys) events last)
    (kept : LimitsKept sha256 (.initial keys) events last id bucket.policy)
    (clock : ((consumeCalls events).filter (fun call => call.subject = id)).Pairwise
      (fun earlier later => earlier.time.nowMs ≤ later.time.nowMs))
    (window : firstMs ≤ lastMs) :
    (last.requests.countP (GuardPhase.admittedWithin id firstMs lastMs) : ℚ) ≤
      bucket.capacity + bucket.refillPerSecond * (lastMs - firstMs) / 1000 := by
  have fixed : ∀ call ∈ consumeCalls events, call.subject = id → call.policy = bucket.policy := by
    intro call member own
    obtain ⟨index, apiKey, known, subject, policy⟩ := charged_known run call member
    obtain ⟨_, before, after, row, _, looked, stored, _, _, rfl⟩ := known.looked
    rw [policy]
    exact kept before index after looked row stored (subject.symm.trans own)
  have steady : SteadyCalls bucket id (consumeCalls events) := by
    refine ⟨fixed, ?_⟩
    rw [BucketRate.Ordered, bucketCalls, List.pairwise_map]
    exact clock.imp (fun sorted => by simpa [ConsumeCall.bucketCall] using sorted)
  have invariant := bucketInvariant_run (consumeRun run) rfl steady
  have bound := BucketRate.allowedWithin_le invariant.covered steady.ordered
    (Int.cast_le.mpr window : (firstMs : ℚ) ≤ lastMs)
  rw [← allowedCalls_eq] at bound
  have counted : (last.requests.countP (GuardPhase.admittedWithin id firstMs lastMs) : ℚ) ≤
      allowedCalls id (consumeCalls events) firstMs lastMs := by
    rw [admitted_count run]
    exact_mod_cast granted_le_allowedCalls events
  refine counted.trans (bound.trans (le_of_eq ?_))
  simp only [AcceptedPolicy.rate]
  ring

theorem keys_kept (run : Run (GuardStep sha256) first events last)
    (untouched : ∀ event ∈ events, event ≠ .administer) : last.keys = first.keys := by
  induction run with
  | refl => rfl
  | snoc before taken ih =>
      have earlier := ih (fun event member => untouched event (List.mem_append_left _ member))
      cases taken with
      | administer => exact absurd rfl (untouched .administer (by simp))
      | arrive => exact earlier
      | lookup => exact earlier
      | charge => exact earlier
      | chargeUnreported => exact earlier
      | chargeFailed => exact earlier

theorem admitted_bounded_limited :
    let bucket : AcceptedPolicy := ⟨1, 1 / 2, by decide, by norm_num⟩
    sampleGuarded.requests.countP (GuardPhase.admittedWithin sampleKeyRow.id 100000 101000) = 1 ∧
      (sampleGuarded.requests.countP
          (GuardPhase.admittedWithin sampleKeyRow.id 100000 101000) : ℚ) ≤
        bucket.capacity + bucket.refillPerSecond * ((101000 : ℤ) - (100000 : ℤ)) / 1000 := by
  intro bucket
  have kept : LimitsKept sampleKeySha256 (.initial sampleKeys) sampleGuardEvents sampleGuarded
      sampleKeyRow.id bucket.policy := by
    rintro before index after ⟨earlier, later, split, run, _, _⟩ row stored _
    have untouched : ∀ event ∈ earlier, event ≠ .administer := by
      rintro event member rfl
      have listed : GuardEvent.administer ∈ sampleGuardEvents := by
        rw [split]
        exact List.mem_append_left _ member
      simp [sampleGuardEvents] at listed
    rw [keys_kept run untouched] at stored
    obtain rfl : row = sampleKeyRow := by simpa [GuardSystem.initial, sampleKeys] using stored
    simp [ApiKeyRow.principal, sampleKeyRow, AcceptedPolicy.policy, bucket]
  exact ⟨by decide +kernel, admitted_bounded sampleGuarded_run kept (by decide +kernel) (by norm_num)⟩

end ModelMux.Auth
