/-
Buckets under a clock that may step back.

The script credits a call with the time since the stored reading, clamped at
zero, and stores its own reading also when that lies before the stored one.
Time over which the clock rises again is therefore credited again.  What a
bucket hands out is bounded by the rises of the clock, which make up the span
of its readings only as long as no two of them overlap.
-/

import Mathlib.Algebra.Order.BigOperators.Group.List
import Mathlib.Data.Int.Interval
import ModelMux.RateLimit.BucketBounds

namespace ModelMux.RateLimit

/-! ### Readings -/

def milliseconds (first last : ℤ) : Finset ℤ :=
  (Finset.range (last - first).toNat).map (Nat.castEmbedding.trans (addLeftEmbedding first))

theorem mem_milliseconds {first last reading : ℤ} :
    reading ∈ milliseconds first last ↔ first ≤ reading ∧ reading < last := by
  simp only [milliseconds, Finset.mem_map, Finset.mem_range, Function.Embedding.trans_apply,
    Nat.castEmbedding_apply, addLeftEmbedding_apply]
  constructor
  · rintro ⟨offset, inside, rfl⟩
    omega
  · rintro ⟨lower, upper⟩
    exact ⟨(reading - first).toNat, by omega, by omega⟩

theorem card_milliseconds (first last : ℤ) :
    (milliseconds first last).card = (last - first).toNat := by
  rw [milliseconds, Finset.card_map, Finset.card_range]

theorem milliseconds_self (reading : ℤ) : milliseconds reading reading = ∅ := by
  simp [milliseconds]

def rises : List ℤ → List (Finset ℤ)
  | first :: second :: rest => milliseconds first second :: rises (second :: rest)
  | [_] => []
  | [] => []

def climbed (readings : List ℤ) : ℕ := ((rises readings).map Finset.card).sum

def span : List ℤ → ℤ
  | [] => 0
  | first :: rest => rest.foldl max first - rest.foldl min first

theorem rises_snoc (init : List ℤ) (last next : ℤ) :
    rises (init ++ [last] ++ [next]) = rises (init ++ [last]) ++ [milliseconds last next] := by
  induction init with
  | nil => rfl
  | cons first init ih =>
      cases init with
      | nil => rfl
      | cons second init =>
          simp only [List.cons_append, rises] at ih ⊢
          rw [ih]

theorem climbed_snoc (init : List ℤ) (last next : ℤ) :
    climbed (init ++ [last] ++ [next]) = climbed (init ++ [last]) + (next - last).toNat := by
  rw [climbed, rises_snoc]
  simp [climbed, card_milliseconds]

theorem climbed_singleton (reading : ℤ) : climbed [reading] = 0 := rfl

theorem climbed_append_le (before after : List ℤ) : climbed before ≤ climbed (before ++ after) := by
  induction after using List.reverseRecOn with
  | nil => simp
  | append_singleton after next ih =>
      rw [← List.append_assoc]
      refine ih.trans ?_
      rcases List.eq_nil_or_concat (before ++ after) with empty | ⟨init, last, whole⟩
      · rw [empty]
        exact Nat.zero_le _
      · rw [whole, List.concat_eq_append, climbed_snoc]
        exact Nat.le_add_right _ _

theorem le_foldl_max (first : ℤ) (rest : List ℤ) :
    ∀ reading ∈ first :: rest, reading ≤ rest.foldl max first := by
  induction rest using List.reverseRecOn with
  | nil => simp
  | append_singleton rest last ih =>
      intro reading member
      rw [List.foldl_append, List.foldl_cons, List.foldl_nil]
      rw [← List.cons_append, List.mem_append, List.mem_singleton] at member
      rcases member with earlier | rfl
      · exact (ih reading earlier).trans (le_max_left _ _)
      · exact le_max_right _ _

theorem foldl_min_le (first : ℤ) (rest : List ℤ) :
    ∀ reading ∈ first :: rest, rest.foldl min first ≤ reading := by
  induction rest using List.reverseRecOn with
  | nil => simp
  | append_singleton rest last ih =>
      intro reading member
      rw [List.foldl_append, List.foldl_cons, List.foldl_nil]
      rw [← List.cons_append, List.mem_append, List.mem_singleton] at member
      rcases member with earlier | rfl
      · exact (min_le_left _ _).trans (ih reading earlier)
      · exact min_le_right _ _

theorem sum_card_le {parts : List (Finset ℤ)} {whole : Finset ℤ} (apart : parts.Pairwise Disjoint)
    (inside : ∀ part ∈ parts, part ⊆ whole) : (parts.map Finset.card).sum ≤ whole.card := by
  induction parts generalizing whole with
  | nil => simp
  | cons part parts ih =>
      obtain ⟨fromFirst, apart⟩ := List.pairwise_cons.mp apart
      have rest : ∀ other ∈ parts, other ⊆ whole \ part := by
        intro other member
        rw [Finset.subset_sdiff]
        exact ⟨inside other (by simp [member]), (fromFirst other member).symm⟩
      have first : part ⊆ whole := inside part (by simp)
      have counted := ih apart rest
      rw [Finset.card_sdiff_of_subset first] at counted
      have bound := Finset.card_le_card first
      rw [List.map_cons, List.sum_cons]
      omega

theorem rises_inside {readings : List ℤ} {low high : ℤ}
    (between : ∀ reading ∈ readings, low ≤ reading ∧ reading ≤ high) :
    ∀ rise ∈ rises readings, rise ⊆ milliseconds low high := by
  induction readings with
  | nil => simp [rises]
  | cons first rest ih =>
      cases rest with
      | nil => simp [rises]
      | cons second rest =>
          intro rise member
          rw [rises, List.mem_cons] at member
          rcases member with rfl | later
          · intro reading inside
            have lower := (between first (by simp)).1
            have upper := (between second (by simp)).2
            rw [mem_milliseconds] at inside ⊢
            omega
          · exact ih (fun reading known => between reading (by simp [known])) rise later

/-- A clock that never rises twice over the same time climbs no further than the
span of its readings. -/
theorem climbed_le_span {readings : List ℤ} (once : (rises readings).Pairwise Disjoint) :
    (climbed readings : ℤ) ≤ span readings := by
  cases readings with
  | nil => exact le_rfl
  | cons first rest =>
      have low := foldl_min_le first rest
      have high := le_foldl_max first rest
      have counted : climbed (first :: rest) ≤
          (milliseconds (rest.foldl min first) (rest.foldl max first)).card :=
        sum_card_le once (rises_inside (fun reading known => ⟨low reading known, high reading known⟩))
      have ordered : rest.foldl min first ≤ rest.foldl max first :=
        (low first (by simp)).trans (high first (by simp))
      rw [card_milliseconds] at counted
      rw [span]
      omega

/-! ### Histories -/

def clockReadings (subject : JsString) (calls : List ConsumeCall) : List ℤ :=
  (calls.filter (fun call => call.subject = subject)).map (fun call => call.time.nowMs)

def allowedTotal (subject : JsString) (calls : List ConsumeCall) : ℕ :=
  (calls.filter (fun call => call.subject = subject)).countP ConsumeCall.granted

/-- The milliseconds that the script counts as elapsed. -/
def creditedMs (store : BucketStore) (subject : JsString) (nowMs : ℤ) : Finset ℤ :=
  let updatedAtMs := match store.read nowMs (bucketKey subject) with
    | none => nowMs
    | some hash => hash.updatedAtMs
  milliseconds updatedAtMs nowMs

/-- What the calls of a subject are credited with, one after the other. -/
def credits (subject : JsString) : BucketStore → List ConsumeCall → List (Finset ℤ)
  | _, [] => []
  | store, call :: calls =>
      let after := (consume store call.time call.subject call.policy).2
      if call.subject = subject then
        creditedMs store subject call.time.nowMs :: credits subject after calls
      else credits subject after calls

/-- Calls under one accepted policy, at which the subject reads the given times. -/
structure ClockHistory (bucket : AcceptedPolicy) (subject : JsString) (readings : List ℤ)
    (initial : BucketStore) (calls : List ConsumeCall) : Prop where
  unused : initial (bucketKey subject) = none
  run : ∃ store, Run ConsumeStep initial calls store
  fixed : ∀ call ∈ calls, call.subject = subject → call.policy = bucket.policy
  read : clockReadings subject calls = readings

variable {bucket : AcceptedPolicy} {subject : JsString} {calls : List ConsumeCall}
  {initial store after : BucketStore} {call : ConsumeCall}

theorem clockReadings_snoc_self (own : call.subject = subject) :
    clockReadings subject (calls ++ [call]) = clockReadings subject calls ++ [call.time.nowMs] := by
  simp [clockReadings, own]

theorem clockReadings_snoc_other (other : call.subject ≠ subject) :
    clockReadings subject (calls ++ [call]) = clockReadings subject calls := by
  simp [clockReadings, other]

theorem allowedTotal_snoc_self (own : call.subject = subject) :
    (allowedTotal subject (calls ++ [call]) : ℚ) =
      allowedTotal subject calls + BucketRate.cost call.bucketCall := by
  cases granted : call.granted with
  | true => simp [allowedTotal, own, granted, BucketRate.cost, ConsumeCall.bucketCall]
  | false => simp [allowedTotal, own, granted, BucketRate.cost, ConsumeCall.bucketCall]

theorem allowedTotal_snoc_other (other : call.subject ≠ subject) :
    allowedTotal subject (calls ++ [call]) = allowedTotal subject calls := by
  simp [allowedTotal, other]

/-! ### What a climbing clock pays for -/

/-- Calls allowed so far and the tokens left are paid for by a full bucket and the
climb of the clock. -/
def Paid (bucket : AcceptedPolicy) (subject : JsString) (calls : List ConsumeCall)
    (store : BucketStore) : Prop :=
  (clockReadings subject calls = [] ∧ store (bucketKey subject) = none ∧
      allowedTotal subject calls = 0) ∨
    ∃ init reading tokens, clockReadings subject calls = init ++ [reading] ∧
      StoredAt bucket subject store tokens reading ∧ 0 ≤ tokens ∧
      allowedTotal subject calls + tokens ≤
        bucket.rate.capacity + bucket.rate.perUnit * climbed (clockReadings subject calls)

theorem paid_other (other : call.subject ≠ subject) (taken : ConsumeStep store call after)
    (paid : Paid bucket subject calls store) : Paid bucket subject (calls ++ [call]) after := by
  have same := consume_other other taken
  rw [Paid, clockReadings_snoc_other other, allowedTotal_snoc_other other, same]
  simp only [StoredAt, same]
  exact paid

theorem paid_own (own : call.subject = subject) (policy : call.policy = bucket.policy)
    (taken : ConsumeStep store call after) (paid : Paid bucket subject calls store) :
    Paid bucket subject (calls ++ [call]) after := by
  obtain ⟨_, granted, written⟩ := consume_found own policy taken
  have capacity := bucket.rate.capacityPositive
  have found : 0 ≤ bucket.foundAt store subject call.time.nowMs ∧
      allowedTotal subject calls + bucket.foundAt store subject call.time.nowMs ≤
        bucket.rate.capacity +
          bucket.rate.perUnit * climbed (clockReadings subject calls ++ [call.time.nowMs]) := by
    rcases paid with ⟨empty, unused, none⟩ | ⟨init, reading, tokens, readings, held, left, paid⟩
    · rw [foundAt_unused unused, empty, none]
      refine ⟨capacity, ?_⟩
      simp [climbed_singleton, AcceptedPolicy.rate]
    · rw [foundAt_stored held left]
      constructor
      · exact bucket.rate.refill_nonneg left (Nat.cast_nonneg _)
      · have capped : bucket.rate.refill tokens ((call.time.nowMs - reading).toNat : ℚ) ≤
            tokens + bucket.rate.perUnit * ((call.time.nowMs - reading).toNat : ℚ) :=
          min_le_right _ _
        rw [readings, climbed_snoc, ← readings, Nat.cast_add, mul_add]
        linarith
  refine Or.inr ⟨clockReadings subject calls, call.time.nowMs, _, clockReadings_snoc_self own,
    written, ?_, ?_⟩
  · exact BucketRate.sub_cost_nonneg found.1 granted.mp
  · rw [allowedTotal_snoc_self own, clockReadings_snoc_self own]
    linarith [found.2]

theorem paid_run (run : Run ConsumeStep initial calls store)
    (unused : initial (bucketKey subject) = none)
    (fixed : ∀ call ∈ calls, call.subject = subject → call.policy = bucket.policy) :
    Paid bucket subject calls store := by
  induction run with
  | refl => exact Or.inl ⟨rfl, unused, rfl⟩
  | @snoc middle last history call before taken ih =>
      have paid := ih (fun call member => fixed call (List.mem_append_left _ member))
      by_cases own : call.subject = subject
      · exact paid_own own (fixed call (by simp) own) taken paid
      · exact paid_other own taken paid

theorem allowedTotal_le_climbed {readings : List ℤ}
    (history : ClockHistory bucket subject readings initial calls) :
    (allowedTotal subject calls : ℚ) ≤
      bucket.capacity + bucket.refillPerSecond * climbed readings / 1000 := by
  obtain ⟨store, run⟩ := history.run
  have rate : bucket.rate.perUnit * (climbed readings : ℚ) =
      bucket.refillPerSecond * climbed readings / 1000 := by
    simp only [AcceptedPolicy.rate]
    ring
  have capacity : bucket.rate.capacity = bucket.capacity := rfl
  have gained : 0 ≤ bucket.rate.perUnit * (climbed readings : ℚ) :=
    mul_nonneg bucket.rate.ratePositive (Nat.cast_nonneg _)
  rw [← rate, ← capacity]
  rcases paid_run run history.unused history.fixed with
    ⟨_, _, none⟩ | ⟨init, reading, tokens, _, _, left, paid⟩
  · rw [none, Nat.cast_zero]
    exact add_nonneg bucket.rate.capacityPositive gained
  · rw [history.read] at paid
    linarith

/-! ### What is credited -/

theorem creditedMs_stored {tokens : ℚ} {reading : ℤ}
    (held : StoredAt bucket subject store tokens reading) (nowMs : ℤ) :
    creditedMs store subject nowMs =
      if nowMs < reading + bucket.lifetime then milliseconds reading nowMs else ∅ := by
  unfold creditedMs ExpiringStore.read
  rw [held]
  dsimp only
  by_cases alive : nowMs < reading + bucket.lifetime
  · rw [if_pos alive, if_pos alive]
  · rw [if_neg alive, if_neg alive]
    exact milliseconds_self nowMs

theorem credits_other (other : call.subject ≠ subject) (taken : ConsumeStep store call after)
    (calls : List ConsumeCall) :
    credits subject store (call :: calls) = credits subject after calls := by
  rw [credits, if_neg other, taken]

theorem credits_own (own : call.subject = subject) (taken : ConsumeStep store call after)
    (calls : List ConsumeCall) :
    credits subject store (call :: calls) =
      creditedMs store subject call.time.nowMs :: credits subject after calls := by
  rw [credits, if_pos own, taken]

/-- A call is credited with the rise of the clock or, after an expiry, with nothing. -/
theorem credits_stored (run : Run ConsumeStep initial calls store) {tokens : ℚ} {reading : ℤ}
    (fixed : ∀ call ∈ calls, call.subject = subject → call.policy = bucket.policy)
    (held : StoredAt bucket subject initial tokens reading) :
    List.Forall₂ (fun credit rise => credit ⊆ rise ∧ ((rise.card : ℤ) < bucket.lifetime → credit = rise))
      (credits subject initial calls) (rises (reading :: clockReadings subject calls)) := by
  induction calls generalizing initial tokens reading with
  | nil => exact List.Forall₂.nil
  | cons call calls ih =>
      obtain ⟨middle, taken, rest⟩ := run.first_step
      have later : ∀ call ∈ calls, call.subject = subject → call.policy = bucket.policy :=
        fun call member => fixed call (List.mem_cons_of_mem _ member)
      by_cases own : call.subject = subject
      · obtain ⟨_, _, next⟩ := consume_found own (fixed call (by simp) own) taken
        have readings : clockReadings subject (call :: calls) =
            call.time.nowMs :: clockReadings subject calls := by
          simp [clockReadings, own]
        rw [credits_own own taken, readings, rises]
        refine List.Forall₂.cons ?_ (ih rest later next)
        rw [creditedMs_stored held]
        by_cases alive : call.time.nowMs < reading + bucket.lifetime
        · rw [if_pos alive]
          exact ⟨Finset.Subset.refl _, fun _ => rfl⟩
        · rw [if_neg alive]
          refine ⟨Finset.empty_subset _, ?_⟩
          intro short
          rw [card_milliseconds] at short
          omega
      · have same := consume_other own taken
        have kept : StoredAt bucket subject middle tokens reading := same.trans held
        have readings : clockReadings subject (call :: calls) = clockReadings subject calls := by
          simp [clockReadings, own]
        rw [credits_other own taken, readings]
        exact ih rest later kept

theorem credits_unused (run : Run ConsumeStep initial calls store)
    (fixed : ∀ call ∈ calls, call.subject = subject → call.policy = bucket.policy)
    (unused : initial (bucketKey subject) = none) :
    credits subject initial calls = [] ∧ clockReadings subject calls = [] ∨
      ∃ later, credits subject initial calls = ∅ :: later ∧
        List.Forall₂
          (fun credit rise => credit ⊆ rise ∧ ((rise.card : ℤ) < bucket.lifetime → credit = rise))
          later (rises (clockReadings subject calls)) := by
  induction calls generalizing initial with
  | nil => exact Or.inl ⟨rfl, rfl⟩
  | cons call calls ih =>
      obtain ⟨middle, taken, rest⟩ := run.first_step
      have remaining : ∀ call ∈ calls, call.subject = subject → call.policy = bucket.policy :=
        fun call member => fixed call (List.mem_cons_of_mem _ member)
      by_cases own : call.subject = subject
      · obtain ⟨_, _, next⟩ := consume_found own (fixed call (by simp) own) taken
        have readings : clockReadings subject (call :: calls) =
            call.time.nowMs :: clockReadings subject calls := by
          simp [clockReadings, own]
        have first : creditedMs initial subject call.time.nowMs = ∅ := by
          rw [creditedMs, ExpiringStore.read, unused]
          exact milliseconds_self _
        refine Or.inr ⟨credits subject middle calls, ?_, ?_⟩
        · rw [credits_own own taken, first]
        · rw [readings]
          exact credits_stored rest remaining next
      · have same := consume_other own taken
        have readings : clockReadings subject (call :: calls) = clockReadings subject calls := by
          simp [clockReadings, own]
        rw [credits_other own taken, readings]
        exact ih rest remaining (same.trans unused)

/-! ### Buckets that show every rise -/

def RedisTime.ofMs (nowMs : ℤ) : RedisTime := ⟨nowMs / 1000, nowMs % 1000 * 1000⟩

theorem nowMs_ofMs (nowMs : ℤ) : (RedisTime.ofMs nowMs).nowMs = nowMs := by
  simp only [RedisTime.nowMs, RedisTime.ofMs]
  omega

theorem exists_history (bucket : AcceptedPolicy) (subject : JsString) (readings : List ℤ) :
    ∃ calls, ClockHistory bucket subject readings ExpiringStore.empty calls := by
  suffices extended : ∃ calls store, Run ConsumeStep ExpiringStore.empty calls store ∧
      (∀ call ∈ calls, call.subject = subject → call.policy = bucket.policy) ∧
      clockReadings subject calls = readings by
    obtain ⟨calls, store, run, fixed, read⟩ := extended
    exact ⟨calls, rfl, ⟨store, run⟩, fixed, read⟩
  induction readings using List.reverseRecOn with
  | nil => exact ⟨[], _, Run.refl _, by simp, rfl⟩
  | append_singleton readings reading ih =>
      obtain ⟨calls, store, run, fixed, read⟩ := ih
      let answer := consume store (RedisTime.ofMs reading) subject bucket.policy
      let call : ConsumeCall := ⟨RedisTime.ofMs reading, subject, bucket.policy, answer.1⟩
      have taken : ConsumeStep store call answer.2 := rfl
      refine ⟨calls ++ [call], _, run.snoc taken, ?_, ?_⟩
      · intro other member
        rcases List.mem_append.mp member with old | new
        · exact fixed other old
        · rw [List.mem_singleton.mp new]
          exact fun _ => rfl
      · have own : call.subject = subject := rfl
        have now : call.time.nowMs = reading := nowMs_ofMs reading
        rw [clockReadings_snoc_self own, read, now]

/-- A bucket for one token that is full again after the given climb. -/
def slowBucket (total : ℕ) (positive : 0 < total) : AcceptedPolicy :=
  ⟨1, 1000 / total, le_rfl, div_pos (by norm_num) (Nat.cast_pos.mpr positive)⟩

variable {total : ℕ} {positive : 0 < total}

theorem slowBucket_perUnit : (slowBucket total positive).rate.perUnit = 1 / total := by
  simp only [AcceptedPolicy.rate, slowBucket]
  ring

theorem slowBucket_lifetime : (total : ℤ) ≤ (slowBucket total positive).lifetime := by
  have long := (slowBucket total positive).capacity_le_lifetime
  rw [slowBucket_perUnit] at long
  have whole : (0 : ℚ) < total := Nat.cast_pos.mpr positive
  have scaled : (total : ℚ) ≤ (slowBucket total positive).lifetime := by
    have one : ((slowBucket total positive).capacity : ℚ) = 1 := Nat.cast_one
    rw [one, one_div, inv_mul_eq_div, le_div_iff₀ whole, one_mul] at long
    exact long
  exact_mod_cast scaled

/-- One call is allowed at the beginning and another as soon as the clock has climbed
as far as the bucket needs. -/
def Exhausted (total : ℕ) (positive : 0 < total) (subject : JsString) (calls : List ConsumeCall)
    (store : BucketStore) : Prop :=
  (clockReadings subject calls = [] ∧ store (bucketKey subject) = none ∧
      allowedTotal subject calls = 0) ∨
    2 ≤ allowedTotal subject calls ∨
    ∃ init reading, clockReadings subject calls = init ++ [reading] ∧
      StoredAt (slowBucket total positive) subject store
        (climbed (clockReadings subject calls) / total) reading ∧
      allowedTotal subject calls = 1 ∧ climbed (clockReadings subject calls) < total

theorem exhausted_other (other : call.subject ≠ subject) (taken : ConsumeStep store call after)
    (exhausted : Exhausted total positive subject calls store) :
    Exhausted total positive subject (calls ++ [call]) after := by
  have same := consume_other other taken
  rw [Exhausted, clockReadings_snoc_other other, allowedTotal_snoc_other other, same]
  simp only [StoredAt, same]
  exact exhausted

theorem exhausted_own (own : call.subject = subject)
    (policy : call.policy = (slowBucket total positive).policy)
    (taken : ConsumeStep store call after)
    (within : climbed (clockReadings subject (calls ++ [call])) ≤ total)
    (exhausted : Exhausted total positive subject calls store) :
    Exhausted total positive subject (calls ++ [call]) after := by
  obtain ⟨_, granted, written⟩ := consume_found own policy taken
  have counted := @allowedTotal_snoc_self subject calls call own
  have whole : (0 : ℚ) < total := Nat.cast_pos.mpr positive
  rcases exhausted with ⟨empty, unused, none⟩ | many | ⟨init, reading, readings, held, one, below⟩
  · -- The first call finds a full bucket and empties it.
    have found : (slowBucket total positive).foundAt store subject call.time.nowMs = 1 := by
      rw [foundAt_unused unused]
      exact Nat.cast_one
    have allowed : call.granted = true := granted.mpr (by rw [found])
    have taking : BucketRate.cost call.bucketCall = 1 := if_pos allowed
    have climb : climbed (clockReadings subject (calls ++ [call])) = 0 := by
      rw [clockReadings_snoc_self own, empty]
      rfl
    refine Or.inr (Or.inr ⟨[], call.time.nowMs, ?_, ?_, ?_, ?_⟩)
    · rw [clockReadings_snoc_self own, empty]
    · rw [climb, Nat.cast_zero, zero_div]
      rw [found, taking, sub_self] at written
      exact written
    · rw [taking, none, Nat.cast_zero, zero_add] at counted
      exact_mod_cast counted
    · rw [climb]
      exact positive
  · refine Or.inr (Or.inl ?_)
    have kept : (allowedTotal subject calls : ℚ) ≤ allowedTotal subject (calls ++ [call]) := by
      rw [counted]
      refine le_add_of_nonneg_right ?_
      unfold BucketRate.cost
      split <;> norm_num
    exact many.trans (by exact_mod_cast kept)
  · have climb : climbed (clockReadings subject (calls ++ [call])) =
        climbed (clockReadings subject calls) + (call.time.nowMs - reading).toNat := by
      rw [clockReadings_snoc_self own, readings, climbed_snoc]
    have level : (climbed (clockReadings subject calls) : ℚ) / total +
        (slowBucket total positive).rate.perUnit * ((call.time.nowMs - reading).toNat : ℚ) =
        climbed (clockReadings subject (calls ++ [call])) / total := by
      rw [slowBucket_perUnit, climb, Nat.cast_add]
      ring
    have capped : (climbed (clockReadings subject (calls ++ [call])) : ℚ) / total ≤ 1 := by
      rw [div_le_one whole]
      exact_mod_cast within
    have found : (slowBucket total positive).foundAt store subject call.time.nowMs =
        climbed (clockReadings subject (calls ++ [call])) / total := by
      have remaining : (0 : ℚ) ≤ climbed (clockReadings subject calls) / total :=
        div_nonneg (Nat.cast_nonneg _) whole.le
      rw [foundAt_stored held remaining, BucketRate.refill, level]
      have one : (slowBucket total positive).rate.capacity = 1 := Nat.cast_one
      rw [one, min_eq_right capped]
    by_cases full : climbed (clockReadings subject (calls ++ [call])) = total
    · have allowed : call.granted = true := by
        rw [granted, found, full, div_self whole.ne']
      have taking : BucketRate.cost call.bucketCall = 1 := if_pos allowed
      refine Or.inr (Or.inl ?_)
      rw [taking, one] at counted
      have two : (allowedTotal subject (calls ++ [call]) : ℚ) = 2 := by
        rw [counted]
        norm_num
      exact_mod_cast two.ge
    · have short : climbed (clockReadings subject (calls ++ [call])) < total :=
        lt_of_le_of_ne within full
      have refused : call.granted = false := by
        rw [← Bool.not_eq_true, granted, found, not_le, div_lt_one whole]
        exact_mod_cast short
      have taking : BucketRate.cost call.bucketCall = 0 := by
        simp [BucketRate.cost, ConsumeCall.bucketCall, refused]
      refine Or.inr (Or.inr ⟨_, call.time.nowMs, clockReadings_snoc_self own, ?_, ?_, short⟩)
      · rw [found, taking, sub_zero] at written
        exact written
      · rw [taking, one, add_zero] at counted
        exact_mod_cast counted

theorem exhausted_run (run : Run ConsumeStep initial calls store)
    (unused : initial (bucketKey subject) = none)
    (fixed : ∀ call ∈ calls, call.subject = subject →
      call.policy = (slowBucket total positive).policy)
    (within : climbed (clockReadings subject calls) ≤ total) :
    Exhausted total positive subject calls store := by
  induction run with
  | refl => exact Or.inl ⟨rfl, unused, rfl⟩
  | @snoc middle last history call before taken ih =>
      have earlier : climbed (clockReadings subject history) ≤
          climbed (clockReadings subject (history ++ [call])) := by
        have grown : clockReadings subject (history ++ [call]) =
            clockReadings subject history ++ clockReadings subject [call] := by
          simp [clockReadings]
        rw [grown]
        exact climbed_append_le _ _
      have exhausted := ih (fun call member => fixed call (List.mem_append_left _ member))
        (earlier.trans within)
      by_cases own : call.subject = subject
      · exact exhausted_own own (fixed call (by simp) own) taken within exhausted
      · exact exhausted_other own taken exhausted

/-! ### The law of a clock that steps back -/

/-- Under every accepted policy, calls at these readings are bounded by a full bucket
and the span of the readings. -/
def BoundedBySpan (readings : List ℤ) : Prop :=
  ∀ bucket subject initial calls, ClockHistory bucket subject readings initial calls →
    (allowedTotal subject calls : ℚ) ≤
      bucket.capacity + bucket.refillPerSecond * span readings / 1000

/-- Under no accepted policy are calls at these readings credited twice with the same
time. -/
def CreditedOnce (readings : List ℤ) : Prop :=
  ∀ bucket subject initial calls, ClockHistory bucket subject readings initial calls →
    (credits subject initial calls).Pairwise Disjoint

theorem boundedBySpan_iff (readings : List ℤ) :
    BoundedBySpan readings ↔ (climbed readings : ℤ) ≤ span readings := by
  constructor
  · intro bounded
    rcases Nat.eq_zero_or_pos (climbed readings) with none | positive
    · -- Without a rise there is nothing to compare: readings have a span.
      rw [none]
      cases readings with
      | nil => exact le_rfl
      | cons first rest =>
          have low := foldl_min_le first rest first (by simp)
          have high := le_foldl_max first rest first (by simp)
          rw [span]
          omega
    · let bucket := slowBucket (climbed readings) positive
      obtain ⟨calls, history⟩ := exists_history bucket [] readings
      obtain ⟨store, run⟩ := history.run
      have bound := bounded bucket [] _ calls history
      have whole : (0 : ℚ) < climbed readings := Nat.cast_pos.mpr positive
      have twice : 2 ≤ allowedTotal [] calls := by
        rcases exhausted_run run history.unused history.fixed (le_of_eq (congrArg climbed history.read))
          with ⟨empty, _, _⟩ | many | ⟨_, _, _, _, _, below⟩
        · rw [history.read] at empty
          rw [empty] at positive
          exact absurd positive (by decide)
        · exact many
        · rw [history.read] at below
          exact absurd below (lt_irrefl _)
      have spent : (2 : ℚ) ≤ 1 + span readings / climbed readings := by
        calc (2 : ℚ)
            ≤ allowedTotal [] calls := by exact_mod_cast twice
          _ ≤ ((1 : ℕ) : ℚ) + 1000 / climbed readings * span readings / 1000 := bound
          _ = 1 + span readings / climbed readings := by
              rw [Nat.cast_one]
              ring
      have covered : (1 : ℚ) ≤ span readings / climbed readings := by linarith
      rw [le_div_iff₀ whole, one_mul] at covered
      exact_mod_cast covered
  · intro covered bucket subject initial calls history
    have bound := allowedTotal_le_climbed history
    have climb : (climbed readings : ℚ) ≤ span readings := by exact_mod_cast covered
    have scaled : bucket.refillPerSecond * (climbed readings : ℚ) ≤
        bucket.refillPerSecond * span readings :=
      mul_le_mul_of_nonneg_left climb bucket.refillPositive.le
    linarith

theorem pairwise_disjoint_of_subset {small large : List (Finset ℤ)}
    (inside : List.Forall₂ (· ⊆ ·) small large) (apart : large.Pairwise Disjoint) :
    small.Pairwise Disjoint := by
  induction inside with
  | nil => exact List.Pairwise.nil
  | @cons part whole parts wholes subset inside ih =>
      obtain ⟨fromFirst, apart⟩ := List.pairwise_cons.mp apart
      refine List.Pairwise.cons ?_ (ih apart)
      intro other member
      obtain ⟨larger, listed, contained⟩ : ∃ larger ∈ wholes, other ⊆ larger := by
        obtain ⟨index, bound, rfl⟩ := List.getElem_of_mem member
        have reached : index < wholes.length := inside.length_eq ▸ bound
        exact ⟨_, List.getElem_mem reached, inside.get bound reached⟩
      exact Finset.disjoint_of_subset_left subset
        (Finset.disjoint_of_subset_right contained (fromFirst larger listed))

theorem card_le_climbed {readings : List ℤ} {rise : Finset ℤ} (member : rise ∈ rises readings) :
    rise.card ≤ climbed readings :=
  List.single_le_sum (fun _ _ => Nat.zero_le _) _ (List.mem_map_of_mem member)

theorem eq_of_outlived {lifetime : ℤ} {credited risen : List (Finset ℤ)}
    (matched : List.Forall₂
      (fun credit rise => credit ⊆ rise ∧ ((rise.card : ℤ) < lifetime → credit = rise))
      credited risen)
    (outlived : ∀ rise ∈ risen, (rise.card : ℤ) < lifetime) : credited = risen := by
  induction matched with
  | nil => rfl
  | @cons credit rise credited risen both _ ih =>
      rw [both.2 (outlived rise (by simp)), ih (fun other member => outlived other (by simp [member]))]

theorem creditedOnce_iff (readings : List ℤ) :
    CreditedOnce readings ↔ (rises readings).Pairwise Disjoint := by
  constructor
  · intro once
    let bucket := slowBucket (climbed readings + 1) (Nat.succ_pos _)
    obtain ⟨calls, history⟩ := exists_history bucket [] readings
    obtain ⟨store, run⟩ := history.run
    have apart := once bucket [] _ calls history
    rcases credits_unused run history.fixed history.unused with
      ⟨_, empty⟩ | ⟨later, whole, matched⟩
    · rw [history.read] at empty
      rw [empty]
      exact List.Pairwise.nil
    · rw [whole] at apart
      rw [history.read] at matched
      have same : later = rises readings := by
        apply eq_of_outlived matched
        intro rise member
        have short := card_le_climbed member
        have long : ((climbed readings + 1 : ℕ) : ℤ) ≤ bucket.lifetime := slowBucket_lifetime
        omega
      rw [← same]
      exact (List.pairwise_cons.mp apart).2
  · intro apart bucket subject initial calls history
    obtain ⟨store, run⟩ := history.run
    rcases credits_unused run history.fixed history.unused with
      ⟨empty, _⟩ | ⟨later, whole, matched⟩
    · rw [empty]
      exact List.Pairwise.nil
    · rw [history.read] at matched
      rw [whole]
      refine List.Pairwise.cons (fun _ _ => Finset.disjoint_empty_left _) ?_
      exact pairwise_disjoint_of_subset (matched.imp (fun _ _ both => both.1)) apart

theorem backward_clock_iff (readings : List ℤ) :
    (BoundedBySpan readings ↔ (climbed readings : ℤ) ≤ span readings) ∧
      (BoundedBySpan readings ∧ CreditedOnce readings ↔ (rises readings).Pairwise Disjoint) := by
  refine ⟨boundedBySpan_iff readings, ?_⟩
  rw [boundedBySpan_iff, creditedOnce_iff]
  exact ⟨And.right, fun once => ⟨climbed_le_span once, once⟩⟩

/-- The clock steps back by a second once, and a third call is allowed. -/
theorem backward_clock_mints :
    let bucket : AcceptedPolicy := ⟨1, 1, le_rfl, one_pos⟩
    let subject := JsString.ofString "key-123"
    let call := fun (seconds : ℤ) (decision : RateLimitDecision) =>
      (⟨⟨seconds, 0⟩, subject, bucket.policy, .ok decision⟩ : ConsumeCall)
    let calls := [call 0 ⟨true, 0, 0⟩, call 1 ⟨true, 0, 0⟩, call 0 ⟨false, 0, 1⟩, call 1 ⟨true, 0, 0⟩]
    ClockHistory bucket subject [0, 1000, 0, 1000] ExpiringStore.empty calls ∧
      ¬((allowedTotal subject calls : ℚ) ≤
        bucket.capacity + bucket.refillPerSecond * span [0, 1000, 0, 1000] / 1000) ∧
      ¬(credits subject ExpiringStore.empty calls).Pairwise Disjoint := by
  intro bucket subject call calls
  have run : ∃ store, Run ConsumeStep ExpiringStore.empty calls store := by
    have begun : Run ConsumeStep (ExpiringStore.empty : BucketStore) [] ExpiringStore.empty := .refl _
    have first := begun.snoc (consumeStep_of_result (call 0 ⟨true, 0, 0⟩) (by decide +kernel))
    have second := first.snoc (consumeStep_of_result (call 1 ⟨true, 0, 0⟩) (by decide +kernel))
    have third := second.snoc (consumeStep_of_result (call 0 ⟨false, 0, 1⟩) (by decide +kernel))
    exact ⟨_, third.snoc (consumeStep_of_result (call 1 ⟨true, 0, 0⟩) (by decide +kernel))⟩
  refine ⟨⟨rfl, run, ?_, by decide +kernel⟩, ?_, by decide +kernel⟩
  · intro other member _
    simp only [calls, List.mem_cons, List.not_mem_nil, or_false] at member
    rcases member with rfl | rfl | rfl | rfl
    all_goals rfl
  · have three : allowedTotal subject calls = 3 := by decide +kernel
    have second : span [0, 1000, 0, 1000] = 1000 := rfl
    rw [three, second]
    norm_num [bucket]

end ModelMux.RateLimit
