/-
The ideal token bucket.

A bucket is full at its first use, gains tokens at a constant rate up to its
capacity and loses one token with every call that is allowed.  Its level is a
function of the calls so far.  Allowed calls within any window of time are paid
for by the tokens that the bucket held at the beginning of the window and by
those that it has gained since.
-/

import Mathlib.Algebra.Order.Field.Basic
import Mathlib.Data.List.Induction
import Mathlib.Tactic.Linarith
import Mathlib.Tactic.Ring
import ModelMux.Foundation.LabelledRun

namespace ModelMux

variable {K : Type} [Field K] [LinearOrder K]

structure BucketRate (K : Type) [Field K] [LinearOrder K] where
  capacity : K
  perUnit : K
  capacityPositive : 0 ≤ capacity
  ratePositive : 0 ≤ perUnit

structure BucketCall (K : Type) where
  time : K
  allowed : Bool

namespace BucketRate

def refill (rate : BucketRate K) (tokens elapsed : K) : K :=
  min rate.capacity (tokens + rate.perUnit * elapsed)

def cost (call : BucketCall K) : K := if call.allowed then 1 else 0

def record (rate : BucketRate K) (state : Option (K × K)) (call : BucketCall K) : Option (K × K) :=
  some
    (match state with
      | none => (rate.capacity - cost call, call.time)
      | some (tokens, time) => (rate.refill tokens (call.time - time) - cost call, call.time))

def after (rate : BucketRate K) (calls : List (BucketCall K)) : Option (K × K) :=
  calls.foldl rate.record none

/-- The tokens in the bucket at a time after the given calls. -/
def level (rate : BucketRate K) (calls : List (BucketCall K)) (now : K) : K :=
  match rate.after calls with
  | none => rate.capacity
  | some (tokens, time) => rate.refill tokens (now - time)

variable {rate : BucketRate K} {calls : List (BucketCall K)} {call : BucketCall K} {now : K}

@[simp]
theorem level_nil (rate : BucketRate K) (now : K) : rate.level [] now = rate.capacity := rfl

theorem after_snoc (rate : BucketRate K) (calls : List (BucketCall K)) (call : BucketCall K) :
    rate.after (calls ++ [call]) = some (rate.level calls call.time - cost call, call.time) := by
  have fold : rate.after (calls ++ [call]) = rate.record (rate.after calls) call := by
    simp [after, List.foldl_append]
  rw [fold, level]
  cases rate.after calls with
  | none => rfl
  | some state => rfl

theorem level_snoc (rate : BucketRate K) (calls : List (BucketCall K)) (call : BucketCall K)
    (now : K) :
    rate.level (calls ++ [call]) now =
      rate.refill (rate.level calls call.time - cost call) (now - call.time) := by
  rw [level, after_snoc]

theorem level_le_capacity (rate : BucketRate K) (calls : List (BucketCall K)) (now : K) :
    rate.level calls now ≤ rate.capacity := by
  unfold level
  cases rate.after calls with
  | none => exact le_rfl
  | some state => exact min_le_left _ _

/-- Every allowed call finds a token. -/
def Covered (rate : BucketRate K) (calls : List (BucketCall K)) : Prop :=
  ∀ before call later, calls = before ++ call :: later → call.allowed = true →
    1 ≤ rate.level before call.time

def Ordered (calls : List (BucketCall K)) : Prop :=
  calls.Pairwise (fun earlier later => earlier.time ≤ later.time)

theorem covered_snoc :
    rate.Covered (calls ++ [call]) ↔
      rate.Covered calls ∧ (call.allowed = true → 1 ≤ rate.level calls call.time) :=
  throughout_snoc

omit [Field K] in
theorem ordered_snoc :
    Ordered (calls ++ [call]) ↔ Ordered calls ∧ ∀ earlier ∈ calls, earlier.time ≤ call.time := by
  simp [Ordered, List.pairwise_append]

variable [IsStrictOrderedRing K]

theorem sub_cost_nonneg {tokens : K} (held : 0 ≤ tokens)
    (affordable : call.allowed = true → 1 ≤ tokens) : 0 ≤ tokens - cost call := by
  cases allowed : call.allowed with
  | true =>
      simp only [cost, allowed, if_true]
      exact sub_nonneg.mpr (affordable allowed)
  | false =>
      simp only [cost, allowed, Bool.false_eq_true, if_false, sub_zero]
      exact held

theorem refill_nonneg (rate : BucketRate K) {tokens elapsed : K} (held : 0 ≤ tokens)
    (passed : 0 ≤ elapsed) : 0 ≤ rate.refill tokens elapsed :=
  le_min rate.capacityPositive (add_nonneg held (mul_nonneg rate.ratePositive passed))

/-- A bucket that is left alone may be refilled at any time in between. -/
theorem refill_refill (rate : BucketRate K) (tokens first : K) {second : K}
    (passed : 0 ≤ second) :
    rate.refill (rate.refill tokens first) second = rate.refill tokens (first + second) := by
  have gained : 0 ≤ rate.perUnit * second := mul_nonneg rate.ratePositive passed
  unfold refill
  rw [min_add, ← min_assoc, min_eq_left (le_add_of_nonneg_right gained), mul_add, add_assoc]

theorem level_nonneg (covered : rate.Covered calls) (ordered : Ordered calls)
    (later : ∀ call ∈ calls, call.time ≤ now) : 0 ≤ rate.level calls now := by
  induction calls using List.reverseRecOn generalizing now with
  | nil => exact rate.capacityPositive
  | append_singleton calls call ih =>
      obtain ⟨earlier, affordable⟩ := covered_snoc.mp covered
      obtain ⟨sorted, before⟩ := ordered_snoc.mp ordered
      have held := ih earlier sorted before
      have reached : call.time ≤ now := later call (by simp)
      rw [level_snoc]
      exact rate.refill_nonneg (sub_cost_nonneg held affordable) (sub_nonneg.mpr reached)

/-! ### Windows -/

def allowedWithin (calls : List (BucketCall K)) (first last : K) : ℕ :=
  calls.countP (fun call => call.allowed && decide (first ≤ call.time) && decide (call.time ≤ last))

def allowedSince (calls : List (BucketCall K)) (first : K) : ℕ :=
  calls.countP (fun call => call.allowed && decide (first ≤ call.time))

/-- The calls allowed since the beginning of a window and the tokens left are
covered by a full bucket and the tokens gained. -/
theorem allowedSince_add_level (ordered : Ordered calls) {first : K} (begun : first ≤ now)
    (later : ∀ call ∈ calls, call.time ≤ now) :
    (allowedSince calls first : K) + rate.level calls now ≤
      rate.capacity + rate.perUnit * (now - first) := by
  have gained : ∀ {start finish : K}, start ≤ finish → 0 ≤ rate.perUnit * (finish - start) :=
    fun passed => mul_nonneg rate.ratePositive (sub_nonneg.mpr passed)
  induction calls using List.reverseRecOn generalizing now with
  | nil =>
      have credit := gained begun
      simp only [allowedSince, List.countP_nil, Nat.cast_zero, level_nil]
      linarith
  | append_singleton calls call ih =>
      obtain ⟨sorted, before⟩ := ordered_snoc.mp ordered
      have reached : call.time ≤ now := later call (by simp)
      by_cases inside : first ≤ call.time
      · have paid := ih sorted inside before
        have counted : (allowedSince (calls ++ [call]) first : K) =
            allowedSince calls first + cost call := by
          cases allowed : call.allowed <;> simp [allowedSince, cost, allowed, inside]
        have refilled : rate.level (calls ++ [call]) now ≤
            rate.level calls call.time - cost call + rate.perUnit * (now - call.time) := by
          rw [level_snoc]
          exact min_le_right _ _
        rw [counted]
        linarith
      · -- The window begins after the last call, so it holds none.
        have outside : ∀ other ∈ calls ++ [call], ¬first ≤ other.time := by
          intro other member
          rcases List.mem_append.mp member with old | new
          · exact fun reached => inside (reached.trans (before other old))
          · rw [List.mem_singleton.mp new]
            exact inside
        have none : allowedSince (calls ++ [call]) first = 0 := by
          rw [allowedSince, List.countP_eq_zero]
          intro other member
          simp [outside other member]
        have full := level_le_capacity rate (calls ++ [call]) now
        have credit := gained begun
        rw [none, Nat.cast_zero]
        linarith

/-- Within any window no more calls are allowed than a full bucket and the tokens
gained in the window can pay for. -/
theorem allowedWithin_le (covered : rate.Covered calls) (ordered : Ordered calls) {first last : K}
    (begun : first ≤ last) :
    (allowedWithin calls first last : K) ≤ rate.capacity + rate.perUnit * (last - first) := by
  induction calls using List.reverseRecOn with
  | nil =>
      have credit : 0 ≤ rate.perUnit * (last - first) :=
        mul_nonneg rate.ratePositive (sub_nonneg.mpr begun)
      have capacity := rate.capacityPositive
      simp only [allowedWithin, List.countP_nil, Nat.cast_zero]
      linarith
  | append_singleton calls call ih =>
      obtain ⟨earlier, _⟩ := covered_snoc.mp covered
      obtain ⟨sorted, before⟩ := ordered_snoc.mp ordered
      by_cases inside : call.time ≤ last
      · have upTo : ∀ other ∈ calls ++ [call], other.time ≤ last := by
          intro other member
          rcases List.mem_append.mp member with old | new
          · exact (before other old).trans inside
          · rw [List.mem_singleton.mp new]
            exact inside
        have same : allowedWithin (calls ++ [call]) first last =
            allowedSince (calls ++ [call]) first := by
          apply List.countP_congr
          intro other member
          simp [upTo other member]
        have paid : (allowedSince (calls ++ [call]) first : K) + rate.level (calls ++ [call]) last ≤
            rate.capacity + rate.perUnit * (last - first) :=
          allowedSince_add_level ordered begun upTo
        have left := level_nonneg covered ordered upTo
        rw [same]
        linarith
      · have same : allowedWithin (calls ++ [call]) first last =
            allowedWithin calls first last := by
          simp [allowedWithin, inside]
        rw [same]
        exact ih earlier sorted

end BucketRate

end ModelMux
