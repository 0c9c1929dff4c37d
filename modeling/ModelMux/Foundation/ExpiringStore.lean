/-
A store whose entries expire.

An entry is seen before its deadline only; the clock is a parameter of
every operation.
-/

import Mathlib.Data.Int.Basic
import Mathlib.Data.List.Induction
import Mathlib.Logic.Function.Basic

namespace ModelMux

structure Expiring (Value : Type) where
  value : Value
  expiresAt : ℤ
deriving DecidableEq

def ExpiringStore (Key Value : Type) := Key → Option (Expiring Value)

namespace ExpiringStore

variable {Key Value : Type}

def empty : ExpiringStore Key Value := fun _ => none

def read (store : ExpiringStore Key Value) (now : ℤ) (key : Key) : Option Value :=
  match store key with
  | none => none
  | some entry => if now < entry.expiresAt then some entry.value else none

theorem read_of_eq {store other : ExpiringStore Key Value} {key : Key} (same : store key = other key)
    (now : ℤ) : store.read now key = other.read now key := by
  rw [read, read, same]

/-- The store as it is at a time when no entry has been deleted, whatever its
deadline. -/
def undeleted (store : ExpiringStore Key Value) (now : ℤ) : ExpiringStore Key Value := fun key =>
  (store key).map (fun entry => { entry with expiresAt := max entry.expiresAt (now + 1) })

theorem read_undeleted (store : ExpiringStore Key Value) (now : ℤ) (key : Key) :
    (store.undeleted now).read now key = (store key).map Expiring.value := by
  unfold read undeleted
  cases store key with
  | none => rfl
  | some entry =>
      have unexpired : now < max entry.expiresAt (now + 1) := by omega
      simp only [Option.map_some, if_pos unexpired]

theorem value_undeleted (store : ExpiringStore Key Value) (now : ℤ) (key : Key) :
    (store.undeleted now key).map Expiring.value = (store key).map Expiring.value := by
  unfold undeleted
  rw [Option.map_map]
  rfl

variable [DecidableEq Key]

def write (store : ExpiringStore Key Value) (key : Key) (value : Value) (expiresAt : ℤ) :
    ExpiringStore Key Value :=
  Function.update store key (some ⟨value, expiresAt⟩)

def writeNew (store : ExpiringStore Key Value) (now : ℤ) (key : Key) (value : Value)
    (expiresAt : ℤ) : ExpiringStore Key Value :=
  match store.read now key with
  | none => store.write key value expiresAt
  | some _ => store

variable {store : ExpiringStore Key Value} {key : Key} {value : Value} {expiresAt : ℤ}

@[simp]
theorem write_self : store.write key value expiresAt key = some ⟨value, expiresAt⟩ :=
  Function.update_self ..

theorem write_other {other : Key} (different : other ≠ key) :
    store.write key value expiresAt other = store other :=
  Function.update_of_ne different ..

theorem writeNew_of_unseen {now : ℤ} (unseen : store.read now key = none) :
    store.writeNew now key value expiresAt = store.write key value expiresAt := by
  rw [writeNew, unseen]

theorem writeNew_of_seen {now : ℤ} {present : Value} (seen : store.read now key = some present) :
    store.writeNew now key value expiresAt = store := by
  rw [writeNew, seen]

theorem writeNew_other {other : Key} (different : other ≠ key) (now : ℤ) :
    store.writeNew now key value expiresAt other = store other := by
  cases found : store.read now key with
  | none => rw [writeNew_of_unseen found, write_other different]
  | some present => rw [writeNew_of_seen found]

end ExpiringStore

/-! ### Offers -/

structure Offer (Value : Type) where
  time : ℤ
  value : Value

namespace Offer

variable {Key Value : Type} {lifetime now : ℤ} {offers : List (Offer Value)} {offer : Offer Value}

def take (lifetime : ℤ) (kept : List (Offer Value)) (offer : Offer Value) : List (Offer Value) :=
  match kept.getLast? with
  | none => kept ++ [offer]
  | some last => if offer.time < last.time + lifetime then kept else kept ++ [offer]

/-- The first offer and, from then on, the first one that is not made within the
lifetime of the last that was taken. -/
def taken (lifetime : ℤ) (offers : List (Offer Value)) : List (Offer Value) :=
  offers.foldl (take lifetime) []

theorem taken_snoc (lifetime : ℤ) (offers : List (Offer Value)) (offer : Offer Value) :
    taken lifetime (offers ++ [offer]) = take lifetime (taken lifetime offers) offer := by
  simp [taken, List.foldl_append]

theorem take_cases (lifetime : ℤ) (kept : List (Offer Value)) (offer : Offer Value) :
    (take lifetime kept offer = kept ∧
        ∃ last, kept.getLast? = some last ∧ offer.time < last.time + lifetime) ∨
      (take lifetime kept offer = kept ++ [offer] ∧
        ∀ last, kept.getLast? = some last → last.time + lifetime ≤ offer.time) := by
  unfold take
  cases found : kept.getLast? with
  | none => exact Or.inr ⟨rfl, by simp⟩
  | some last =>
      by_cases early : offer.time < last.time + lifetime
      · exact Or.inl ⟨if_pos early, last, rfl, early⟩
      · refine Or.inr ⟨if_neg early, ?_⟩
        intro other same
        cases same
        omega

theorem mem_of_mem_taken (member : offer ∈ taken lifetime offers) : offer ∈ offers := by
  induction offers using List.reverseRecOn with
  | nil => exact member
  | append_singleton offers final ih =>
      rw [taken_snoc] at member
      rcases take_cases lifetime (taken lifetime offers) final with ⟨same, _⟩ | ⟨added, _⟩
      · rw [same] at member
        exact List.mem_append_left _ (ih member)
      · rw [added] at member
        rcases List.mem_append.mp member with old | new
        · exact List.mem_append_left _ (ih old)
        · exact List.mem_append_right _ new

/-- Offers that are taken are at least a lifetime apart. -/
theorem taken_apart (positive : 0 ≤ lifetime) (offers : List (Offer Value)) :
    (taken lifetime offers).Pairwise (fun earlier later => earlier.time + lifetime ≤ later.time) := by
  induction offers using List.reverseRecOn with
  | nil => exact List.Pairwise.nil
  | append_singleton offers final ih =>
      rw [taken_snoc]
      rcases take_cases lifetime (taken lifetime offers) final with ⟨same, _⟩ | ⟨added, after⟩
      · rw [same]
        exact ih
      · rw [added, List.pairwise_append]
        refine ⟨ih, List.pairwise_singleton _ _, ?_⟩
        intro earlier member later isFinal
        rw [List.mem_singleton.mp isFinal]
        rcases List.eq_nil_or_concat (taken lifetime offers) with empty | ⟨init, last, whole⟩
        · rw [empty] at member
          cases member
        · rw [List.concat_eq_append] at whole
          have reached := after last (by rw [whole, List.getLast?_concat])
          rw [whole, List.mem_append] at member
          rcases member with before | here
          · rw [whole, List.pairwise_append] at ih
            have apart := ih.2.2 earlier before last (by simp)
            omega
          · rw [List.mem_singleton.mp here]
            exact reached

/-- Only the last offer taken can be unexpired. -/
theorem getLast?_of_unexpired (positive : 0 ≤ lifetime) (made : ∀ offer ∈ offers, offer.time ≤ now)
    (member : offer ∈ taken lifetime offers) (unexpired : now < offer.time + lifetime) :
    (taken lifetime offers).getLast? = some offer := by
  have apart := taken_apart positive offers
  rcases List.eq_nil_or_concat (taken lifetime offers) with empty | ⟨init, last, whole⟩
  · rw [empty] at member
    cases member
  · rw [List.concat_eq_append] at whole
    have lastMade : last.time ≤ now := made last (mem_of_mem_taken (by rw [whole]; simp))
    rw [whole] at apart member ⊢
    rw [List.getLast?_concat]
    rcases List.mem_append.mp member with before | here
    · have later := (List.pairwise_append.mp apart).2.2 offer before last (by simp)
      omega
    · rw [List.mem_singleton.mp here]

theorem taken_subset_append (lifetime : ℤ) (offers later : List (Offer Value)) :
    taken lifetime offers ⊆ taken lifetime (offers ++ later) := by
  induction later using List.reverseRecOn with
  | nil => simp
  | append_singleton later final ih =>
      rw [← List.append_assoc, taken_snoc]
      rcases take_cases lifetime (taken lifetime (offers ++ later)) final with
        ⟨same, _⟩ | ⟨added, _⟩
      · rw [same]
        exact ih
      · rw [added]
        exact fun offer member => List.mem_append_left _ (ih member)

variable {Stored : Type} {encode : Value → Stored}

def Tracked (lifetime : ℤ) (encode : Value → Stored) (offers : List (Offer Value))
    (store : ExpiringStore Key Stored) (key : Key) : Prop :=
  store key = (taken lifetime offers).getLast?.map
    (fun offer => ⟨encode offer.value, offer.time + lifetime⟩)

variable {store : ExpiringStore Key Stored} {key : Key}

theorem Tracked.read_eq (tracked : Tracked lifetime encode offers store key) (now : ℤ) :
    store.read now key =
      match (taken lifetime offers).getLast? with
      | none => none
      | some last => if now < last.time + lifetime then some (encode last.value) else none := by
  rw [ExpiringStore.read, tracked]
  cases (taken lifetime offers).getLast? with
  | none => rfl
  | some last => rfl

theorem Tracked.writeNew [DecidableEq Key] (tracked : Tracked lifetime encode offers store key)
    (now : ℤ) (value : Value) :
    Tracked lifetime encode (offers ++ [⟨now, value⟩])
      (store.writeNew now key (encode value) (now + lifetime)) key := by
  have seen := tracked.read_eq now
  unfold Tracked at tracked ⊢
  rw [taken_snoc, take]
  cases found : (taken lifetime offers).getLast? with
  | none =>
      rw [found] at seen
      rw [ExpiringStore.writeNew_of_unseen seen, ExpiringStore.write_self, List.getLast?_concat]
      rfl
  | some last =>
      rw [found] at seen tracked
      dsimp only at seen ⊢
      by_cases early : now < last.time + lifetime
      · rw [if_pos early] at seen ⊢
        rw [ExpiringStore.writeNew_of_seen seen, found]
        exact tracked
      · rw [if_neg early] at seen ⊢
        rw [ExpiringStore.writeNew_of_unseen seen, ExpiringStore.write_self, List.getLast?_concat]
        rfl

/-- What is seen at the key is an offer that was taken and has not expired. -/
theorem Tracked.read_iff (tracked : Tracked lifetime encode offers store key)
    (positive : 0 ≤ lifetime) (made : ∀ offer ∈ offers, offer.time ≤ now) (stored : Stored) :
    store.read now key = some stored ↔
      ∃ offer ∈ taken lifetime offers, encode offer.value = stored ∧ now < offer.time + lifetime := by
  rw [tracked.read_eq now]
  constructor
  · intro seen
    cases found : (taken lifetime offers).getLast? with
    | none =>
        rw [found] at seen
        cases seen
    | some last =>
        rw [found] at seen
        dsimp only at seen
        split at seen
        · next unexpired =>
            cases seen
            exact ⟨last, List.mem_of_getLast? found, rfl, unexpired⟩
        · cases seen
  · rintro ⟨offer, member, rfl, unexpired⟩
    rw [getLast?_of_unexpired positive made member unexpired]
    exact if_pos unexpired

end Offer

end ModelMux
