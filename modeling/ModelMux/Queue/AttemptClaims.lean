/-
The history of successful claims.

Only a claim advances `attempts_made`, by exactly one and never past the
budget, while the failure and recovery statements put the row back to a
claimable status at the same number.  So the claims of one job carry the
numbers 1, 2, 3, ... in that order, whatever envelopes are presented.
-/

import ModelMux.Queue.RowInvariant

namespace ModelMux.Queue

variable {Data Result Digest : Type}

namespace RowLabel

def attempt? : RowLabel Result → Option ℤ
  | .claimed attempt => some attempt
  | _ => none

def budget? : RowLabel Result → Option ℤ
  | .inserted budget => some budget
  | _ => none

end RowLabel

/-- Attempt numbers of the successful claims of one job, oldest first. -/
def claimedAttempts (id : JobId) (events : List (StoreEvent Data Result)) : List ℤ :=
  events.filterMap (fun event => (rowLabel id event).attempt?)

def attemptBudget (id : JobId) (events : List (StoreEvent Data Result)) : Option ℤ :=
  events.findSome? (fun event => (rowLabel id event).budget?)

def attemptsUpTo (count : ℕ) : List ℤ := (List.range count).map (fun index : ℕ => (index : ℤ) + 1)

theorem attemptsUpTo_succ (count : ℕ) :
    attemptsUpTo (count + 1) = attemptsUpTo count ++ [(count : ℤ) + 1] := by
  simp [attemptsUpTo, List.range_succ]

theorem attemptsUpTo_nodup (count : ℕ) : (attemptsUpTo count).Nodup := by
  refine List.Nodup.map ?_ List.nodup_range
  intro left right same
  have shifted : (left : ℤ) + 1 = (right : ℤ) + 1 := same
  omega

theorem length_attemptsUpTo (count : ℕ) : (attemptsUpTo count).length = count := by
  simp [attemptsUpTo]

theorem claimedAttempts_snoc (id : JobId) (events : List (StoreEvent Data Result))
    (event : StoreEvent Data Result) :
    claimedAttempts id (events ++ [event]) =
      claimedAttempts id events ++ (rowLabel id event).attempt?.toList := by
  unfold claimedAttempts
  rw [List.filterMap_append]
  cases announced : (rowLabel id event).attempt? <;> simp [announced]

theorem attemptBudget_snoc (id : JobId) (events : List (StoreEvent Data Result))
    (event : StoreEvent Data Result) :
    attemptBudget id (events ++ [event]) =
      (attemptBudget id events).or (rowLabel id event).budget? := by
  unfold attemptBudget
  rw [List.findSome?_append]
  simp

/-- The claims of one job against its row, if it has one, and its budget. -/
structure ClaimHistory (id : JobId) (events : List (StoreEvent Data Result))
    (state : StoreState Data Result Digest) : Prop where
  unissued : id ∉ state.issued → state.table.lookup id = none ∧
    claimedAttempts id events = [] ∧ attemptBudget id events = none
  present : ∀ row, state.table.lookup id = some row →
    claimedAttempts id events = attemptsUpTo row.attemptsMade.toNat ∧
      attemptBudget id events = some row.maxAttempts
  bounded : ∃ count : ℕ, claimedAttempts id events = attemptsUpTo count ∧
    (count : ℤ) ≤ (attemptBudget id events).getD 0

theorem ClaimHistory.initial (id : JobId) :
    ClaimHistory id [] (StoreState.initial : StoreState Data Result Digest) :=
  { unissued := fun _ => ⟨rfl, rfl, rfl⟩
    present := by intro row impossible; cases impossible
    bounded := ⟨0, rfl, by simp [attemptBudget]⟩ }

/-- For the attempt numbers of a job there are only three kinds of change. -/
theorem RowStep.attempts_cases {hashing : Hashing Data Digest} {label : RowLabel Result}
    {before after : Option (JobRow Data Result Digest)}
    (change : RowStep hashing label before after) :
    (label.attempt? = none ∧ label.budget? = none ∧ ∀ row, after = some row →
        ∃ old, before = some old ∧ row.attemptsMade = old.attemptsMade ∧
          row.maxAttempts = old.maxAttempts) ∨
      (before = none ∧ ∃ row, label = .inserted row.maxAttempts ∧ after = some row ∧
        row.attemptsMade = 0 ∧ 0 < row.maxAttempts) ∨
      (∃ old row, before = some old ∧ after = some row ∧ label = .claimed row.attemptsMade ∧
        row.attemptsMade = old.attemptsMade + 1 ∧ old.attemptsMade < old.maxAttempts ∧
        row.maxAttempts = old.maxAttempts) := by
  cases change with
  | unchanged => exact Or.inl ⟨rfl, rfl, fun row present => ⟨row, present, rfl, rfl⟩⟩
  | missed => exact Or.inl ⟨rfl, rfl, fun row present => ⟨row, present, rfl, rfl⟩⟩
  | retained => exact Or.inl ⟨rfl, rfl, fun row present => ⟨row, present, rfl, rfl⟩⟩
  | inserted options now uuid submission accepted =>
      refine Or.inr (Or.inl ⟨rfl, _, rfl, rfl, rfl, ?_⟩)
      simp only [columnsAccepted, Bool.and_eq_true, decide_eq_true_eq] at accepted
      exact accepted.1.1.1
  | claimed options now message old holds =>
      simp only [claimWhere, Bool.and_eq_true, decide_eq_true_eq] at holds
      obtain ⟨⟨⟨_, next⟩, below⟩, _⟩ := holds
      refine Or.inr (Or.inr ⟨old, _, rfl, rfl, rfl, ?_, below, rfl⟩)
      simp only [claimSet]
      omega
  | dispatched old =>
      refine Or.inl ⟨rfl, rfl, ?_⟩
      intro row present
      cases present
      exact ⟨old, rfl, rfl, rfl⟩
  | completed options now message response old holds =>
      refine Or.inl ⟨rfl, rfl, ?_⟩
      intro row present
      cases present
      exact ⟨old, rfl, rfl, rfl⟩
  | failed options now message error old holds =>
      refine Or.inl ⟨rfl, rfl, ?_⟩
      intro row present
      cases present
      exact ⟨old, rfl, rfl, rfl⟩
  | recovered options now old holds =>
      refine Or.inl ⟨rfl, rfl, ?_⟩
      intro row present
      cases present
      exact ⟨old, rfl, rfl, rfl⟩
  | deleted => exact Or.inl ⟨rfl, rfl, by intro row impossible; cases impossible⟩

theorem ClaimHistory.step {hashing : Hashing Data Digest} {id : JobId}
    {events : List (StoreEvent Data Result)} {event : StoreEvent Data Result}
    {state next : StoreState Data Result Digest} (history : ClaimHistory id events state)
    (consistent : TableConsistent state.table)
    (change : RowStep hashing (rowLabel id event) (state.table.lookup id) (next.table.lookup id))
    (issued : ∀ other ∈ state.issued, other ∈ next.issued)
    (fresh : ∀ budget, rowLabel id event = .inserted budget →
      id ∉ state.issued ∧ id ∈ next.issued) :
    ClaimHistory id (events ++ [event]) next := by
  have claims := claimedAttempts_snoc id events event
  have budget := attemptBudget_snoc id events event
  rcases change.attempts_cases with
    ⟨noAttempt, noBudget, kept⟩ | ⟨absent, row, announced, placed, zero, positive⟩ |
      ⟨old, row, found, updated, announced, advanced, below, sameBudget⟩
  · rw [noAttempt, Option.toList_none, List.append_nil] at claims
    rw [noBudget, Option.or_none] at budget
    refine { unissued := ?_, present := ?_, bounded := ?_ }
    · intro notIssued
      obtain ⟨absent, noClaims, none⟩ :=
        history.unissued (fun member => notIssued (issued id member))
      refine ⟨?_, by rw [claims, noClaims], by rw [budget, none]⟩
      cases after : next.table.lookup id with
      | none => rfl
      | some row =>
          obtain ⟨old, found, _⟩ := kept row after
          rw [absent] at found
          cases found
    · intro row after
      obtain ⟨old, found, sameAttempts, sameBudget⟩ := kept row after
      rw [claims, budget, sameAttempts, sameBudget]
      exact history.present old found
    · rw [claims, budget]
      exact history.bounded
  · obtain ⟨wasFresh, nowIssued⟩ := fresh _ announced
    obtain ⟨_, noClaims, none⟩ := history.unissued wasFresh
    rw [announced, noClaims] at claims
    rw [announced, none] at budget
    have emptyClaims : claimedAttempts id (events ++ [event]) = attemptsUpTo 0 := claims
    have wholeBudget : attemptBudget id (events ++ [event]) = some row.maxAttempts := budget
    refine { unissued := fun notIssued => absurd nowIssued notIssued, present := ?_, bounded := ?_ }
    · intro other after
      rw [placed] at after
      cases after
      rw [zero]
      exact ⟨emptyClaims, wholeBudget⟩
    · exact ⟨0, emptyClaims, by rw [wholeBudget]; simpa using positive.le⟩
  · obtain ⟨oldClaims, oldBudget⟩ := history.present old found
    have nonnegative := (consistent id old found).attemptsNonnegative
    rw [announced, oldClaims] at claims
    rw [announced, oldBudget] at budget
    have newClaims : claimedAttempts id (events ++ [event]) =
        attemptsUpTo row.attemptsMade.toNat := by
      have successor : row.attemptsMade.toNat = old.attemptsMade.toNat + 1 := by omega
      have last : row.attemptsMade = (old.attemptsMade.toNat : ℤ) + 1 := by omega
      rw [claims, successor, attemptsUpTo_succ, ← last]
      rfl
    have wholeBudget : attemptBudget id (events ++ [event]) = some row.maxAttempts := by
      rw [budget, sameBudget]
      rfl
    refine { unissued := ?_, present := ?_, bounded := ?_ }
    · intro notIssued
      have missing := (history.unissued (fun member => notIssued (issued id member))).1
      rw [found] at missing
      cases missing
    · intro other after
      rw [updated] at after
      cases after
      exact ⟨newClaims, wholeBudget⟩
    · refine ⟨_, newClaims, ?_⟩
      rw [wholeBudget, Option.getD_some]
      omega

section Runs

variable [DecidableEq Digest] {hashing : Hashing Data Digest} {collation : JobId → JobId → Bool}

theorem rowLabel_inserted {state next : StoreState Data Result Digest}
    {event : StoreEvent Data Result} {id : JobId} {budget : ℤ}
    (taken : storeStep hashing collation state event next)
    (announced : rowLabel id event = .inserted budget) :
    id ∉ state.issued ∧ id ∈ next.issued := by
  obtain ⟨call, options, now, uuid, submission, outcome, rfl, rfl⟩ :=
    rowLabel_eq_inserted announced
  obtain ⟨fresh, issued⟩ := storeStep_insert hashing collation taken
  exact ⟨fresh, by simp [issued]⟩

def RowsIssued (state : StoreState Data Result Digest) : Prop :=
  ∀ id, state.table.lookup id ≠ none → id ∈ state.issued

theorem storeStep_rowsIssued {state next : StoreState Data Result Digest}
    {event : StoreEvent Data Result} (issued : RowsIssued state)
    (taken : storeStep hashing collation state event next) : RowsIssued next := by
  intro id present
  obtain ⟨row, found⟩ := Option.ne_none_iff_exists'.mp present
  rcases (storeStep_rowStep hashing collation taken id).attempts_cases with
    ⟨_, _, kept⟩ | ⟨_, _, announced, _⟩ | ⟨old, _, before, _⟩
  · obtain ⟨old, before, _⟩ := kept row found
    exact storeStep_issued hashing collation taken id (issued id (by simp [before]))
  · exact (rowLabel_inserted taken announced).2
  · exact storeStep_issued hashing collation taken id (issued id (by simp [before]))

theorem run_claimHistory {state : StoreState Data Result Digest}
    {events : List (StoreEvent Data Result)}
    (run : Run (storeStep hashing collation) StoreState.initial events state) (id : JobId) :
    ClaimHistory id events state := by
  have both := run.historyInvariant
    (fun events state => TableConsistent state.table ∧ ClaimHistory id events state)
    ⟨initial_consistent, ClaimHistory.initial id⟩
    (by
      intro history state event next holds taken
      refine ⟨storeStep_consistent holds.1 taken, holds.2.step holds.1
        (storeStep_rowStep hashing collation taken id) (storeStep_issued hashing collation taken) ?_⟩
      intro budget announced
      exact rowLabel_inserted taken announced)
  exact both.2

end Runs

end ModelMux.Queue
