/-
Isolation of owners.

Two runs of the store are compared that agree on everything concerning one
owner.  They may differ in the calls of other owners, in all dispatches, in the
statements about jobs of others, and in the ids that are drawn: a permutation
renames those of the one run to those of the other.  The owner then sees the
same results, up to this renaming.
-/

import ModelMux.Queue.Submission
import Mathlib.Logic.Equiv.Defs

namespace ModelMux.Queue

variable {Data Result Digest : Type}

/-! ### The two runs -/

/-- What identifies an owner in a run: the calls it makes and the ids of its
jobs. -/
structure OwnerScope where
  owner : JsString
  mine : Nat → Bool
  own : JobId → Bool

def OwnerScope.rename (scope : OwnerScope) (relabel : JobId ≃ JobId) : OwnerScope :=
  { scope with own := fun id => scope.own (relabel.symm id) }

/-- The numbering of calls and ids agrees with the owner of each submission. -/
def OwnerScope.Describes (scope : OwnerScope) (event : StoreEvent Data Result) : Prop :=
  match event.1 with
  | .insert call _ _ uuid submission =>
      (scope.mine call = true ↔ submission.ownerId = scope.owner) ∧
        (submission.ownerId = scope.owner → scope.own (jobId uuid) = true)
  | _ => True

def OwnerScope.concerns (scope : OwnerScope) : StoreOp Data Result → Bool
  | .insert _ _ _ _ submission => submission.ownerId = scope.owner
  | .select call => scope.mine call
  | .getJob _ _ ownerId => ownerId = scope.owner
  | .dispatchOne _ _ _ _ => false
  | .claim _ _ message | .complete _ _ message _ | .fail _ _ message _ => scope.own message.id
  | .maintainRecover _ _ | .maintainDelete _ _ => true

def JobEnvelope.rename (relabel : JobId ≃ JobId) (message : JobEnvelope) : JobEnvelope :=
  { message with id := relabel message.id }

inductive Renamed (relabel : JobId ≃ JobId) : StoreOp Data Result → StoreOp Data Result → Prop
  | insert (call : Nat) (options : JobStoreOptions) (now : Timestamp) (uuid uuid' : Uuid)
      (submission : JobSubmission Data) (drawn : jobId uuid' = relabel (jobId uuid)) :
      Renamed relabel (.insert call options now uuid submission)
        (.insert call options now uuid' submission)
  | select (call : Nat) : Renamed relabel (.select call) (.select call)
  | getJob (options : JobStoreOptions) (id : JobId) (ownerId : JsString) :
      Renamed relabel (.getJob options id ownerId) (.getJob options (relabel id) ownerId)
  | claim (options : JobStoreOptions) (now : Timestamp) (message : JobEnvelope) :
      Renamed relabel (.claim options now message)
        (.claim options now (message.rename relabel))
  | complete (options : JobStoreOptions) (now : Timestamp) (message : JobEnvelope)
      (response : Result) :
      Renamed relabel (.complete options now message response)
        (.complete options now (message.rename relabel) response)
  | fail (options : JobStoreOptions) (now : Timestamp) (message : JobEnvelope)
      (error : JobProcessingError) :
      Renamed relabel (.fail options now message error)
        (.fail options now (message.rename relabel) error)
  | maintainRecover (options : JobStoreOptions) (now : Timestamp) :
      Renamed relabel (.maintainRecover options now) (.maintainRecover options now)
  | maintainDelete (options : JobStoreOptions) (now : Timestamp) :
      Renamed relabel (.maintainDelete options now) (.maintainDelete options now)

def renameOutcome (relabel : JobId ≃ JobId) : StoreOutcome Data Result → StoreOutcome Data Result
  | .enqueued (.ok receipt) => .enqueued (.ok { receipt with id := relabel receipt.id })
  | .status (some status) => .status (some { status with id := relabel status.id })
  | outcome => outcome

def StoreOp.visible : StoreOp Data Result → Bool
  | .insert _ _ _ _ _ | .select _ | .getJob _ _ _ => true
  | _ => false

def SameAnswer (relabel : JobId ≃ JobId) (event event' : StoreEvent Data Result) : Prop :=
  event.1.visible = true → event'.2 = renameOutcome relabel event.2

/-! ### What the owner's rows have in common -/

def ownerView (owner : JsString) (table : JobTable Data Result Digest) (id : JobId) :
    Option (JobRow Data Result Digest) :=
  (table.lookup id).filter (fun row => row.ownerId = owner)

/-- One job in both runs; the pending flag depends on the dispatches. -/
def SameJob (relabel : JobId ≃ JobId) (row row' : JobRow Data Result Digest) : Prop :=
  row' = { row with id := relabel row.id, dispatchPending := row'.dispatchPending }

theorem ownerView_eq_some {owner : JsString} {table : JobTable Data Result Digest} {id : JobId}
    {row : JobRow Data Result Digest} :
    ownerView owner table id = some row ↔ table.lookup id = some row ∧ row.ownerId = owner := by
  simp [ownerView, Option.filter_eq_some_iff]

theorem ownerView_of_mem {owner : JsString} {table : JobTable Data Result Digest}
    {row : JobRow Data Result Digest} (member : row ∈ table.rows) (owned : row.ownerId = owner) :
    ownerView owner table row.id = some row :=
  ownerView_eq_some.mpr ⟨KeyedTable.lookup_of_mem member, owned⟩

theorem ownerView_insert [DecidableEq Digest] {owner : JsString}
    {table next : JobTable Data Result Digest} {row : JobRow Data Result Digest}
    (placed : table.insert row = .inserted next) (id : JobId) :
    ownerView owner next id =
      if row.id = id then (some row).filter (fun row => row.ownerId = owner)
      else ownerView owner table id := by
  unfold ownerView
  rw [KeyedTable.lookup_insert placed]
  split <;> rfl

theorem getJob_eq (options : JobStoreOptions) (id : JobId) (ownerId : JsString)
    (table : JobTable Data Result Digest) :
    getJob options id ownerId table =
      ((ownerView ownerId table id).filter (fun row => row.queueName = options.name)).map
        jobStatus := by
  unfold getJob
  congr 1
  cases chosen : table.select (fun row =>
      row.id = id && row.ownerId = ownerId && row.queueName = options.name) with
  | none =>
      cases found : ownerView ownerId table id with
      | none => rfl
      | some row =>
          obtain ⟨stored, owned⟩ := ownerView_eq_some.mp found
          have missed := KeyedTable.select_none chosen row (KeyedTable.lookup_mem stored)
          have key : row.id = id := KeyedTable.lookup_key stored
          simp only [key, owned, decide_true, Bool.true_and] at missed
          simp [Option.filter, missed]
  | some row =>
      obtain ⟨member, holds⟩ := KeyedTable.select_mem chosen
      simp only [Bool.and_eq_true, decide_eq_true_eq] at holds
      obtain ⟨⟨key, owned⟩, queue⟩ := holds
      rw [← key, ownerView_of_mem member owned]
      simp [Option.filter, queue]

/-! ### Statements as changes of single rows -/

def rowEffect : StoreOp Data Result → JobRow Data Result Digest →
    Option (JobRow Data Result Digest)
  | .claim options now message, row =>
      some (if claimWhere options now message row then claimSet options now message row else row)
  | .complete options now message response, row =>
      some (if outcomeWhere options message row then completeSet now response row else row)
  | .fail options now message error, row =>
      some (if outcomeWhere options message row then failSet now error row else row)
  | .maintainRecover options now, row =>
      some (if recoverWhere options now row then recoverSet now row else row)
  | .maintainDelete options now, row => if deleteWhere options now row then none else some row
  | _, row => some row

theorem rowEffect_ownerId {op : StoreOp Data Result} {row later : JobRow Data Result Digest}
    (effect : rowEffect op row = some later) : later.ownerId = row.ownerId := by
  cases op with
  | claim options now message =>
      simp only [rowEffect, Option.some.injEq] at effect
      rw [← effect]
      split <;> rfl
  | complete options now message response =>
      simp only [rowEffect, Option.some.injEq] at effect
      rw [← effect]
      split <;> rfl
  | fail options now message error =>
      simp only [rowEffect, Option.some.injEq] at effect
      rw [← effect]
      split <;> rfl
  | maintainRecover options now =>
      simp only [rowEffect, Option.some.injEq] at effect
      rw [← effect]
      split <;> rfl
  | maintainDelete options now =>
      simp only [rowEffect] at effect
      split at effect
      · cases effect
      · cases effect
        rfl
  | insert | select | getJob | dispatchOne =>
      cases effect
      rfl

/-- Statements that are one change of each row and leave the pending calls alone. -/
def StoreOp.rowwise : StoreOp Data Result → Bool
  | .insert _ _ _ _ _ | .select _ | .dispatchOne _ _ _ _ => false
  | _ => true

section Execution

variable [DecidableEq Digest] (hashing : Hashing Data Digest) (collation : JobId → JobId → Bool)

theorem exec_rowwise (state : StoreState Data Result Digest) {op : StoreOp Data Result}
    (rowwise : op.rowwise = true) (id : JobId) :
    (exec hashing collation state op).2.table.lookup id =
      (state.table.lookup id).bind (rowEffect op) ∧
    (exec hashing collation state op).2.pending = state.pending := by
  cases op with
  | insert | select | dispatchOne => cases rowwise
  | getJob options wanted ownerId => exact ⟨(Option.bind_fun_some _).symm, rfl⟩
  | claim options now message =>
      refine ⟨?_, rfl⟩
      exact (lookup_claim options now message state.table id).trans Option.map_eq_bind
  | complete options now message response =>
      refine ⟨?_, rfl⟩
      exact (KeyedTable.lookup_update state.table (outcomeWhere options message) (completeSet now response)
        (fun _ => rfl) (fun _ => rfl) id).trans Option.map_eq_bind
  | fail options now message error =>
      refine ⟨?_, rfl⟩
      exact (KeyedTable.lookup_update state.table (outcomeWhere options message) (failSet now error)
        (fun _ => rfl) (fun _ => rfl) id).trans Option.map_eq_bind
  | maintainRecover options now =>
      refine ⟨?_, rfl⟩
      exact (KeyedTable.lookup_update state.table (recoverWhere options now) (recoverSet now)
        (fun _ => rfl) (fun _ => rfl) id).trans Option.map_eq_bind
  | maintainDelete options now =>
      refine ⟨?_, rfl⟩
      change (state.table.delete (deleteWhere options now)).lookup id = _
      rw [KeyedTable.lookup_delete]
      cases state.table.lookup id with
      | none => rfl
      | some row => cases holds : deleteWhere options now row <;> simp [rowEffect, holds]

theorem ownerView_rowwise (owner : JsString) (state : StoreState Data Result Digest)
    {op : StoreOp Data Result} (rowwise : op.rowwise = true) (id : JobId) :
    ownerView owner (exec hashing collation state op).2.table id =
      (ownerView owner state.table id).bind (rowEffect op) := by
  unfold ownerView
  rw [(exec_rowwise hashing collation state rowwise id).1]
  cases state.table.lookup id with
  | none => rfl
  | some row =>
      cases effect : rowEffect op row with
      | none => by_cases owned : row.ownerId = owner <;> simp [effect, Option.filter, owned]
      | some later =>
          have same := rowEffect_ownerId effect
          by_cases owned : row.ownerId = owner <;> simp [effect, Option.filter, owned, same]

end Execution

theorem rowEffect_foreign {scope : OwnerScope} {op : StoreOp Data Result}
    {row : JobRow Data Result Digest} (foreign : scope.concerns op = false)
    (owned : scope.own row.id = true) : rowEffect op row = some row := by
  cases op with
  | claim options now message =>
      cases matched : claimWhere options now message row with
      | false => simp [rowEffect, matched]
      | true =>
          rw [claimWhere_id matched] at owned
          cases foreign.symm.trans owned
  | complete options now message response =>
      cases matched : outcomeWhere options message row with
      | false => simp [rowEffect, matched]
      | true =>
          rw [outcomeWhere_id matched] at owned
          cases foreign.symm.trans owned
  | fail options now message error =>
      cases matched : outcomeWhere options message row with
      | false => simp [rowEffect, matched]
      | true =>
          rw [outcomeWhere_id matched] at owned
          cases foreign.symm.trans owned
  | maintainRecover options now => cases foreign
  | maintainDelete options now => cases foreign
  | insert | select | getJob | dispatchOne => rfl

/-- A renamed statement does to the renamed row what the statement does to the
row: no condition or assignment reads the pending flag. -/
theorem rowEffect_renamed {relabel : JobId ≃ JobId} {op op' : StoreOp Data Result}
    {row row' : JobRow Data Result Digest} (renamed : Renamed relabel op op')
    (same : SameJob relabel row row') :
    Option.Rel (SameJob relabel) (rowEffect op row) (rowEffect op' row') := by
  unfold SameJob at same
  generalize row'.dispatchPending = pending at same
  subst same
  cases renamed with
  | insert | select | getJob => exact .some rfl
  | claim options now message =>
      have conditions : claimWhere options now (message.rename relabel)
          { row with id := relabel row.id, dispatchPending := pending } =
          claimWhere options now message row := by
        rw [Bool.eq_iff_iff]
        simp only [claimWhere, Bool.and_eq_true, decide_eq_true_eq]
        simp [JobEnvelope.rename]
      simp only [rowEffect, conditions]
      exact .some (by split <;> rfl)
  | complete options now message response =>
      have conditions : outcomeWhere options (message.rename relabel)
          { row with id := relabel row.id, dispatchPending := pending } =
          outcomeWhere options message row := by
        rw [Bool.eq_iff_iff]
        simp only [outcomeWhere, Bool.and_eq_true, decide_eq_true_eq]
        simp [JobEnvelope.rename]
      simp only [rowEffect, conditions]
      exact .some (by split <;> rfl)
  | fail options now message error =>
      have conditions : outcomeWhere options (message.rename relabel)
          { row with id := relabel row.id, dispatchPending := pending } =
          outcomeWhere options message row := by
        rw [Bool.eq_iff_iff]
        simp only [outcomeWhere, Bool.and_eq_true, decide_eq_true_eq]
        simp [JobEnvelope.rename]
      simp only [rowEffect, conditions]
      exact .some (by split <;> rfl)
  | maintainRecover options now =>
      change Option.Rel _ (some _) (some (if recoverWhere options now row then _ else _))
      exact .some (by split <;> rfl)
  | maintainDelete options now =>
      change Option.Rel _ (if deleteWhere options now row then none else _)
        (if deleteWhere options now row then none else _)
      split
      · exact .none
      · exact .some rfl

/-! ### The relation between the two runs -/

def OwnerScope.calls (scope : OwnerScope) (state : StoreState Data Result Digest) :
    List (PendingEnqueue Data) :=
  state.pending.filter (fun enqueue => scope.mine enqueue.call)

structure OwnerRelated (scope : OwnerScope) (relabel : JobId ≃ JobId)
    (state state' : StoreState Data Result Digest) : Prop where
  rows : ∀ id, Option.Rel (SameJob relabel) (ownerView scope.owner state.table id)
    (ownerView scope.owner state'.table (relabel id))
  owned : ∀ id row, ownerView scope.owner state.table id = some row → scope.own id = true
  calls : scope.calls state = scope.calls state'
  callsOwned : ∀ enqueue ∈ scope.calls state, enqueue.submission.ownerId = scope.owner
  issued : RowsIssued state
  issued' : RowsIssued state'

theorem OwnerRelated.initial (scope : OwnerScope) (relabel : JobId ≃ JobId) :
    OwnerRelated scope relabel (StoreState.initial : StoreState Data Result Digest)
      StoreState.initial :=
  { rows := fun _ => .none
    owned := by intro id row impossible; cases impossible
    calls := rfl
    callsOwned := by intro enqueue impossible; cases impossible
    issued := fun _ present => absurd rfl present
    issued' := fun _ present => absurd rfl present }

theorem SameJob.symm {relabel : JobId ≃ JobId} {row row' : JobRow Data Result Digest}
    (same : SameJob relabel row row') : SameJob relabel.symm row' row := by
  unfold SameJob at *
  rw [same]
  simp

theorem OwnerRelated.symm {scope : OwnerScope} {relabel : JobId ≃ JobId}
    {state state' : StoreState Data Result Digest}
    (related : OwnerRelated scope relabel state state') :
    OwnerRelated (scope.rename relabel) relabel.symm state' state := by
  have rows : ∀ id, Option.Rel (SameJob relabel.symm) (ownerView scope.owner state'.table id)
      (ownerView scope.owner state.table (relabel.symm id)) := by
    intro id
    have there := related.rows (relabel.symm id)
    rw [relabel.apply_symm_apply] at there
    generalize ownerView scope.owner state'.table id = view at there ⊢
    generalize ownerView scope.owner state.table (relabel.symm id) = other at there ⊢
    cases there with
    | none => exact .none
    | some same => exact .some same.symm
  refine
    { rows := rows
      owned := ?_
      calls := related.calls.symm
      callsOwned := ?_
      issued := related.issued'
      issued' := related.issued }
  · intro id row found
    have there := rows id
    rw [show ownerView scope.owner state'.table id = some row from found] at there
    generalize view : ownerView scope.owner state.table (relabel.symm id) = other at there
    cases there with
    | some same => exact related.owned _ _ view
  · intro enqueue member
    exact related.callsOwned enqueue (related.calls ▸ member)

theorem OwnerScope.rename_symm (scope : OwnerScope) (relabel : JobId ≃ JobId) :
    (scope.rename relabel).rename relabel.symm = scope := by
  simp [OwnerScope.rename]

/-- A step that changes at most the pending flags of the owner's rows. -/
theorem OwnerRelated.unseen {scope : OwnerScope} {relabel : JobId ≃ JobId}
    {state state' next : StoreState Data Result Digest}
    (related : OwnerRelated scope relabel state state')
    (rows : ∀ id, Option.Rel
      (fun row later => later = { row with dispatchPending := later.dispatchPending })
      (ownerView scope.owner state.table id) (ownerView scope.owner next.table id))
    (calls : scope.calls next = scope.calls state) (issued : RowsIssued next) :
    OwnerRelated scope relabel next state' := by
  refine
    { rows := ?_
      owned := ?_
      calls := calls.trans related.calls
      callsOwned := calls ▸ related.callsOwned
      issued := issued
      issued' := related.issued' }
  · intro id
    have there := related.rows id
    have here := rows id
    generalize ownerView scope.owner state.table id = view at there here
    generalize ownerView scope.owner next.table id = view' at here
    cases here with
    | none => exact there
    | some unchanged =>
        generalize ownerView scope.owner state'.table (relabel id) = other at there
        cases there with
        | some same =>
            refine .some ?_
            unfold SameJob at *
            rw [same, unchanged]
  · intro id row found
    have here := rows id
    rw [found] at here
    generalize view : ownerView scope.owner state.table id = old at here
    cases here with
    | some unchanged => exact related.owned _ _ view

private theorem rel_refl (view : Option (JobRow Data Result Digest)) :
    Option.Rel (fun row later => later = { row with dispatchPending := later.dispatchPending })
      view view := by
  cases view with
  | none => exact .none
  | some row => exact .some rfl

section Steps

variable [DecidableEq Digest] {hashing : Hashing Data Digest} {collation : JobId → JobId → Bool}
  {scope : OwnerScope} {relabel : JobId ≃ JobId}
  {state state' next next' : StoreState Data Result Digest}

theorem OwnerRelated.foreign {event : StoreEvent Data Result}
    (related : OwnerRelated scope relabel state state')
    (taken : storeStep hashing collation state event next) (describes : scope.Describes event)
    (foreign : scope.concerns event.1 = false) : OwnerRelated scope relabel next state' := by
  have issued := storeStep_rowsIssued related.issued taken
  obtain ⟨op, outcome⟩ := event
  obtain ⟨allowed, executed⟩ := taken
  have rowwise : op.rowwise = true → OwnerRelated scope relabel next state' := by
    intro single
    have pending := (exec_rowwise hashing collation state single []).2
    have nextEq : next = (exec hashing collation state op).2 := by rw [executed]
    refine related.unseen ?_ (by rw [OwnerScope.calls, nextEq, pending]; rfl) issued
    intro id
    rw [nextEq, ownerView_rowwise hashing collation scope.owner state single]
    cases view : ownerView scope.owner state.table id with
    | none => exact .none
    | some row =>
        have owned := related.owned id row view
        have key : row.id = id := KeyedTable.lookup_key (ownerView_eq_some.mp view).1
        rw [Option.bind_some, rowEffect_foreign foreign (key ▸ owned)]
        exact .some rfl
  cases op with
  | insert call options now uuid submission =>
      have other : submission.ownerId ≠ scope.owner := by simpa [OwnerScope.concerns] using foreign
      have notMine : scope.mine call = false := by
        cases mine : scope.mine call with
        | false => rfl
        | true => exact absurd (describes.1.mp mine) other
      change execInsert hashing call options now uuid submission state = (outcome, next) at executed
      rcases execInsert_cases hashing call options now uuid submission state with
        ⟨table, _, placed, result⟩ | ⟨_, _, result⟩ | ⟨_, result⟩
      · rw [result] at executed
        cases executed
        refine related.unseen ?_ rfl issued
        intro id
        have same : ownerView scope.owner table id = ownerView scope.owner state.table id := by
          unfold ownerView
          rw [KeyedTable.lookup_insert placed]
          split
          · rename_i key
            have fresh := KeyedTable.lookup_fresh placed
            rw [key] at fresh
            simp [fresh, Option.filter, newRow, other]
          · rfl
        rw [show ownerView scope.owner _ id = _ from same]
        exact rel_refl _
      · rw [result] at executed
        cases executed
        refine related.unseen (fun id => rel_refl _) ?_ issued
        simp [OwnerScope.calls, notMine]
      · rw [result] at executed
        cases executed
        exact related.unseen (fun id => rel_refl _) rfl issued
  | select call =>
      have sameTable := (execSelect_table hashing call state).1
      change execSelect hashing call state = (outcome, next) at executed
      refine related.unseen ?_ ?_ issued
      · intro id
        rw [executed] at sameTable
        rw [sameTable]
        exact rel_refl _
      · unfold execSelect at executed
        split at executed
        · cases executed
          rfl
        · cases executed
          simp only [OwnerScope.calls, List.filter_filter]
          apply List.filter_congr
          intro enqueue _
          cases mine : scope.mine enqueue.call with
          | false => rfl
          | true =>
              have different : enqueue.call ≠ call := by
                intro same
                rw [same] at mine
                cases foreign.symm.trans mine
              simp [different]
  | dispatchOne options now locked committed =>
      change execDispatch collation options now locked committed state = (outcome, next) at executed
      unfold execDispatch at executed
      split at executed
      · cases executed
        exact related.unseen (fun id => rel_refl _) rfl issued
      · rename_i row chosen
        cases executed
        cases committed with
        | false => exact related.unseen (fun id => rel_refl _) rfl issued
        | true =>
            refine related.unseen ?_ rfl issued
            intro id
            change Option.Rel _ _ (ownerView scope.owner (dispatchMark row.id state.table) id)
            simp only [ownerView]
            rw [lookup_dispatchMark]
            split
            · cases state.table.lookup id with
              | none => exact .none
              | some found =>
                  change Option.Rel _ (if decide (found.ownerId = scope.owner) then some found else none)
                    (if decide (found.ownerId = scope.owner) then some (dispatchSet found) else none)
                  split
                  · exact .some rfl
                  · exact .none
            · exact rel_refl _
  | getJob options wanted ownerId => exact rowwise rfl
  | claim options now message => exact rowwise rfl
  | complete options now message response => exact rowwise rfl
  | fail options now message error => exact rowwise rfl
  | maintainRecover options now => exact rowwise rfl
  | maintainDelete options now => exact rowwise rfl

omit [DecidableEq Digest] in
theorem OwnerRelated.partner (related : OwnerRelated scope relabel state state')
    {row : JobRow Data Result Digest} (member : row ∈ state.table.rows)
    (owned : row.ownerId = scope.owner) :
    ∃ row' ∈ state'.table.rows, SameJob relabel row row' ∧
      row'.submissionKey = row.submissionKey := by
  have there := related.rows row.id
  rw [ownerView_of_mem member owned] at there
  generalize view : ownerView scope.owner state'.table (relabel row.id) = other at there
  cases there with
  | @some _ row' same =>
      refine ⟨row', KeyedTable.lookup_mem (ownerView_eq_some.mp view).1, same, ?_⟩
      unfold SameJob at same
      rw [same]
      rfl

theorem storeStep_insert_cases {call : Nat} {options : JobStoreOptions} {now : Timestamp}
    {uuid : Uuid} {submission : JobSubmission Data} {outcome : StoreOutcome Data Result}
    (issued : RowsIssued state)
    (taken : storeStep hashing collation state
      (.insert call options now uuid submission, outcome) next) :
    (columnsAccepted options = false ∧ outcome = .raised ∧ next.table = state.table ∧
        next.pending = state.pending) ∨
      (columnsAccepted options = true ∧
        (∃ row ∈ state.table.rows, row.submissionKey = submissionKey hashing options submission) ∧
        outcome = .conflict ∧ next.table = state.table ∧
        next.pending = { call := call, options := options, submission := submission } ::
          state.pending) ∨
      (columnsAccepted options = true ∧
        (¬ ∃ row ∈ state.table.rows,
          row.submissionKey = submissionKey hashing options submission) ∧
        outcome = .enqueued (.ok { id := jobId uuid, requestId := submission.requestId }) ∧
        state.table.insert (newRow hashing options now uuid submission) = .inserted next.table ∧
        next.pending = state.pending) := by
  obtain ⟨⟨fresh, _⟩, executed⟩ := taken
  change execInsert hashing call options now uuid submission state = (outcome, next) at executed
  rcases execInsert_cases hashing call options now uuid submission state with
    ⟨table, accepted, placed, result⟩ | ⟨accepted, placed, result⟩ | ⟨refused, result⟩
  · rw [result] at executed
    cases executed
    refine Or.inr (Or.inr ⟨accepted, ?_, rfl, placed, rfl⟩)
    rintro ⟨row, member, same⟩
    exact (KeyedTable.insert_inserted placed).2.1 (List.mem_map.mpr ⟨row, member, same⟩)
  · rw [result] at executed
    cases executed
    exact Or.inr (Or.inl ⟨accepted, KeyedTable.insert_conflict placed, rfl, rfl, rfl⟩)
  · rw [result] at executed
    cases executed
    rcases refused with rejected | duplicate
    · exact Or.inl ⟨rejected, rfl, rfl, rfl⟩
    · obtain ⟨row, member, key⟩ := KeyedTable.insert_duplicateKey duplicate
      have sameId : row.id = jobId uuid := key
      refine absurd (issued (jobId uuid) ?_) fresh
      rw [← sameId, KeyedTable.lookup_of_mem member]
      simp

theorem OwnerRelated.insert (related : OwnerRelated scope relabel state state') {call : Nat}
    {options : JobStoreOptions} {now : Timestamp} {uuid uuid' : Uuid}
    {submission : JobSubmission Data} {outcome outcome' : StoreOutcome Data Result}
    (drawn : jobId uuid' = relabel (jobId uuid))
    (taken : storeStep hashing collation state
      (.insert call options now uuid submission, outcome) next)
    (taken' : storeStep hashing collation state'
      (.insert call options now uuid' submission, outcome') next')
    (mine : scope.mine call = true) (owned : scope.own (jobId uuid) = true)
    (owner : submission.ownerId = scope.owner) :
    OwnerRelated scope relabel next next' ∧ outcome' = renameOutcome relabel outcome := by
  have issued := storeStep_rowsIssued related.issued taken
  have issued' := storeStep_rowsIssued related.issued' taken'
  have keyTaken : (∃ row ∈ state.table.rows,
        row.submissionKey = submissionKey hashing options submission) ↔
      ∃ row ∈ state'.table.rows,
        row.submissionKey = submissionKey hashing options submission := by
    constructor
    · rintro ⟨row, member, key⟩
      have rowOwner : row.ownerId = scope.owner := (congrArg (fun key => key.2.1) key).trans owner
      obtain ⟨row', member', _, same⟩ := related.partner member rowOwner
      exact ⟨row', member', same.trans key⟩
    · rintro ⟨row, member, key⟩
      have rowOwner : row.ownerId = scope.owner := (congrArg (fun key => key.2.1) key).trans owner
      obtain ⟨row', member', _, same⟩ := related.symm.partner member rowOwner
      exact ⟨row', member', same.trans key⟩
  rcases storeStep_insert_cases related.issued taken with
    ⟨rejected, answer, table, pending⟩ | ⟨accepted, clash, answer, table, pending⟩ |
      ⟨accepted, free, answer, placed, pending⟩ <;>
  rcases storeStep_insert_cases related.issued' taken' with
    ⟨rejected', answer', table', pending'⟩ | ⟨accepted', clash', answer', table', pending'⟩ |
      ⟨accepted', free', answer', placed', pending'⟩
  · refine ⟨?_, by rw [answer, answer']; rfl⟩
    exact
      { rows := by rw [table, table']; exact related.rows
        owned := by rw [table]; exact related.owned
        calls := by simp only [OwnerScope.calls, pending, pending']; exact related.calls
        callsOwned := by simp only [OwnerScope.calls, pending]; exact related.callsOwned
        issued := issued
        issued' := issued' }
  · cases rejected.symm.trans accepted'
  · cases rejected.symm.trans accepted'
  · cases rejected'.symm.trans accepted
  · refine ⟨?_, by rw [answer, answer']; rfl⟩
    refine
      { rows := by rw [table, table']; exact related.rows
        owned := by rw [table]; exact related.owned
        calls := ?_
        callsOwned := ?_
        issued := issued
        issued' := issued' }
    · simp only [OwnerScope.calls, pending, pending', List.filter_cons, mine, if_true]
      exact congrArg _ related.calls
    · simp only [OwnerScope.calls, pending, List.filter_cons, mine, if_true]
      intro enqueue member
      rw [List.mem_cons] at member
      rcases member with rfl | old
      · exact owner
      · exact related.callsOwned enqueue old
  · exact absurd (keyTaken.mp clash) free'
  · cases rejected'.symm.trans accepted
  · exact absurd (keyTaken.mpr clash') free
  · refine ⟨?_, by rw [answer, answer', drawn]; rfl⟩
    refine
      { rows := ?_
        owned := ?_
        calls := by simp only [OwnerScope.calls, pending, pending']; exact related.calls
        callsOwned := by simp only [OwnerScope.calls, pending]; exact related.callsOwned
        issued := issued
        issued' := issued' }
    · intro id
      rw [ownerView_insert placed, ownerView_insert placed', newRow_id, newRow_id, drawn]
      by_cases same : jobId uuid = id
      · simp only [same, if_true]
        simp only [Option.filter, newRow, owner, decide_true, if_true]
        exact .some (by simp [SameJob, drawn, same])
      · have different : relabel (jobId uuid) ≠ relabel id := by simpa using same
        rw [if_neg same, if_neg different]
        exact related.rows id
    · intro id row found
      rw [ownerView_insert placed, newRow_id] at found
      split at found
      · rename_i same
        exact same ▸ owned
      · exact related.owned id row found

theorem enqueueSelect_eq_some {options : JobStoreOptions} {submission : JobSubmission Data}
    {table : JobTable Data Result Digest} {row : JobRow Data Result Digest}
    (member : row ∈ table.rows)
    (key : row.submissionKey = submissionKey hashing options submission) :
    enqueueSelect hashing options submission table = some row := by
  cases selected : enqueueSelect hashing options submission table with
  | none =>
      have missed := KeyedTable.select_none selected row member
      simp only [JobRow.submissionKey, submissionKey, Prod.mk.injEq] at key
      simp [key.1, key.2.1, key.2.2] at missed
  | some other =>
      obtain ⟨otherMember, otherKey⟩ := enqueueSelect_mem selected
      rw [KeyedTable.eq_of_unique otherMember member (otherKey.trans key.symm)]

theorem OwnerRelated.enqueueSelect (related : OwnerRelated scope relabel state state')
    {options : JobStoreOptions} {submission : JobSubmission Data}
    (owner : submission.ownerId = scope.owner) :
    Option.Rel (SameJob relabel) (enqueueSelect hashing options submission state.table)
      (enqueueSelect hashing options submission state'.table) := by
  have rowOwner : ∀ {row : JobRow Data Result Digest},
      row.submissionKey = submissionKey hashing options submission →
        row.ownerId = scope.owner := by
    intro row key
    exact (congrArg (fun key => key.2.1) key).trans owner
  cases selected : Queue.enqueueSelect hashing options submission state.table with
  | some row =>
      obtain ⟨member, key⟩ := enqueueSelect_mem selected
      obtain ⟨row', member', same, sameKey⟩ := related.partner member (rowOwner key)
      rw [enqueueSelect_eq_some member' (sameKey.trans key)]
      exact .some same
  | none =>
      cases selected' : Queue.enqueueSelect hashing options submission state'.table with
      | none => exact .none
      | some row' =>
          obtain ⟨member', key'⟩ := enqueueSelect_mem selected'
          obtain ⟨row, member, _, sameKey⟩ := related.symm.partner member' (rowOwner key')
          rw [enqueueSelect_eq_some member (sameKey.trans key')] at selected
          cases selected

theorem enqueueResult_renamed {payloadHash : Digest}
    {found found' : Option (JobRow Data Result Digest)}
    (same : Option.Rel (SameJob relabel) found found') :
    (StoreOutcome.enqueued (enqueueResult payloadHash found') : StoreOutcome Data Result) =
      renameOutcome relabel (.enqueued (enqueueResult payloadHash found)) := by
  cases same with
  | none => rfl
  | @some row row' same =>
      unfold SameJob at same
      rw [same]
      simp only [enqueueResult]
      split <;> rfl

theorem OwnerRelated.select (related : OwnerRelated scope relabel state state') {call : Nat}
    {outcome outcome' : StoreOutcome Data Result}
    (taken : storeStep hashing collation state (.select call, outcome) next)
    (taken' : storeStep hashing collation state' (.select call, outcome') next')
    (mine : scope.mine call = true) :
    OwnerRelated scope relabel next next' ∧ outcome' = renameOutcome relabel outcome := by
  have issued := storeStep_rowsIssued related.issued taken
  have issued' := storeStep_rowsIssued related.issued' taken'
  have listed : ∀ state : StoreState Data Result Digest,
      state.pending.find? (fun enqueue => decide (enqueue.call = call)) =
        (scope.calls state).find? (fun enqueue => decide (enqueue.call = call)) := by
    intro state
    rw [OwnerScope.calls, List.find?_filter]
    congr 1
    funext enqueue
    by_cases same : enqueue.call = call
    · simp [same, mine]
    · simp [same]
  have executed : execSelect hashing call state = (outcome, next) := taken.2
  have executed' : execSelect hashing call state' = (outcome', next') := taken'.2
  unfold execSelect at executed executed'
  rw [listed] at executed executed'
  rw [← related.calls] at executed'
  cases found : (scope.calls state).find? (fun enqueue => decide (enqueue.call = call)) with
  | none =>
      rw [found] at executed executed'
      cases executed
      cases executed'
      exact ⟨related, rfl⟩
  | some enqueue =>
      rw [found] at executed executed'
      cases executed
      cases executed'
      have owner := related.callsOwned enqueue (List.mem_of_find?_eq_some found)
      refine ⟨?_, enqueueResult_renamed (related.enqueueSelect owner)⟩
      have filtered : ∀ pending : List (PendingEnqueue Data),
          (pending.filter (fun other => decide (other.call ≠ call))).filter
            (fun enqueue => scope.mine enqueue.call) =
          (pending.filter (fun enqueue => scope.mine enqueue.call)).filter
            (fun other => decide (other.call ≠ call)) := by
        intro pending
        rw [List.filter_filter, List.filter_filter]
        apply List.filter_congr
        intro other _
        exact Bool.and_comm _ _
      exact
        { rows := related.rows
          owned := related.owned
          calls := by
            simp only [OwnerScope.calls, filtered]
            exact congrArg _ related.calls
          callsOwned := by
            simp only [OwnerScope.calls, filtered]
            intro other member
            exact related.callsOwned other (List.mem_filter.mp member).1
          issued := issued
          issued' := issued' }

omit [DecidableEq Digest] in
theorem OwnerRelated.getJob (related : OwnerRelated scope relabel state state')
    (options : JobStoreOptions) (id : JobId) :
    (.status (getJob options (relabel id) scope.owner state'.table) : StoreOutcome Data Result) =
      renameOutcome relabel (.status (getJob options id scope.owner state.table)) := by
  rw [getJob_eq, getJob_eq]
  have there := related.rows id
  generalize ownerView scope.owner state.table id = view at there ⊢
  generalize ownerView scope.owner state'.table (relabel id) = view' at there ⊢
  cases there with
  | none => rfl
  | @some row row' same =>
      unfold SameJob at same
      rw [same]
      by_cases queue : row.queueName = options.name
      · simp [Option.filter, queue, renameOutcome, jobStatus]
      · simp [Option.filter, queue, renameOutcome]

theorem OwnerRelated.rowwise (related : OwnerRelated scope relabel state state')
    {event event' : StoreEvent Data Result} (renamed : Renamed relabel event.1 event'.1)
    (single : event.1.rowwise = true)
    (taken : storeStep hashing collation state event next)
    (taken' : storeStep hashing collation state' event' next') :
    OwnerRelated scope relabel next next' := by
  have issued := storeStep_rowsIssued related.issued taken
  have issued' := storeStep_rowsIssued related.issued' taken'
  have single' : event'.1.rowwise = true := by
    generalize event.1 = op at renamed single
    generalize event'.1 = op' at renamed
    cases renamed <;> exact single
  have nextEq : next = (exec hashing collation state event.1).2 := by rw [taken.2]
  have nextEq' : next' = (exec hashing collation state' event'.1).2 := by rw [taken'.2]
  have pending := (exec_rowwise hashing collation state single []).2
  have pending' := (exec_rowwise hashing collation state' single' []).2
  refine
    { rows := ?_
      owned := ?_
      calls := ?_
      callsOwned := ?_
      issued := issued
      issued' := issued' }
  · intro id
    rw [nextEq, nextEq', ownerView_rowwise hashing collation scope.owner state single,
      ownerView_rowwise hashing collation scope.owner state' single']
    have there := related.rows id
    generalize ownerView scope.owner state.table id = view at there ⊢
    generalize ownerView scope.owner state'.table (relabel id) = view' at there ⊢
    cases there with
    | none => exact .none
    | some same => exact rowEffect_renamed renamed same
  · intro id row found
    rw [nextEq, ownerView_rowwise hashing collation scope.owner state single] at found
    obtain ⟨old, before, _⟩ := Option.bind_eq_some_iff.mp found
    exact related.owned id old before
  · simp only [OwnerScope.calls, nextEq, nextEq', pending, pending']
    exact related.calls
  · simp only [OwnerScope.calls, nextEq, pending]
    exact related.callsOwned

theorem OwnerRelated.both {event event' : StoreEvent Data Result}
    (related : OwnerRelated scope relabel state state')
    (taken : storeStep hashing collation state event next)
    (taken' : storeStep hashing collation state' event' next')
    (describes : scope.Describes event) (concerned : scope.concerns event.1 = true)
    (renamed : Renamed relabel event.1 event'.1) :
    OwnerRelated scope relabel next next' ∧ SameAnswer relabel event event' := by
  obtain ⟨op, outcome⟩ := event
  obtain ⟨op', outcome'⟩ := event'
  simp only at renamed concerned
  cases renamed with
  | insert call options now uuid uuid' submission drawn =>
      have owner : submission.ownerId = scope.owner := by
        simpa [OwnerScope.concerns] using concerned
      obtain ⟨nextRelated, answer⟩ := related.insert drawn taken taken' (describes.1.mpr owner)
        (describes.2 owner) owner
      exact ⟨nextRelated, fun _ => answer⟩
  | select call =>
      obtain ⟨nextRelated, answer⟩ := related.select taken taken' concerned
      exact ⟨nextRelated, fun _ => answer⟩
  | getJob options id ownerId =>
      refine ⟨related.rowwise (.getJob options id ownerId) rfl taken taken', ?_⟩
      have owner : ownerId = scope.owner := by simpa [OwnerScope.concerns] using concerned
      subst owner
      intro _
      have answer := congrArg Prod.fst taken.2
      have answer' := congrArg Prod.fst taken'.2
      simp only [exec] at answer answer'
      rw [← answer, ← answer']
      exact related.getJob options id
  | claim options now message =>
      refine ⟨related.rowwise (.claim options now message) rfl taken taken', ?_⟩
      intro visible
      cases visible
  | complete options now message response =>
      refine ⟨related.rowwise (.complete options now message response) rfl taken taken', ?_⟩
      intro visible
      cases visible
  | fail options now message error =>
      refine ⟨related.rowwise (.fail options now message error) rfl taken taken', ?_⟩
      intro visible
      cases visible
  | maintainRecover options now =>
      refine ⟨related.rowwise (.maintainRecover options now) rfl taken taken', ?_⟩
      intro visible
      cases visible
  | maintainDelete options now =>
      refine ⟨related.rowwise (.maintainDelete options now) rfl taken taken', ?_⟩
      intro visible
      cases visible

def OwnerScope.history (scope : OwnerScope) (events : List (StoreEvent Data Result)) :
    List (StoreEvent Data Result) :=
  events.filter (fun event => scope.concerns event.1)

theorem runs_isolated {events events' : List (StoreEvent Data Result)}
    (run : Run (storeStep hashing collation) StoreState.initial events state)
    (run' : Run (storeStep hashing collation) StoreState.initial events' state')
    (describes : ∀ event ∈ events, scope.Describes event)
    (describes' : ∀ event ∈ events', (scope.rename relabel).Describes event)
    (renamed : List.Forall₂ (fun event event' => Renamed relabel event.1 event'.1)
      (scope.history events) ((scope.rename relabel).history events')) :
    List.Forall₂ (SameAnswer relabel) (scope.history events)
      ((scope.rename relabel).history events') := by
  refine (Run.pair (run.restrict scope.Describes describes)
    (run'.restrict (scope.rename relabel).Describes describes')
    (fun event => scope.concerns event.1) (fun event => (scope.rename relabel).concerns event.1)
    (fun event event' => Renamed relabel event.1 event'.1) (SameAnswer relabel)
    (OwnerRelated scope relabel) (OwnerRelated.initial scope relabel) ?_ ?_ ?_ renamed).2
  · intro state event next state' related taken foreign
    exact related.foreign taken.1 taken.2 foreign
  · intro state state' event' next' related taken' foreign
    have back := related.symm.foreign taken'.1 taken'.2 foreign
    have again := back.symm
    rw [scope.rename_symm] at again
    exact again
  · intro state event next state' event' next' related taken taken' concerned _ same
    exact related.both taken.1 taken'.1 taken.2 concerned same

end Steps

/-! ### Idempotent submission -/

section Documents

variable [DecidableEq Digest] {digest : JsString → Digest} {collation : JobId → JobId → Bool}

/-- At most one row is stored for a queue, owner and key. A receipt names a
stored row of that owner and key with the submitted data, up to the order of
object members; two receipts for one key are the same unless retention has
deleted the row in between; a conflict is reported only for different data; and
the calls of other owners do not change what an owner sees. -/
theorem submissions_idempotent {state : StoreState Document Result Digest}
    {events : List (StoreEvent Document Result)}
    (run : Run (storeStep (documentHashing digest) collation) StoreState.initial events state) :
    (∀ row ∈ state.table.rows,
        ∃ options submission, SubmittedAs (documentHashing digest) events row options submission) ∧
      (∀ left ∈ state.table.rows, ∀ right ∈ state.table.rows,
        ∀ options submission options' submission',
          SubmittedAs (documentHashing digest) events left options submission →
          SubmittedAs (documentHashing digest) events right options' submission' →
          options.name = options'.name → submission.ownerId = submission'.ownerId →
          submission.idempotencyKey = submission'.idempotencyKey → left = right) ∧
      (∀ event next, storeStep (documentHashing digest) collation state event next →
        CollisionFree digest (hashedTexts (events ++ [event])) → ∀ options submission,
          (∀ receipt, Returns state event options submission (.ok receipt) →
            ∃ row, next.table.lookup receipt.id = some row ∧
              row.requestId = receipt.requestId ∧ row.queueName = options.name ∧
              row.ownerId = submission.ownerId ∧
              (∃ options' submission',
                SubmittedAs (documentHashing digest) (events ++ [event]) row options' submission' ∧
                submission'.idempotencyKey = submission.idempotencyKey) ∧
              Json.Reordered row.data.value submission.data.value) ∧
          (Returns state event options submission (.error .idempotencyConflict) →
            ∃ row, next.table.lookup row.id = some row ∧ row.queueName = options.name ∧
              row.ownerId = submission.ownerId ∧
              (∃ options' submission',
                SubmittedAs (documentHashing digest) (events ++ [event]) row options' submission' ∧
                submission'.idempotencyKey = submission.idempotencyKey) ∧
              ¬ Json.Reordered row.data.value submission.data.value)) ∧
      (∀ event next later between second last options submission receipt options' submission'
          receipt', storeStep (documentHashing digest) collation state event next →
        Returns state event options submission (.ok receipt) →
        Run (storeStep (documentHashing digest) collation) next later between →
        storeStep (documentHashing digest) collation between second last →
        Returns between second options' submission' (.ok receipt') →
        options'.name = options.name → submission'.ownerId = submission.ownerId →
        submission'.idempotencyKey = submission.idempotencyKey →
          receipt' = receipt ∨
            Deleted (documentHashing digest) collation receipt.id next later between) ∧
      (∀ (scope : OwnerScope) (relabel : JobId ≃ JobId) events' state',
        Run (storeStep (documentHashing digest) collation) StoreState.initial events' state' →
        (∀ event ∈ events, scope.Describes event) →
        (∀ event ∈ events', (scope.rename relabel).Describes event) →
        List.Forall₂ (fun event event' => Renamed relabel event.1 event'.1)
          (scope.history events) ((scope.rename relabel).history events') →
        List.Forall₂ (SameAnswer relabel) (scope.history events)
          ((scope.rename relabel).history events')) := by
  obtain ⟨rowsSubmitted, pendingSubmitted⟩ := run_submitted run
  refine ⟨?_, ?_, ?_, ?_, ?_⟩
  · intro row member
    exact rowsSubmitted row.id row (KeyedTable.lookup_of_mem member)
  · intro left leftMember right rightMember options submission options' submission'
      leftSubmitted rightSubmitted name owner key
    apply KeyedTable.eq_of_unique leftMember rightMember
    rw [leftSubmitted.submissionKey_eq, rightSubmitted.submissionKey_eq]
    simp [submissionKey, name, owner, key]
  · intro event next taken collisionFree options submission
    have submittedNext := storeStep_rowsSubmitted rowsSubmitted taken
    refine ⟨?_, ?_⟩
    · intro receipt returned
      obtain ⟨row, found, requestId, key, payload, _⟩ := returns_receipt taken returned
      obtain ⟨name, owner, origin, decides⟩ := row_of_submissionKey submittedNext collisionFree
        (returned.submitted pendingSubmitted) found key
      exact ⟨row, found, requestId, name, owner, origin, decides.mp payload⟩
    · intro returned
      obtain ⟨row, found, key, different⟩ := returns_conflict taken returned
      obtain ⟨name, owner, origin, decides⟩ := row_of_submissionKey submittedNext collisionFree
        (returned.submitted pendingSubmitted) found key
      exact ⟨row, found, name, owner, origin, fun same => different (decides.mpr same)⟩
  · intro event next later between second last options submission receipt options' submission'
      receipt' taken returned run' taken' returned' name owner key
    exact receipts_agree taken returned run' taken' returned'
      (by simp [submissionKey, name, owner, key])
  · intro scope relabel events' state' run' describes describes' renamed
    exact runs_isolated run run' describes describes' renamed

end Documents

/-! ### A repeated submission -/

def sampleDocument : Document :=
  { value := .object
      [(JsString.ofString "prompt", .string (JsString.ofString "hello")),
        (JsString.ofString "model", .string (JsString.ofString "m"))]
    distinctKeys := ⟨by decide, trivial, trivial, trivial⟩ }

def sampleReorderedDocument : Document :=
  { value := .object
      [(JsString.ofString "model", .string (JsString.ofString "m")),
        (JsString.ofString "prompt", .string (JsString.ofString "hello"))]
    distinctKeys := ⟨by decide, trivial, trivial, trivial⟩ }

def sampleRequest (data : Document) : JobSubmission Document :=
  { ownerId := JsString.ofString "owner-1"
    requestId := JsString.ofString "request-1"
    idempotencyKey := JsString.ofString "key-1"
    data := data }

def sampleDigest (text : JsString) : JsString :=
  if text = Json.canonicalText (.string (JsString.ofString "key-1")) then
    JsString.ofString "364d78d77efc8faff4a427a4eeca8c6f90c357b99b489337a4872d7ea714639b"
  else if text = sampleDocument.value.canonicalText then
    JsString.ofString "8f878fd1d78826daeb137bc04327493e1cbdc855f9483a88849a2a64508bdd0e"
  else text

def sampleSecondUuid : Uuid :=
  { text := JsString.ofString "123e4567-e89b-42d3-a456-426614174001"
    shape := by decide }

/-- The same request again, with its members in another order, up to the select
that follows its conflict. -/
def sampleSubmissions : List (StoreOp Document JsString) :=
  [.insert 0 sampleOptions 0 sampleUuid (sampleRequest sampleDocument),
    .insert 1 sampleOptions 1 sampleSecondUuid (sampleRequest sampleReorderedDocument)]

theorem submissions_idempotent_sample :
    let executed := execAll (documentHashing sampleDigest) JsString.le StoreState.initial
      sampleSubmissions
    let selected := exec (documentHashing sampleDigest) JsString.le executed.2 (.select 1)
    ∃ row, selected.2.table.lookup (jobId sampleUuid) = some row ∧
      row.ownerId = JsString.ofString "owner-1" ∧
      Json.Reordered row.data.value sampleReorderedDocument.value := by
  intro executed selected
  have run := run_execAll (documentHashing sampleDigest) JsString.le StoreState.initial
    sampleSubmissions (by decide +kernel)
  have answered : selected.1 = .enqueued (.ok
      { id := jobId sampleUuid, requestId := JsString.ofString "request-1" }) := rfl
  have taken : storeStep (documentHashing sampleDigest) JsString.le executed.2
      (.select 1, .enqueued (.ok
        { id := jobId sampleUuid, requestId := JsString.ofString "request-1" })) selected.2 :=
    ⟨by decide +kernel, by rw [← answered]⟩
  have returned : Returns executed.2 (.select 1, .enqueued (.ok
        { id := jobId sampleUuid, requestId := JsString.ofString "request-1" })) sampleOptions
      (sampleRequest sampleReorderedDocument) (.ok
        { id := jobId sampleUuid, requestId := JsString.ofString "request-1" }) :=
    @Returns.selected Document JsString JsString executed.2 1
      ⟨1, sampleOptions, sampleRequest sampleReorderedDocument⟩ rfl _
  obtain ⟨row, found, _, _, owner, _, data⟩ :=
    ((submissions_idempotent run).2.2.1 _ _ taken (by decide +kernel) _ _).1 _ returned
  exact ⟨row, found, owner, data⟩

end ModelMux.Queue
