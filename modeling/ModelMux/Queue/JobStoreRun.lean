/-
Runs of the job store.

A run is any sequence of the store's statements, with arbitrary arguments and
arbitrary values of `NOW()`.  The two statements of `enqueue` are separate
steps, so other statements may fall between them.  Job ids come from
`randomUUID`: an id is never issued twice.
-/

import ModelMux.Foundation.LabelledRun
import ModelMux.Json.Canonical
import ModelMux.Queue.PostgresJobStore

namespace ModelMux.Queue

variable {Data Result Digest : Type}

/-! ### What a statement can do to one row -/

inductive RowLabel (Result : Type) where
  | quiet
  | inserted (budget : ℤ)
  | claimed (attempt : ℤ)
  | completed (attempt : ℤ) (response : Result)
  | purge

/-- Possible changes of the row of one id. Only an announced insert creates the
row, only an announced claim advances its attempt number, only an announced
completion stores a response, and only retention removes the row. -/
inductive RowStep (hashing : Hashing Data Digest) : RowLabel Result →
    Option (JobRow Data Result Digest) → Option (JobRow Data Result Digest) → Prop
  | unchanged (row : Option (JobRow Data Result Digest)) : RowStep hashing .quiet row row
  | missed (attempt : ℤ) (response : Result) (row : Option (JobRow Data Result Digest)) :
      RowStep hashing (.completed attempt response) row row
  | retained (row : Option (JobRow Data Result Digest)) : RowStep hashing .purge row row
  | inserted (options : JobStoreOptions) (now : Timestamp) (uuid : Uuid)
      (submission : JobSubmission Data) (accepted : columnsAccepted options = true) :
      RowStep hashing (.inserted options.maxAttempts) none
        (some (newRow hashing options now uuid submission))
  | dispatched (row : JobRow Data Result Digest) :
      RowStep hashing .quiet (some row) (some (dispatchSet row))
  | claimed (options : JobStoreOptions) (now : Timestamp) (message : JobEnvelope)
      (row : JobRow Data Result Digest) (holds : claimWhere options now message row = true) :
      RowStep hashing (.claimed message.attempt) (some row)
        (some (claimSet options now message row))
  | completed (options : JobStoreOptions) (now : Timestamp) (message : JobEnvelope)
      (response : Result) (row : JobRow Data Result Digest)
      (holds : outcomeWhere options message row = true) :
      RowStep hashing (.completed message.attempt response) (some row)
        (some (completeSet now response row))
  | failed (options : JobStoreOptions) (now : Timestamp) (message : JobEnvelope)
      (error : JobProcessingError) (row : JobRow Data Result Digest)
      (holds : outcomeWhere options message row = true) :
      RowStep hashing .quiet (some row) (some (failSet now error row))
  | recovered (options : JobStoreOptions) (now : Timestamp) (row : JobRow Data Result Digest)
      (holds : recoverWhere options now row = true) :
      RowStep hashing .quiet (some row) (some (recoverSet now row))
  | deleted (options : JobStoreOptions) (now : Timestamp) (row : JobRow Data Result Digest)
      (holds : deleteWhere options now row = true) : RowStep hashing .purge (some row) none

theorem lookup_update_cases (table : JobTable Data Result Digest)
    (matches' : JobRow Data Result Digest → Bool)
    (set : JobRow Data Result Digest → JobRow Data Result Digest)
    (keepsKey : ∀ row, (set row).id = row.id)
    (keepsUnique : ∀ row, (set row).submissionKey = row.submissionKey) (id : JobId) :
    (table.update matches' set keepsKey keepsUnique).lookup id = table.lookup id ∨
      ∃ row, table.lookup id = some row ∧ matches' row = true ∧
        (table.update matches' set keepsKey keepsUnique).lookup id = some (set row) := by
  rw [KeyedTable.lookup_update]
  cases found : table.lookup id with
  | none => exact Or.inl rfl
  | some row =>
      cases holds : matches' row with
      | false => exact Or.inl (by simp [holds])
      | true => exact Or.inr ⟨row, rfl, holds, by simp [holds]⟩

theorem lookup_dispatchMark (marked id : JobId) (table : JobTable Data Result Digest) :
    (dispatchMark marked table).lookup id =
      if id = marked then (table.lookup id).map dispatchSet else table.lookup id := by
  have updated : (dispatchMark marked table).lookup id = (table.lookup id).map
      (fun row => if decide (row.id = marked) = true then dispatchSet row else row) :=
    KeyedTable.lookup_update table (fun row => decide (row.id = marked)) dispatchSet
      (fun _ => rfl) (fun _ => rfl) id
  rw [updated]
  cases found : table.lookup id with
  | none => simp
  | some row =>
      have key : row.id = id := KeyedTable.lookup_key found
      by_cases same : id = marked <;> simp [key, same]

theorem claimWhere_id {options : JobStoreOptions} {now : Timestamp} {message : JobEnvelope}
    {row : JobRow Data Result Digest} (holds : claimWhere options now message row = true) :
    row.id = message.id := by
  simp only [claimWhere, Bool.and_eq_true, decide_eq_true_eq] at holds
  exact holds.1.1.1.1.1

theorem outcomeWhere_id {options : JobStoreOptions} {message : JobEnvelope}
    {row : JobRow Data Result Digest} (holds : outcomeWhere options message row = true) :
    row.id = message.id := by
  simp only [outcomeWhere, Bool.and_eq_true, decide_eq_true_eq] at holds
  exact holds.1.1.1

theorem lookup_claim (options : JobStoreOptions) (now : Timestamp) (message : JobEnvelope)
    (table : JobTable Data Result Digest) (id : JobId) :
    (claim options now message table).2.lookup id =
      (table.lookup id).map (fun row =>
        if claimWhere options now message row then claimSet options now message row else row) :=
  KeyedTable.lookup_update table (claimWhere options now message) (claimSet options now message)
    (fun _ => rfl) (fun _ => rfl) id

theorem claim_cases (options : JobStoreOptions) (now : Timestamp) (message : JobEnvelope)
    (table : JobTable Data Result Digest) :
    ((claim options now message table).1 = none ∧
        ∀ id, (claim options now message table).2.lookup id = table.lookup id) ∨
      ∃ row, table.lookup message.id = some row ∧ claimWhere options now message row = true ∧
        (claim options now message table).1 =
          some (processingJob now (claimSet options now message row)) ∧
        (claim options now message table).2.lookup message.id =
          some (claimSet options now message row) ∧
        ∀ id, id ≠ message.id →
          (claim options now message table).2.lookup id = table.lookup id := by
  rcases table.update_keyed_cases (claimWhere options now message)
      (claimSet options now message) (fun _ => rfl) (fun _ => rfl)
      (fun row holds => claimWhere_id holds) with
    ⟨missing, same⟩ | ⟨row, chosen, found, holds, updated, others⟩
  · exact Or.inl ⟨by simp [claim, missing], same⟩
  · exact Or.inr ⟨row, found, holds, by simp [claim, chosen], updated, others⟩

theorem complete_cases (options : JobStoreOptions) (now : Timestamp) (message : JobEnvelope)
    (response : Result) (table : JobTable Data Result Digest) :
    (∀ id, (complete options now message response table).lookup id = table.lookup id) ∨
      ∃ row, table.lookup message.id = some row ∧ outcomeWhere options message row = true ∧
        (complete options now message response table).lookup message.id =
          some (completeSet now response row) ∧
        ∀ id, id ≠ message.id →
          (complete options now message response table).lookup id = table.lookup id := by
  rcases table.update_keyed_cases (outcomeWhere options message) (completeSet now response)
      (fun _ => rfl) (fun _ => rfl) (fun row holds => outcomeWhere_id holds) with
    ⟨_, same⟩ | ⟨row, _, found, holds, updated, others⟩
  · exact Or.inl same
  · exact Or.inr ⟨row, found, holds, updated, others⟩

theorem fail_cases (options : JobStoreOptions) (now : Timestamp) (message : JobEnvelope)
    (error : JobProcessingError) (table : JobTable Data Result Digest) :
    ((fail options now message error table).1 = none ∧
        ∀ id, (fail options now message error table).2.lookup id = table.lookup id) ∨
      ∃ row, table.lookup message.id = some row ∧ outcomeWhere options message row = true ∧
        (fail options now message error table).1 =
          some (if retries error row then .retrying else .failed) ∧
        (fail options now message error table).2.lookup message.id =
          some (failSet now error row) ∧
        ∀ id, id ≠ message.id →
          (fail options now message error table).2.lookup id = table.lookup id := by
  rcases table.update_keyed_cases (outcomeWhere options message) (failSet now error)
      (fun _ => rfl) (fun _ => rfl) (fun row holds => outcomeWhere_id holds) with
    ⟨missing, same⟩ | ⟨row, chosen, found, holds, updated, others⟩
  · exact Or.inl ⟨by simp [fail, missing], same⟩
  · exact Or.inr ⟨row, found, holds, by simp [fail, chosen], updated, others⟩

/-! ### Operations -/

inductive StoreOp (Data Result : Type) where
  | insert (call : Nat) (options : JobStoreOptions) (now : Timestamp) (uuid : Uuid)
      (submission : JobSubmission Data)
  | select (call : Nat)
  | getJob (options : JobStoreOptions) (id : JobId) (ownerId : JsString)
  | dispatchOne (options : JobStoreOptions) (now : Timestamp) (locked : List JobId)
      (committed : Bool)
  | claim (options : JobStoreOptions) (now : Timestamp) (message : JobEnvelope)
  | complete (options : JobStoreOptions) (now : Timestamp) (message : JobEnvelope)
      (response : Result)
  | fail (options : JobStoreOptions) (now : Timestamp) (message : JobEnvelope)
      (error : JobProcessingError)
  | maintainRecover (options : JobStoreOptions) (now : Timestamp)
  | maintainDelete (options : JobStoreOptions) (now : Timestamp)

inductive StoreOutcome (Data Result : Type) where
  | enqueued (result : Except EnqueueError JobReceipt)
  | conflict
  | raised
  | status (status : Option (JobStatus Result))
  | dispatched (message : Option JobEnvelope)
  | claimed (job : Option (ProcessingJob Data))
  | failed (status : Option FailStatus)
  | done

abbrev StoreEvent (Data Result : Type) := StoreOp Data Result × StoreOutcome Data Result

/-- An `enqueue` call between its two statements. -/
structure PendingEnqueue (Data : Type) where
  call : Nat
  options : JobStoreOptions
  submission : JobSubmission Data

structure StoreState (Data Result Digest : Type) where
  table : JobTable Data Result Digest
  issued : List JobId
  calls : List Nat
  pending : List (PendingEnqueue Data)

def StoreState.initial : StoreState Data Result Digest :=
  { table := KeyedTable.empty, issued := [], calls := [], pending := [] }

section Execution

variable [DecidableEq Digest] (hashing : Hashing Data Digest) (collation : JobId → JobId → Bool)

def execInsert (call : Nat) (options : JobStoreOptions) (now : Timestamp) (uuid : Uuid)
    (submission : JobSubmission Data) (state : StoreState Data Result Digest) :
    StoreOutcome Data Result × StoreState Data Result Digest :=
  let issued := jobId uuid :: state.issued
  let calls := call :: state.calls
  match enqueueInsert hashing options now uuid submission state.table with
  | .inserted row table =>
      (.enqueued (enqueueResult (hashing.payload submission.data) (some row)),
        { state with table := table, issued := issued, calls := calls })
  | .conflict =>
      (.conflict,
        { state with
          issued := issued
          calls := calls
          pending := { call := call, options := options, submission := submission } ::
            state.pending })
  | .raised => (.raised, { state with issued := issued, calls := calls })

def execSelect (call : Nat) (state : StoreState Data Result Digest) :
    StoreOutcome Data Result × StoreState Data Result Digest :=
  match state.pending.find? (fun enqueue => enqueue.call = call) with
  | none => (.raised, state)
  | some enqueue =>
      (.enqueued (enqueueResult (hashing.payload enqueue.submission.data)
          (enqueueSelect hashing enqueue.options enqueue.submission state.table)),
        { state with pending := state.pending.filter (fun other => other.call ≠ call) })

def execDispatch (options : JobStoreOptions) (now : Timestamp) (locked : List JobId)
    (committed : Bool) (state : StoreState Data Result Digest) :
    StoreOutcome Data Result × StoreState Data Result Digest :=
  match dispatchSelect collation options now locked state.table with
  | none => (.dispatched none, state)
  | some row =>
      (.dispatched (some (dispatchMessage row)),
        if committed then { state with table := dispatchMark row.id state.table } else state)

def exec (state : StoreState Data Result Digest) :
    StoreOp Data Result → StoreOutcome Data Result × StoreState Data Result Digest
  | .insert call options now uuid submission =>
      execInsert hashing call options now uuid submission state
  | .select call => execSelect hashing call state
  | .getJob options id ownerId => (.status (getJob options id ownerId state.table), state)
  | .dispatchOne options now locked committed =>
      execDispatch collation options now locked committed state
  | .claim options now message =>
      (.claimed (claim options now message state.table).1,
        { state with table := (claim options now message state.table).2 })
  | .complete options now message response =>
      (.done, { state with table := complete options now message response state.table })
  | .fail options now message error =>
      (.failed (fail options now message error state.table).1,
        { state with table := (fail options now message error state.table).2 })
  | .maintainRecover options now =>
      (.done, { state with table := maintainRecover options now state.table })
  | .maintainDelete options now =>
      (.done, { state with table := maintainDelete options now state.table })

/-- The store is free except for two things its callers guarantee: ids are
fresh, and `enqueue` selects only after its own insert met a conflict. -/
def Allowed (state : StoreState Data Result Digest) : StoreOp Data Result → Prop
  | .insert call _ _ uuid _ => jobId uuid ∉ state.issued ∧ call ∉ state.calls
  | .select call => ∃ enqueue ∈ state.pending, enqueue.call = call
  | _ => True

def storeStep (state : StoreState Data Result Digest) (event : StoreEvent Data Result)
    (next : StoreState Data Result Digest) : Prop :=
  Allowed state event.1 ∧ exec hashing collation state event.1 = (event.2, next)

def rowLabel (id : JobId) : StoreEvent Data Result → RowLabel Result
  | (.insert _ options _ uuid _, .enqueued (.ok _)) =>
      if jobId uuid = id then .inserted options.maxAttempts else .quiet
  | (.claim _ _ message, .claimed (some _)) =>
      if message.id = id then .claimed message.attempt else .quiet
  | (.complete _ _ message response, _) =>
      if message.id = id then .completed message.attempt response else .quiet
  | (.maintainDelete _ _, _) => .purge
  | _ => .quiet

omit [DecidableEq Digest] in
theorem rowLabel_eq_inserted {id : JobId} {event : StoreEvent Data Result} {budget : ℤ}
    (announced : rowLabel id event = .inserted budget) :
    ∃ call options now uuid submission outcome,
      event = (.insert call options now uuid submission, outcome) ∧ jobId uuid = id := by
  unfold rowLabel at announced
  split at announced
  · rename_i call options now uuid submission receipt
    split at announced
    · rename_i same
      exact ⟨call, options, now, uuid, submission, _, rfl, same⟩
    · cases announced
  · split at announced <;> cases announced
  · split at announced <;> cases announced
  · cases announced
  · cases announced

omit [DecidableEq Digest] in
theorem rowLabel_eq_purge {id : JobId} {event : StoreEvent Data Result}
    (announced : rowLabel id event = .purge) :
    ∃ options now, event.1 = .maintainDelete options now := by
  unfold rowLabel at announced
  split at announced
  · split at announced <;> cases announced
  · split at announced <;> cases announced
  · split at announced <;> cases announced
  · exact ⟨_, _, rfl⟩
  · cases announced

omit [DecidableEq Digest] in
theorem rowLabel_eq_completed {id : JobId} {event : StoreEvent Data Result} {attempt : ℤ}
    {response : Result} (announced : rowLabel id event = .completed attempt response) :
    ∃ options now, event.1 = .complete options now ⟨id, attempt⟩ response := by
  unfold rowLabel at announced
  split at announced
  · split at announced <;> cases announced
  · split at announced <;> cases announced
  · rename_i options now message stored outcome
    split at announced
    · rename_i same
      cases announced
      subst same
      exact ⟨options, now, rfl⟩
    · cases announced
  · cases announced
  · cases announced

theorem execInsert_cases (call : Nat) (options : JobStoreOptions) (now : Timestamp) (uuid : Uuid)
    (submission : JobSubmission Data) (state : StoreState Data Result Digest) :
    (∃ next, columnsAccepted options = true ∧
        state.table.insert (newRow hashing options now uuid submission) = .inserted next ∧
        execInsert hashing call options now uuid submission state =
          (.enqueued (.ok { id := jobId uuid, requestId := submission.requestId }),
            { state with
              table := next
              issued := jobId uuid :: state.issued
              calls := call :: state.calls })) ∨
      (columnsAccepted options = true ∧
        state.table.insert (newRow hashing options now uuid submission) = .conflict ∧
        execInsert hashing call options now uuid submission state =
          (.conflict,
            { state with
              issued := jobId uuid :: state.issued
              calls := call :: state.calls
              pending := { call := call, options := options, submission := submission } ::
                state.pending })) ∨
      ((columnsAccepted options = false ∨
          state.table.insert (newRow hashing options now uuid submission) = .duplicateKey) ∧
        execInsert hashing call options now uuid submission state =
          (.raised,
            { state with issued := jobId uuid :: state.issued, calls := call :: state.calls })) := by
  cases accepted : columnsAccepted options with
  | false => exact Or.inr (Or.inr ⟨Or.inl rfl, by simp [execInsert, enqueueInsert, accepted]⟩)
  | true =>
      cases placed : state.table.insert (newRow hashing options now uuid submission) with
      | inserted next =>
          refine Or.inl ⟨next, rfl, rfl, ?_⟩
          simp only [execInsert, enqueueInsert, accepted, placed, if_true, enqueueResult]
          simp [newRow]
      | conflict =>
          refine Or.inr (Or.inl ⟨rfl, rfl, ?_⟩)
          simp [execInsert, enqueueInsert, accepted, placed]
      | duplicateKey =>
          refine Or.inr (Or.inr ⟨Or.inr rfl, ?_⟩)
          simp [execInsert, enqueueInsert, accepted, placed]

theorem execSelect_table (call : Nat) (state : StoreState Data Result Digest) :
    (execSelect hashing call state).2.table = state.table ∧
      (execSelect hashing call state).2.issued = state.issued := by
  unfold execSelect
  split <;> exact ⟨rfl, rfl⟩

/-- Every step of the store is, for each job id, one of the row changes above. -/
theorem storeStep_rowStep {state next : StoreState Data Result Digest}
    {event : StoreEvent Data Result} (taken : storeStep hashing collation state event next)
    (id : JobId) :
    RowStep hashing (rowLabel id event) (state.table.lookup id) (next.table.lookup id) := by
  obtain ⟨op, outcome⟩ := event
  obtain ⟨_allowed, executed⟩ := taken
  cases op with
  | insert call options now uuid submission =>
      change execInsert hashing call options now uuid submission state = (outcome, next) at executed
      rcases execInsert_cases hashing call options now uuid submission state with
        ⟨table, accepted, placed, result⟩ | ⟨_, _, result⟩ | ⟨_, result⟩
      · rw [result] at executed
        cases executed
        simp only [rowLabel]
        rw [KeyedTable.lookup_insert placed, newRow_id]
        by_cases same : jobId uuid = id
        · subst same
          have absent : state.table.lookup (jobId uuid) = none := KeyedTable.lookup_fresh placed
          rw [absent, if_pos rfl, if_pos rfl]
          exact .inserted options now uuid submission accepted
        · rw [if_neg same, if_neg same]
          exact .unchanged _
      · rw [result] at executed
        cases executed
        exact .unchanged _
      · rw [result] at executed
        cases executed
        exact .unchanged _
  | select call =>
      change RowStep hashing .quiet _ _
      have same := (execSelect_table hashing call state).1
      change execSelect hashing call state = (outcome, next) at executed
      rw [executed] at same
      rw [same]
      exact .unchanged _
  | getJob options wanted ownerId =>
      cases executed
      exact .unchanged _
  | dispatchOne options now locked committed =>
      change RowStep hashing .quiet _ _
      change execDispatch collation options now locked committed state = (outcome, next) at executed
      unfold execDispatch at executed
      split at executed
      · cases executed
        exact .unchanged _
      · rename_i row _chosen
        cases executed
        cases committed with
        | false => exact .unchanged _
        | true =>
            rcases lookup_update_cases state.table (fun other => decide (other.id = row.id))
                dispatchSet (fun _ => rfl) (fun _ => rfl) id with same | ⟨found, before, _, after⟩
            · simp only [if_true, dispatchMark]
              rw [same]
              exact .unchanged _
            · simp only [if_true, dispatchMark]
              rw [before, after]
              exact .dispatched found
  | claim options now message =>
      cases executed
      rcases claim_cases options now message state.table with
        ⟨missing, same⟩ | ⟨row, found, holds, job, updated, others⟩
      · rw [missing]
        simp only
        rw [same]
        exact .unchanged _
      · rw [job]
        simp only [rowLabel]
        by_cases sameId : message.id = id
        · subst sameId
          rw [found, updated, if_pos rfl]
          exact .claimed options now message row holds
        · rw [others id (fun equal => sameId equal.symm), if_neg sameId]
          exact .unchanged _
  | complete options now message response =>
      cases executed
      simp only [rowLabel]
      rcases complete_cases options now message response state.table with
        same | ⟨row, found, holds, updated, others⟩
      · rw [same]
        split
        · exact .missed message.attempt response _
        · exact .unchanged _
      · by_cases sameId : message.id = id
        · subst sameId
          rw [found, updated, if_pos rfl]
          exact .completed options now message response row holds
        · rw [others id (fun equal => sameId equal.symm), if_neg sameId]
          exact .unchanged _
  | fail options now message error =>
      cases executed
      change RowStep hashing .quiet _ _
      rcases lookup_update_cases state.table (outcomeWhere options message)
          (failSet now error) (fun _ => rfl) (fun _ => rfl) id with
        same | ⟨row, before, holds, after⟩
      · exact same ▸ .unchanged _
      · simp only [fail]
        rw [before, after]
        exact .failed options now message error row holds
  | maintainRecover options now =>
      cases executed
      change RowStep hashing .quiet _ _
      rcases lookup_update_cases state.table (recoverWhere options now)
          (recoverSet now) (fun _ => rfl) (fun _ => rfl) id with
        same | ⟨row, before, holds, after⟩
      · exact same ▸ .unchanged _
      · simp only [maintainRecover]
        rw [before, after]
        exact .recovered options now row holds
  | maintainDelete options now =>
      cases executed
      change RowStep hashing .purge _ _
      simp only [maintainDelete]
      rw [KeyedTable.lookup_delete]
      cases found : state.table.lookup id with
      | none => exact .retained _
      | some row =>
          cases holds : deleteWhere options now row with
          | false =>
              rw [Option.filter, holds]
              exact .retained _
          | true =>
              rw [Option.filter, holds]
              exact .deleted options now row holds

theorem storeStep_insert {state next : StoreState Data Result Digest}
    {outcome : StoreOutcome Data Result} {call : Nat} {options : JobStoreOptions}
    {now : Timestamp} {uuid : Uuid} {submission : JobSubmission Data}
    (taken : storeStep hashing collation state
      (.insert call options now uuid submission, outcome) next) :
    jobId uuid ∉ state.issued ∧ next.issued = jobId uuid :: state.issued := by
  obtain ⟨allowed, executed⟩ := taken
  refine ⟨allowed.1, ?_⟩
  change execInsert hashing call options now uuid submission state = (outcome, next) at executed
  rcases execInsert_cases hashing call options now uuid submission state with
    ⟨table, _, _, result⟩ | ⟨_, _, result⟩ | ⟨_, result⟩
  · rw [result] at executed
    cases executed
    rfl
  · rw [result] at executed
    cases executed
    rfl
  · rw [result] at executed
    cases executed
    rfl

theorem storeStep_issued {state next : StoreState Data Result Digest}
    {event : StoreEvent Data Result} (taken : storeStep hashing collation state event next) :
    ∀ id ∈ state.issued, id ∈ next.issued := by
  obtain ⟨op, outcome⟩ := event
  intro id member
  cases op with
  | insert call options now uuid submission =>
      rw [(storeStep_insert hashing collation taken).2]
      exact List.mem_cons_of_mem _ member
  | select call =>
      have same := (execSelect_table hashing call state).2
      have executed : execSelect hashing call state = (outcome, next) := taken.2
      rw [executed] at same
      exact same ▸ member
  | dispatchOne options now locked committed =>
      have executed : execDispatch collation options now locked committed state =
        (outcome, next) := taken.2
      unfold execDispatch at executed
      split at executed
      · cases executed
        exact member
      · cases executed
        cases committed <;> exact member
  | getJob options wanted ownerId => cases taken.2; exact member
  | claim options now message => cases taken.2; exact member
  | complete options now message response => cases taken.2; exact member
  | fail options now message error => cases taken.2; exact member
  | maintainRecover options now => cases taken.2; exact member
  | maintainDelete options now => cases taken.2; exact member

/-! ### Executing a list of operations -/

instance decidableAllowed (state : StoreState Data Result Digest) :
    (op : StoreOp Data Result) → Decidable (Allowed state op)
  | .insert call _ _ uuid _ =>
      inferInstanceAs (Decidable (jobId uuid ∉ state.issued ∧ call ∉ state.calls))
  | .select call => inferInstanceAs (Decidable (∃ enqueue ∈ state.pending, enqueue.call = call))
  | .getJob _ _ _ | .dispatchOne _ _ _ _ | .claim _ _ _ | .complete _ _ _ _ | .fail _ _ _ _
  | .maintainRecover _ _ | .maintainDelete _ _ => inferInstanceAs (Decidable True)

def execAll (state : StoreState Data Result Digest) :
    List (StoreOp Data Result) → List (StoreEvent Data Result) × StoreState Data Result Digest
  | [] => ([], state)
  | op :: rest =>
      let executed := exec hashing collation state op
      let later := execAll executed.2 rest
      ((op, executed.1) :: later.1, later.2)

def allowedAll (state : StoreState Data Result Digest) : List (StoreOp Data Result) → Bool
  | [] => true
  | op :: rest =>
      decide (Allowed state op) && allowedAll (exec hashing collation state op).2 rest

theorem run_execAll (state : StoreState Data Result Digest) (ops : List (StoreOp Data Result))
    (allowed : allowedAll hashing collation state ops = true) :
    Run (storeStep hashing collation) state (execAll hashing collation state ops).1
      (execAll hashing collation state ops).2 := by
  induction ops generalizing state with
  | nil => exact .refl state
  | cons op rest ih =>
      simp only [allowedAll, Bool.and_eq_true, decide_eq_true_eq] at allowed
      exact Run.append (Run.single ⟨allowed.1, rfl⟩) (ih _ allowed.2)

end Execution

/-! ### What an outcome statement stores -/

/-- The statement found the job active at its attempt and has left the outcome in its
row and every other row as it was. -/
inductive OutcomeStored (before after : JobTable Data Result Digest) : StoreEvent Data Result → Prop
  | complete (options : JobStoreOptions) (now : Timestamp) (message : JobEnvelope)
      (response : Result) (row later : JobRow Data Result Digest)
      (found : before.lookup message.id = some row) (active : row.status = .active)
      (attempt : row.attemptsMade = message.attempt)
      (stored : after.lookup message.id = some later)
      (written : later = completeSet now response row) (status : later.status = .completed)
      (answer : later.response = some response)
      (others : ∀ id, id ≠ message.id → after.lookup id = before.lookup id) :
      OutcomeStored before after (.complete options now message response, .done)
  | fail (options : JobStoreOptions) (now : Timestamp) (message : JobEnvelope)
      (error : JobProcessingError) (row later : JobRow Data Result Digest)
      (found : before.lookup message.id = some row) (active : row.status = .active)
      (attempt : row.attemptsMade = message.attempt)
      (stored : after.lookup message.id = some later)
      (written : later = failSet now error row)
      (status : later.status =
        if error.retryable = true ∧ row.attemptsMade < row.maxAttempts then .retrying else .failed)
      (code : later.errorCode = some error.code.text)
      (others : ∀ id, id ≠ message.id → after.lookup id = before.lookup id) :
      OutcomeStored before after (.fail options now message error,
        .failed (some (if retries error row then .retrying else .failed)))

section Outcomes

variable [DecidableEq Digest] {hashing : Hashing Data Digest} {collation : JobId → JobId → Bool}

theorem complete_stored {options : JobStoreOptions} {now : Timestamp} {message : JobEnvelope}
    {response : Result} {state next : StoreState Data Result Digest}
    {row : JobRow Data Result Digest} (found : state.table.lookup message.id = some row)
    (holds : outcomeWhere options message row = true)
    (taken : storeStep hashing collation state (.complete options now message response, .done) next) :
    OutcomeStored state.table next.table (.complete options now message response, .done) := by
  have stored : complete options now message response state.table = next.table :=
    congrArg (fun pair => pair.2.table) taken.2
  have conditions := holds
  simp only [outcomeWhere, Bool.and_eq_true, decide_eq_true_eq] at conditions
  have updated := KeyedTable.lookup_update state.table (outcomeWhere options message)
    (completeSet now response) (fun _ => rfl) (fun _ => rfl)
  refine .complete options now message response row (completeSet now response row) found
    conditions.2 conditions.1.1.2 ?_ rfl rfl rfl ?_
  · rw [← stored, complete, updated, found]
    simp [holds]
  · intro id different
    rcases complete_cases options now message response state.table with same | ⟨_, _, _, _, others⟩
    · rw [← stored, same]
    · rw [← stored, others id different]

theorem fail_stored {options : JobStoreOptions} {now : Timestamp} {message : JobEnvelope}
    {error : JobProcessingError} {status : Option FailStatus}
    {state next : StoreState Data Result Digest} {row : JobRow Data Result Digest}
    (found : state.table.lookup message.id = some row)
    (holds : outcomeWhere options message row = true)
    (taken : storeStep hashing collation state
      (.fail options now message error, .failed status) next) :
    OutcomeStored state.table next.table (.fail options now message error, .failed status) := by
  have stored : (fail options now message error state.table).2 = next.table :=
    congrArg (fun pair => pair.2.table) taken.2
  have answered : (fail options now message error state.table).1 = status := by
    have answer := congrArg Prod.fst taken.2
    simpa only [exec, StoreOutcome.failed.injEq] using answer
  have conditions := holds
  simp only [outcomeWhere, Bool.and_eq_true, decide_eq_true_eq] at conditions
  rcases fail_cases options now message error state.table with
    ⟨missing, _⟩ | ⟨other, present, _, answer, updated, others⟩
  · have chosen : state.table.select (outcomeWhere options message) = some row :=
      (KeyedTable.select_eq_some_iff (fun _ matched => outcomeWhere_id matched)).mpr ⟨found, holds⟩
    simp [fail, chosen] at missing
  · cases found.symm.trans present
    rw [← answered, answer]
    refine .fail options now message error row (failSet now error row) found conditions.2
      conditions.1.1.2 (stored ▸ updated) rfl ?_ rfl ?_
    · simp [failSet, retries]
    · intro id different
      rw [← stored, others id different]

omit [DecidableEq Digest] in
theorem unheld_of_unmatched {options : JobStoreOptions} {message : JobEnvelope}
    {table : JobTable Data Result Digest}
    (unmatched : ∀ row, table.lookup message.id = some row → outcomeWhere options message row = false) :
    ∀ row ∈ table.rows, outcomeWhere options message row = false := by
  intro row member
  by_contra matched
  rw [Bool.not_eq_false] at matched
  have found : table.lookup message.id = some row := by
    rw [← outcomeWhere_id matched]
    exact KeyedTable.lookup_of_mem member
  cases (unmatched row found).symm.trans matched

theorem storeStep_complete {options : JobStoreOptions} {now : Timestamp} {message : JobEnvelope}
    {response : Result} {state next : StoreState Data Result Digest}
    (taken : storeStep hashing collation state (.complete options now message response, .done) next) :
    OutcomeStored state.table next.table (.complete options now message response, .done) ∨
      (∀ row ∈ state.table.rows, outcomeWhere options message row = false) ∧
        ∀ id, next.table.lookup id = state.table.lookup id := by
  by_cases held : ∃ row, state.table.lookup message.id = some row ∧
      outcomeWhere options message row = true
  · obtain ⟨row, found, holds⟩ := held
    exact Or.inl (complete_stored found holds taken)
  · refine Or.inr ⟨unheld_of_unmatched ?_, ?_⟩
    · intro row found
      rw [Bool.eq_false_iff]
      exact fun holds => held ⟨row, found, holds⟩
    · have stored : complete options now message response state.table = next.table :=
        congrArg (fun pair => pair.2.table) taken.2
      rw [← stored]
      rcases complete_cases options now message response state.table with
        same | ⟨row, found, holds, _⟩
      · exact same
      · exact absurd ⟨row, found, holds⟩ held

theorem storeStep_fail {options : JobStoreOptions} {now : Timestamp} {message : JobEnvelope}
    {error : JobProcessingError} {status : Option FailStatus}
    {state next : StoreState Data Result Digest}
    (taken : storeStep hashing collation state
      (.fail options now message error, .failed status) next) :
    OutcomeStored state.table next.table (.fail options now message error, .failed status) ∨
      status = none ∧ (∀ row ∈ state.table.rows, outcomeWhere options message row = false) ∧
        ∀ id, next.table.lookup id = state.table.lookup id := by
  by_cases held : ∃ row, state.table.lookup message.id = some row ∧
      outcomeWhere options message row = true
  · obtain ⟨row, found, holds⟩ := held
    exact Or.inl (fail_stored found holds taken)
  · have stored : (fail options now message error state.table).2 = next.table :=
      congrArg (fun pair => pair.2.table) taken.2
    have answered : (fail options now message error state.table).1 = status := by
      have answer := congrArg Prod.fst taken.2
      simpa only [exec, StoreOutcome.failed.injEq] using answer
    rcases fail_cases options now message error state.table with
      ⟨missing, same⟩ | ⟨row, found, holds, _⟩
    · refine Or.inr ⟨answered.symm.trans missing, unheld_of_unmatched ?_, ?_⟩
      · intro row found
        rw [Bool.eq_false_iff]
        exact fun holds => held ⟨row, found, holds⟩
      · rw [← stored]
        exact same
    · exact absurd ⟨row, found, holds⟩ held

end Outcomes

/-! ### A sample run -/

def sampleUuid : Uuid :=
  { text := JsString.ofString "123e4567-e89b-42d3-a456-426614174000"
    shape := by decide }

def sampleHashing : Hashing JsString JsString := { key := id, payload := id }

def sampleOptions : JobStoreOptions :=
  { name := JsString.ofString "test", maxAttempts := 2, backoffMs := 1000, leaseMs := 60000 }

def sampleSubmission : JobSubmission JsString :=
  { ownerId := JsString.ofString "owner-1"
    requestId := JsString.ofString "request-1"
    idempotencyKey := JsString.ofString "key-1"
    data := JsString.ofString "hello" }

def sampleOps : List (StoreOp JsString JsString) :=
  [.insert 0 sampleOptions 0 sampleUuid sampleSubmission,
    .dispatchOne sampleOptions 0 [] true,
    .claim sampleOptions 1 ⟨jobId sampleUuid, 1⟩,
    .fail sampleOptions 2 ⟨jobId sampleUuid, 1⟩ ⟨.providerTimeout, true, 0⟩,
    .claim sampleOptions 5000 ⟨jobId sampleUuid, 2⟩,
    .complete sampleOptions 5001 ⟨jobId sampleUuid, 2⟩ (JsString.ofString "answer")]

end ModelMux.Queue
