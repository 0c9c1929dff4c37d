/-
Consistency of job rows.

The columns of a row are written by several statements, each of which repeats
the conditions of the others.  `RowConsistent` lists what they must agree on;
it is preserved by every change a statement can make to a row, and therefore
holds for every row of every reachable table.
-/

import ModelMux.Queue.JobStoreRun

namespace ModelMux.Queue

variable {Data Result Digest : Type}

structure RowConsistent (row : JobRow Data Result Digest) : Prop where
  attemptsNonnegative : 0 ≤ row.attemptsMade
  attemptsBounded : row.attemptsMade ≤ row.maxAttempts
  budgetBounded : row.maxAttempts ≤ 2147483647
  waitingClaimable : row.status.waiting = true → row.attemptsMade < row.maxAttempts
  leased : row.leaseUntil.isSome = true ↔ row.status = .active
  activeAttempted : row.status = .active → 1 ≤ row.attemptsMade
  finished : row.finishedAt.isSome = true ↔ row.status.terminal = true
  completedResponse : row.status = .completed → row.response.isSome = true
  completedError : row.status = .completed → row.errorCode = none
  failedError : row.status = .failed → row.errorCode.isSome = true
  terminalDispatched : row.status.terminal = true → row.dispatchPending = false

theorem newRow_consistent {hashing : Hashing Data Digest} {options : JobStoreOptions}
    (now : Timestamp) (uuid : Uuid) (submission : JobSubmission Data)
    (accepted : columnsAccepted options = true) :
    RowConsistent (newRow hashing options now uuid submission : JobRow Data Result Digest) := by
  simp only [columnsAccepted, Bool.and_eq_true, decide_eq_true_eq] at accepted
  constructor <;> simp [newRow, JobState.waiting, JobState.terminal] <;> omega

theorem dispatchSet_consistent {row : JobRow Data Result Digest} (consistent : RowConsistent row) :
    RowConsistent (dispatchSet row) :=
  { attemptsNonnegative := consistent.attemptsNonnegative
    attemptsBounded := consistent.attemptsBounded
    budgetBounded := consistent.budgetBounded
    waitingClaimable := consistent.waitingClaimable
    leased := consistent.leased
    activeAttempted := consistent.activeAttempted
    finished := consistent.finished
    completedResponse := consistent.completedResponse
    completedError := consistent.completedError
    failedError := consistent.failedError
    terminalDispatched := fun _ => rfl }

theorem claimSet_consistent {options : JobStoreOptions} {now : Timestamp} {message : JobEnvelope}
    {row : JobRow Data Result Digest} (consistent : RowConsistent row)
    (holds : claimWhere options now message row = true) :
    RowConsistent (claimSet options now message row) := by
  simp only [claimWhere, Bool.and_eq_true, decide_eq_true_eq] at holds
  obtain ⟨⟨⟨⟨⟨_, _⟩, waiting⟩, next⟩, below⟩, _⟩ := holds
  have nonnegative := consistent.attemptsNonnegative
  have unfinished : row.finishedAt.isSome = false := by
    cases finished : row.finishedAt.isSome with
    | false => rfl
    | true =>
        have terminal := consistent.finished.mp finished
        cases state : row.status <;> simp [state, JobState.waiting, JobState.terminal] at *
  constructor <;> simp [claimSet, JobState.waiting, JobState.terminal]
  · omega
  · omega
  · exact consistent.budgetBounded
  · omega
  · simpa using unfinished

theorem completeSet_consistent (now : Timestamp) (response : Result)
    {row : JobRow Data Result Digest} (consistent : RowConsistent row) :
    RowConsistent (completeSet now response row) := by
  constructor <;> simp [completeSet, JobState.waiting, JobState.terminal]
  · exact consistent.attemptsNonnegative
  · exact consistent.attemptsBounded
  · exact consistent.budgetBounded

theorem failSet_consistent (now : Timestamp) (error : JobProcessingError)
    {row : JobRow Data Result Digest} (consistent : RowConsistent row) :
    RowConsistent (failSet now error row) := by
  cases again : retries error row with
  | true =>
      have below : row.attemptsMade < row.maxAttempts := by
        simp only [retries, Bool.and_eq_true, decide_eq_true_eq] at again
        exact again.2
      constructor <;> simp [failSet, again, JobState.waiting, JobState.terminal]
      · exact consistent.attemptsNonnegative
      · exact consistent.attemptsBounded
      · exact consistent.budgetBounded
      · exact below
  | false =>
      constructor <;> simp [failSet, again, JobState.waiting, JobState.terminal]
      · exact consistent.attemptsNonnegative
      · exact consistent.attemptsBounded
      · exact consistent.budgetBounded

theorem recoverSet_consistent (now : Timestamp) {row : JobRow Data Result Digest}
    (consistent : RowConsistent row) : RowConsistent (recoverSet now row) := by
  by_cases again : row.attemptsMade < row.maxAttempts
  · constructor <;> simp [recoverSet, again, JobState.waiting, JobState.terminal]
    · exact consistent.attemptsNonnegative
    · exact consistent.attemptsBounded
    · exact consistent.budgetBounded
  · constructor <;> simp [recoverSet, again, JobState.waiting, JobState.terminal]
    · exact consistent.attemptsNonnegative
    · exact consistent.attemptsBounded
    · exact consistent.budgetBounded

theorem rowStep_consistent {hashing : Hashing Data Digest} {label : RowLabel Result}
    {before after : Option (JobRow Data Result Digest)}
    (change : RowStep hashing label before after)
    (consistent : ∀ row, before = some row → RowConsistent row) :
    ∀ row, after = some row → RowConsistent row := by
  intro row present
  cases change with
  | unchanged => exact consistent row present
  | missed => exact consistent row present
  | retained => exact consistent row present
  | inserted options now uuid submission accepted =>
      cases present
      exact newRow_consistent now uuid submission accepted
  | dispatched old =>
      cases present
      exact dispatchSet_consistent (consistent old rfl)
  | claimed options now message old holds =>
      cases present
      exact claimSet_consistent (consistent old rfl) holds
  | completed options now message response old holds =>
      cases present
      exact completeSet_consistent now response (consistent old rfl)
  | failed options now message error old holds =>
      cases present
      exact failSet_consistent now error (consistent old rfl)
  | recovered options now old holds =>
      cases present
      exact recoverSet_consistent now (consistent old rfl)
  | deleted => cases present

def TableConsistent (table : JobTable Data Result Digest) : Prop :=
  ∀ id row, table.lookup id = some row → RowConsistent row

theorem initial_consistent :
    TableConsistent (StoreState.initial : StoreState Data Result Digest).table := by
  intro id row impossible
  cases impossible

theorem TableConsistent.of_mem {table : JobTable Data Result Digest}
    (consistent : TableConsistent table) {row : JobRow Data Result Digest}
    (member : row ∈ table.rows) : RowConsistent row :=
  consistent row.id row (KeyedTable.lookup_of_mem member)

/-! ### Consequences for retention and polling -/

theorem RowConsistent.terminal_of_deleteWhere {row : JobRow Data Result Digest}
    (consistent : RowConsistent row) {options : JobStoreOptions} {now : Timestamp}
    (holds : deleteWhere options now row = true) : row.status.terminal = true := by
  apply consistent.finished.mp
  simp only [deleteWhere, Bool.and_eq_true] at holds
  cases finished : row.finishedAt with
  | none => simp [finished] at holds
  | some time => rfl

/-- What a poll says of a row. -/
structure Reported (row : JobRow Data Result Digest) (status : JobStatus Result) : Prop where
  id : status.id = row.id
  requestId : status.requestId = row.requestId
  state : status.status = row.status
  attemptsMade : status.attemptsMade = row.attemptsMade
  answered : status.response.isSome = true ↔ row.status = .completed
  response : ∀ response, status.response = some response → row.response = some response
  rejected : status.error.isSome = true ↔ row.status = .failed
  error : ∀ error, status.error = some error →
    ∃ code, row.errorCode = some code ∧ error = publicJobError code

theorem RowConsistent.jobStatus_reported {row : JobRow Data Result Digest}
    (consistent : RowConsistent row) : Reported row (jobStatus row) := by
  refine ⟨rfl, rfl, rfl, rfl, ?_, ?_, ?_, ?_⟩
  · by_cases completed : row.status = .completed
    · simp [jobStatus, completed, consistent.completedResponse completed]
    · simp [jobStatus, completed]
  · intro response given
    simp only [jobStatus] at given
    split at given
    · exact given
    · cases given
  · by_cases failed : row.status = .failed <;> simp [jobStatus, failed]
  · intro error given
    simp only [jobStatus] at given
    split at given
    · rename_i failed
      obtain ⟨code, stored⟩ := Option.isSome_iff_exists.mp (consistent.failedError failed)
      cases given
      exact ⟨code, stored, by rw [stored, Option.getD_some]⟩
    · cases given

theorem Reported.unique {row : JobRow Data Result Digest} {status other : JobStatus Result}
    (reported : Reported row status) (again : Reported row other) : status = other := by
  have sameResponse : status.response = other.response := by
    cases first : status.response with
    | none =>
        have unanswered : ¬ row.status = .completed := by
          rw [← reported.answered, first]
          exact Bool.false_ne_true
        rw [← again.answered, Option.not_isSome_iff_eq_none] at unanswered
        exact unanswered.symm
    | some response =>
        obtain ⟨second, given⟩ := Option.isSome_iff_exists.mp
          (again.answered.mpr (reported.answered.mp (by rw [first]; rfl)))
        rw [given, ← again.response second given, reported.response response first]
  have sameError : status.error = other.error := by
    cases first : status.error with
    | none =>
        have unfailed : ¬ row.status = .failed := by
          rw [← reported.rejected, first]
          exact Bool.false_ne_true
        rw [← again.rejected, Option.not_isSome_iff_eq_none] at unfailed
        exact unfailed.symm
    | some error =>
        obtain ⟨second, given⟩ := Option.isSome_iff_exists.mp
          (again.rejected.mpr (reported.rejected.mp (by rw [first]; rfl)))
        obtain ⟨code, stored, described⟩ := reported.error error first
        obtain ⟨same, storedAgain, describedAgain⟩ := again.error second given
        rw [given, described, describedAgain, Option.some.inj (stored.symm.trans storedAgain)]
  obtain ⟨id, requestId, state, attemptsMade, _, _, _, _⟩ := reported
  obtain ⟨otherId, otherRequestId, otherState, otherAttempts, _, _, _, _⟩ := again
  cases status
  cases other
  simp_all

theorem getJob_eq_some_iff {options : JobStoreOptions} {id : JobId} {ownerId : JsString}
    {table : JobTable Data Result Digest} (consistent : TableConsistent table)
    {status : JobStatus Result} :
    getJob options id ownerId table = some status ↔
      ∃ row ∈ table.rows, row.id = id ∧ row.ownerId = ownerId ∧ row.queueName = options.name ∧
        Reported row status := by
  have keyed : ∀ row : JobRow Data Result Digest,
      (row.id = id && row.ownerId = ownerId && row.queueName = options.name) = true →
        row.id = id := by
    intro row holds
    simp only [Bool.and_eq_true, decide_eq_true_eq] at holds
    exact holds.1.1
  rw [getJob, Option.map_eq_some_iff]
  constructor
  · rintro ⟨row, chosen, rfl⟩
    obtain ⟨member, holds⟩ := KeyedTable.select_mem chosen
    simp only [Bool.and_eq_true, decide_eq_true_eq] at holds
    exact ⟨row, member, holds.1.1, holds.1.2, holds.2, (consistent.of_mem member).jobStatus_reported⟩
  · rintro ⟨row, member, rfl, rfl, queue, reported⟩
    refine ⟨row, (KeyedTable.select_eq_some_iff keyed).mpr ⟨KeyedTable.lookup_of_mem member, ?_⟩, ?_⟩
    · simp [queue]
    · exact (consistent.of_mem member).jobStatus_reported.unique reported

section Runs

variable [DecidableEq Digest] {hashing : Hashing Data Digest} {collation : JobId → JobId → Bool}

theorem storeStep_consistent {state next : StoreState Data Result Digest}
    {event : StoreEvent Data Result} (consistent : TableConsistent state.table)
    (taken : storeStep hashing collation state event next) : TableConsistent next.table := by
  intro id
  exact rowStep_consistent (storeStep_rowStep hashing collation taken id) (consistent id)

theorem run_consistent {state : StoreState Data Result Digest}
    {events : List (StoreEvent Data Result)}
    (run : Run (storeStep hashing collation) StoreState.initial events state) :
    TableConsistent state.table := by
  apply run.invariant (fun state => TableConsistent state.table) initial_consistent
  intro state event next consistent taken
  exact storeStep_consistent consistent taken

/-- In every reachable table all rows are consistent, retention removes only
terminal jobs, and a poll reports exactly the row of that id, owner and queue, with
a response when the job is completed and an error when it has failed. -/
theorem reachable_rows_consistent {state : StoreState Data Result Digest}
    {events : List (StoreEvent Data Result)}
    (run : Run (storeStep hashing collation) StoreState.initial events state) :
    (∀ row ∈ state.table.rows, RowConsistent row) ∧
      (∀ options now, ∀ row ∈ state.table.rows, deleteWhere options now row = true →
        row.status.terminal = true) ∧
      (∀ options id ownerId status, getJob options id ownerId state.table = some status ↔
        ∃ row ∈ state.table.rows, row.id = id ∧ row.ownerId = ownerId ∧
          row.queueName = options.name ∧ Reported row status) ∧
      ∀ row ∈ state.table.rows, ∃ status, Reported row status := by
  have consistent := run_consistent run
  refine ⟨fun row member => consistent.of_mem member, ?_, ?_, ?_⟩
  · intro options now row member holds
    exact (consistent.of_mem member).terminal_of_deleteWhere holds
  · intro options id ownerId status
    exact getJob_eq_some_iff consistent
  · intro row member
    exact ⟨_, (consistent.of_mem member).jobStatus_reported⟩

end Runs

theorem reachable_rows_consistent_sample :
    let state := (execAll sampleHashing JsString.le StoreState.initial sampleOps).2
    state.table.rows.map JobRow.status = [.completed] ∧
      (∀ row ∈ state.table.rows, RowConsistent row) ∧
      ∃ row ∈ state.table.rows, ∃ status,
        getJob sampleOptions row.id row.ownerId state.table = some status ∧
          status.response.isSome = true := by
  obtain ⟨consistent, _, polled, reported⟩ := reachable_rows_consistent
    (run_execAll sampleHashing JsString.le StoreState.initial sampleOps (by decide +kernel))
  have completed : ((execAll sampleHashing JsString.le StoreState.initial sampleOps).2.table.rows.all
      (fun row => row.status = .completed && row.queueName = sampleOptions.name)) = true := by
    decide +kernel
  have held : (execAll sampleHashing JsString.le StoreState.initial sampleOps).2.table.rows ≠ [] := by
    decide +kernel
  obtain ⟨row, member⟩ := List.exists_mem_of_ne_nil _ held
  obtain ⟨status, given⟩ := reported row member
  have state := List.all_eq_true.mp completed row member
  simp only [Bool.and_eq_true, decide_eq_true_eq] at state
  exact ⟨by decide +kernel, consistent, row, member, status,
    (polled _ _ _ _).mpr ⟨row, member, rfl, rfl, state.2, given⟩, given.answered.mpr state.1⟩

end ModelMux.Queue
