/-
The SQL statements of the job store.

Each statement is a function of the table, the store's options and the value
of `NOW()` in its transaction.  `RowStep` says once, for a single job id, what
any statement can do to the row of that id; every invariant of the queue is
derived from it.
-/

import ModelMux.Queue.JobRow
import Mathlib.Data.List.Sort

namespace ModelMux.Queue

variable {Data Result Digest : Type}

structure Hashing (Data Digest : Type) where
  key : JsString → Digest
  payload : Data → Digest

/-! ### enqueue and getJob -/

/-- `CHECK` constraints and the range of `INTEGER` for the inserted options. -/
def columnsAccepted (options : JobStoreOptions) : Bool :=
  0 < options.maxAttempts && options.maxAttempts ≤ 2147483647 &&
    0 < options.backoffMs && options.backoffMs ≤ 2147483647

def newRow (hashing : Hashing Data Digest) (options : JobStoreOptions) (now : Timestamp)
    (uuid : Uuid) (submission : JobSubmission Data) : JobRow Data Result Digest :=
  { id := jobId uuid
    queueName := options.name
    ownerId := submission.ownerId
    idempotencyHash := hashing.key submission.idempotencyKey
    payloadHash := hashing.payload submission.data
    requestId := submission.requestId
    data := submission.data
    status := .queued
    attemptsMade := 0
    maxAttempts := options.maxAttempts
    backoffMs := options.backoffMs
    response := none
    errorCode := none
    dispatchPending := true
    availableAt := now
    leaseUntil := none
    finishedAt := none }

@[simp] theorem newRow_id (hashing : Hashing Data Digest) (options : JobStoreOptions)
    (now : Timestamp) (uuid : Uuid) (submission : JobSubmission Data) :
    (newRow hashing options now uuid submission : JobRow Data Result Digest).id = jobId uuid :=
  rfl

inductive InsertOutcome (Data Result Digest : Type) where
  | inserted (row : JobRow Data Result Digest) (table : JobTable Data Result Digest)
  | conflict
  | raised

def enqueueInsert [DecidableEq Digest] (hashing : Hashing Data Digest)
    (options : JobStoreOptions) (now : Timestamp) (uuid : Uuid) (submission : JobSubmission Data)
    (table : JobTable Data Result Digest) : InsertOutcome Data Result Digest :=
  if columnsAccepted options then
    match table.insert (newRow hashing options now uuid submission) with
    | .inserted next => .inserted (newRow hashing options now uuid submission) next
    | .conflict => .conflict
    | .duplicateKey => .raised
  else .raised

def enqueueSelect [DecidableEq Digest] (hashing : Hashing Data Digest)
    (options : JobStoreOptions) (submission : JobSubmission Data)
    (table : JobTable Data Result Digest) : Option (JobRow Data Result Digest) :=
  table.select (fun row => row.queueName = options.name && row.ownerId = submission.ownerId &&
    row.idempotencyHash = hashing.key submission.idempotencyKey)

def enqueueResult [DecidableEq Digest] (payloadHash : Digest) :
    Option (JobRow Data Result Digest) → Except EnqueueError JobReceipt
  | none => .error .disappeared
  | some row =>
      if row.payloadHash ≠ payloadHash then .error .idempotencyConflict
      else .ok { id := row.id, requestId := row.requestId }

def jobStatus (row : JobRow Data Result Digest) : JobStatus Result :=
  { id := row.id
    requestId := row.requestId
    status := row.status
    attemptsMade := row.attemptsMade
    response := if row.status = .completed then row.response else none
    error :=
      if row.status = .failed then some (publicJobError (row.errorCode.getD "JOB_FAILED"))
      else none }

/-- `none` is the thrown `JobNotFoundError`. -/
def getJob (options : JobStoreOptions) (id : JobId) (ownerId : JsString)
    (table : JobTable Data Result Digest) : Option (JobStatus Result) :=
  (table.select (fun row =>
    row.id = id && row.ownerId = ownerId && row.queueName = options.name)).map jobStatus

/-! ### dispatchOne -/

def dispatchWhere (options : JobStoreOptions) (now : Timestamp)
    (row : JobRow Data Result Digest) : Bool :=
  row.queueName = options.name && row.dispatchPending && row.status.waiting &&
    row.availableAt ≤ now

/-- `ORDER BY available_at, id`; the order of ids is the database's collation. -/
def dispatchOrder (collation : JobId → JobId → Bool) (left right : JobRow Data Result Digest) :
    Bool :=
  left.availableAt < right.availableAt ||
    (left.availableAt = right.availableAt && collation left.id right.id)

def dispatchSelect (collation : JobId → JobId → Bool) (options : JobStoreOptions)
    (now : Timestamp) (locked : List JobId) (table : JobTable Data Result Digest) :
    Option (JobRow Data Result Digest) :=
  ((table.rows.filter (fun row => dispatchWhere options now row && row.id ∉ locked)).insertionSort
    (fun left right => dispatchOrder collation left right = true)).head?

def dispatchMessage (row : JobRow Data Result Digest) : JobEnvelope :=
  { id := row.id, attempt := row.attemptsMade + 1 }

def dispatchSet (row : JobRow Data Result Digest) : JobRow Data Result Digest :=
  { row with dispatchPending := false }

def dispatchMark (id : JobId) (table : JobTable Data Result Digest) :
    JobTable Data Result Digest :=
  table.update (fun row => row.id = id) dispatchSet (fun _ => rfl) (fun _ => rfl)

/-! ### claim -/

def claimWhere (options : JobStoreOptions) (now : Timestamp) (message : JobEnvelope)
    (row : JobRow Data Result Digest) : Bool :=
  row.id = message.id && row.queueName = options.name && row.status.waiting &&
    row.attemptsMade = message.attempt - 1 && row.attemptsMade < row.maxAttempts &&
    row.availableAt ≤ now

def claimSet (options : JobStoreOptions) (now : Timestamp) (message : JobEnvelope)
    (row : JobRow Data Result Digest) : JobRow Data Result Digest :=
  { row with
    status := .active
    attemptsMade := message.attempt
    leaseUntil := some (now + options.leaseMs) }

def processingJob (now : Timestamp) (row : JobRow Data Result Digest) : ProcessingJob Data :=
  { id := row.id
    ownerId := row.ownerId
    requestId := row.requestId
    data := row.data
    attempt := row.attemptsMade
    queueWaitTimeMs := max 0 (now - row.availableAt) }

def claim (options : JobStoreOptions) (now : Timestamp) (message : JobEnvelope)
    (table : JobTable Data Result Digest) :
    Option (ProcessingJob Data) × JobTable Data Result Digest :=
  ((table.select (claimWhere options now message)).map
      (fun row => processingJob now (claimSet options now message row)),
    table.update (claimWhere options now message) (claimSet options now message)
      (fun _ => rfl) (fun _ => rfl))

/-! ### complete and fail -/

/-- The condition of both outcome statements: the row is active at this attempt. -/
def outcomeWhere (options : JobStoreOptions) (message : JobEnvelope)
    (row : JobRow Data Result Digest) : Bool :=
  row.id = message.id && row.attemptsMade = message.attempt && row.queueName = options.name &&
    row.status = .active

def completeSet (now : Timestamp) (response : Result) (row : JobRow Data Result Digest) :
    JobRow Data Result Digest :=
  { row with
    status := .completed
    response := some response
    errorCode := none
    finishedAt := some now
    leaseUntil := none
    dispatchPending := false }

def complete (options : JobStoreOptions) (now : Timestamp) (message : JobEnvelope)
    (response : Result) (table : JobTable Data Result Digest) : JobTable Data Result Digest :=
  table.update (outcomeWhere options message) (completeSet now response)
    (fun _ => rfl) (fun _ => rfl)

def backoffDelayMs (backoffMs attemptsMade : ℤ) : ℚ :=
  min 3600000 (backoffMs * 2 ^ min (attemptsMade - 1) 30)

def retries (error : JobProcessingError) (row : JobRow Data Result Digest) : Bool :=
  error.retryable && row.attemptsMade < row.maxAttempts

def failSet (now : Timestamp) (error : JobProcessingError) (row : JobRow Data Result Digest) :
    JobRow Data Result Digest :=
  { row with
    status := if retries error row then .retrying else .failed
    dispatchPending := retries error row
    availableAt := now + max error.retryAfterMs (backoffDelayMs row.backoffMs row.attemptsMade)
    errorCode := some error.code.text
    leaseUntil := none
    finishedAt := if retries error row then none else some now }

def fail (options : JobStoreOptions) (now : Timestamp) (message : JobEnvelope)
    (error : JobProcessingError) (table : JobTable Data Result Digest) :
    Option FailStatus × JobTable Data Result Digest :=
  ((table.select (outcomeWhere options message)).map
      (fun row => if retries error row then .retrying else .failed),
    table.update (outcomeWhere options message) (failSet now error) (fun _ => rfl) (fun _ => rfl))

/-! ### maintain -/

/-- A null lease never compares as expired. -/
def recoverWhere (options : JobStoreOptions) (now : Timestamp)
    (row : JobRow Data Result Digest) : Bool :=
  row.queueName = options.name && row.status = .active &&
    row.leaseUntil.any (fun lease => lease < now)

def recoverSet (now : Timestamp) (row : JobRow Data Result Digest) : JobRow Data Result Digest :=
  { row with
    status := if row.attemptsMade < row.maxAttempts then .queued else .failed
    dispatchPending := row.attemptsMade < row.maxAttempts
    availableAt := now
    errorCode := some JobErrorCode.jobFailed.text
    leaseUntil := none
    finishedAt := if row.attemptsMade < row.maxAttempts then none else some now }

def maintainRecover (options : JobStoreOptions) (now : Timestamp)
    (table : JobTable Data Result Digest) : JobTable Data Result Digest :=
  table.update (recoverWhere options now) (recoverSet now) (fun _ => rfl) (fun _ => rfl)

def retentionMs : ℚ := 24 * 60 * 60 * 1000

def deleteWhere (options : JobStoreOptions) (now : Timestamp)
    (row : JobRow Data Result Digest) : Bool :=
  row.queueName = options.name && row.finishedAt.any (fun finished => finished < now - retentionMs)

def maintainDelete (options : JobStoreOptions) (now : Timestamp)
    (table : JobTable Data Result Digest) : JobTable Data Result Digest :=
  table.delete (deleteWhere options now)

end ModelMux.Queue
