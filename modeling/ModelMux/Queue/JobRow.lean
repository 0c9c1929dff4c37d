/-
Rows of the `inference_jobs` table and the values exchanged with the job
store.

The payload and the result stay generic, as they are in the store.  Times are
exact milliseconds; columns that hold `INTEGER` values are integers, so that
the bounds the table relies on are statements and not typing.
-/

import ModelMux.Foundation.KeyedTable
import ModelMux.Json.Text
import Mathlib.Data.Rat.Defs
import Mathlib.Algebra.Order.Ring.Rat
import Mathlib.Algebra.Field.Rat

namespace ModelMux.Queue

abbrev Timestamp := ℚ

abbrev JobId := JsString

/-! ### Job errors -/

inductive JobErrorCode where
  | providerUnavailable
  | providerTimeout
  | providerCircuitOpen
  | providerError
  | invalidProviderResponse
  | jobFailed
deriving Repr, DecidableEq

namespace JobErrorCode

def all : List JobErrorCode :=
  [.providerUnavailable, .providerTimeout, .providerCircuitOpen, .providerError,
    .invalidProviderResponse, .jobFailed]

def text : JobErrorCode → String
  | .providerUnavailable => "PROVIDER_UNAVAILABLE"
  | .providerTimeout => "PROVIDER_TIMEOUT"
  | .providerCircuitOpen => "PROVIDER_CIRCUIT_OPEN"
  | .providerError => "PROVIDER_ERROR"
  | .invalidProviderResponse => "INVALID_PROVIDER_RESPONSE"
  | .jobFailed => "JOB_FAILED"

end JobErrorCode

def publicErrors : JobErrorCode → String
  | .providerUnavailable => "Unable to connect to the inference provider"
  | .providerTimeout => "Inference provider request timed out"
  | .providerCircuitOpen => "Inference provider is temporarily unavailable"
  | .providerError => "Inference provider request failed"
  | .invalidProviderResponse => "Inference provider returned an invalid response"
  | .jobFailed => "Inference job failed"

structure JobProcessingError where
  code : JobErrorCode
  retryable : Bool
  retryAfterMs : ℚ := 0
deriving DecidableEq

structure PublicJobError where
  code : JobErrorCode
  message : String
deriving Repr, DecidableEq

/-- A reason that is not one of the public codes is reported as `JOB_FAILED`. -/
def publicJobError (reason : String) : PublicJobError :=
  let code := (JobErrorCode.all.find? (fun code => code.text = reason)).getD .jobFailed
  { code := code, message := publicErrors code }

/-- Every stored code is reported as itself, with its own description. -/
theorem publicJobError_text (code : JobErrorCode) :
    publicJobError code.text = { code := code, message := publicErrors code } := by
  cases code <;> decide

/-! ### Rows -/

inductive JobState where
  | queued
  | active
  | retrying
  | completed
  | failed
deriving Repr, DecidableEq

namespace JobState

def waiting : JobState → Bool
  | .queued | .retrying => true
  | _ => false

def terminal : JobState → Bool
  | .completed | .failed => true
  | _ => false

end JobState

structure JobRow (Data Result Digest : Type) where
  id : JobId
  queueName : JsString
  ownerId : JsString
  idempotencyHash : Digest
  payloadHash : Digest
  requestId : JsString
  data : Data
  status : JobState
  attemptsMade : ℤ
  maxAttempts : ℤ
  backoffMs : ℤ
  response : Option Result
  errorCode : Option String
  dispatchPending : Bool
  availableAt : Timestamp
  leaseUntil : Option Timestamp
  finishedAt : Option Timestamp

/-- The columns of the `UNIQUE` constraint. -/
def JobRow.submissionKey {Data Result Digest : Type} (row : JobRow Data Result Digest) :
    JsString × JsString × Digest :=
  (row.queueName, row.ownerId, row.idempotencyHash)

abbrev JobTable (Data Result Digest : Type) :=
  KeyedTable (JobRow.id : JobRow Data Result Digest → JobId)
    (JobRow.submissionKey : JobRow Data Result Digest → JsString × JsString × Digest)

/-! ### Values at the store's interface -/

structure JobEnvelope where
  id : JobId
  attempt : ℤ
deriving DecidableEq

structure JobStoreOptions where
  name : JsString
  maxAttempts : ℤ
  backoffMs : ℤ
  leaseMs : ℚ
deriving DecidableEq

structure JobSubmission (Data : Type) where
  ownerId : JsString
  requestId : JsString
  idempotencyKey : JsString
  data : Data

structure JobReceipt where
  id : JobId
  requestId : JsString
deriving DecidableEq

structure JobStatus (Result : Type) where
  id : JobId
  requestId : JsString
  status : JobState
  attemptsMade : ℤ
  response : Option Result
  error : Option PublicJobError

structure ProcessingJob (Data : Type) where
  id : JobId
  ownerId : JsString
  requestId : JsString
  data : Data
  attempt : ℤ
  queueWaitTimeMs : ℚ

inductive EnqueueError where
  | idempotencyConflict
  | disappeared
deriving Repr, DecidableEq

inductive FailStatus where
  | retrying
  | failed
deriving Repr, DecidableEq

/-! ### Job identifiers -/

def isLowerHex (unit : CodeUnit) : Bool := unit.isDigit || (0x61 ≤ unit && unit ≤ 0x66)

/-- The shape of a `randomUUID`: hexadecimal digits with hyphens at four places. -/
def isUuid (text : JsString) : Bool :=
  text.length = 36 && text.zipIdx.all (fun entry =>
    if entry.2 ∈ [8, 13, 18, 23] then entry.1 = 0x2D else isLowerHex entry.1)

structure Uuid where
  text : JsString
  shape : isUuid text = true
deriving DecidableEq

def jobId (uuid : Uuid) : JobId := JsString.ofString "job-" ++ uuid.text

end ModelMux.Queue
