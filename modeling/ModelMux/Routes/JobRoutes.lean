/-
The job API.

`POST /v1/jobs` answers with the location of the job, and `GET` of a location with the
state of the job, to its owner only.  Every accepted job has a location that can be
polled until retention has deleted the job.  What a poll reports is explained by the
history: the submission of the owner, and the passes that have been made for it.
-/

import ModelMux.Jobs.StoredOutcomes
import ModelMux.Queue.OwnerIsolation
import ModelMux.Routes.AppError

namespace ModelMux.Routes

open Providers Queue Jobs

variable {Response Failure Digest : Type}

/-! ### The routes -/

def jobsPrefix : JsString := JsString.ofString "/v1/jobs/"

def location (id : JobId) : JsString := jobsPrefix ++ id

/-- The parameter of a path that the schema of `GET /v1/jobs/:id` accepts.  Such a
parameter has no characters that stand for others. -/
def jobParam (path : JsString) : Option JobId :=
  if jobsPrefix.isPrefixOf path && isJobIdText (path.drop jobsPrefix.length) then
    some (path.drop jobsPrefix.length)
  else none

inductive JobsReply (Response : Type) where
  | accepted (location : JsString) (receipt : JobReceipt)
  | found (status : JobStatus Response)
  | refused (reply : ErrorReply)

/-- `RabbitMqJobQueue.enqueue`: an error of the store that is no `AppError` is hidden. -/
def enqueueError : EnqueueError → AppError Unit
  | .idempotencyConflict => .idempotencyConflictError
  | .disappeared => .jobQueueUnavailableError none

/-- `POST /v1/jobs`, once its headers and its body have been accepted. -/
def postJobReply (requestId : JsString) (apiKey : Option JsString)
    (enqueued : Except EnqueueError JobReceipt) : JobsReply Response :=
  match apiKey, enqueued with
  | none, _ => .refused (errorReply requestId (.app (.authenticationError : AppError Unit)))
  | some _, .error error => .refused (errorReply requestId (.app (enqueueError error)))
  | some _, .ok receipt => .accepted (location receipt.id) receipt

def getJobReply (requestId : JsString) (options : JobStoreOptions) (apiKey : Option JsString)
    (id : JobId) (table : JobTable ChatRequest Response Digest) : JobsReply Response :=
  match apiKey with
  | none => .refused (errorReply requestId (.app (.authenticationError : AppError Unit)))
  | some ownerId =>
      match getJob options id ownerId table with
      | none => .refused (errorReply requestId (.app (.jobNotFoundError : AppError Unit)))
      | some status => .found status

def notFound (requestId : JsString) : JobsReply Response :=
  .refused (errorReply requestId (.app (.jobNotFoundError : AppError Unit)))

theorem jobParam_location {id : JobId} (accepted : isJobIdText id = true) :
    jobParam (location id) = some id := by
  have tail : (location id).drop jobsPrefix.length = id := List.drop_left
  have matched : jobsPrefix.isPrefixOf (location id) = true :=
    List.isPrefixOf_iff_prefix.mpr (List.prefix_append jobsPrefix id)
  simp [jobParam, tail, matched, accepted]

/-- A poll sees the row of the id, if it is of this owner and of this queue. -/
theorem getJobReply_eq (requestId : JsString) (options : JobStoreOptions) (ownerId : JsString)
    (id : JobId) (table : JobTable ChatRequest Response Digest) :
    getJobReply requestId options (some ownerId) id table =
      (table.lookup id).elim (notFound requestId) (fun row =>
        if row.ownerId = ownerId ∧ row.queueName = options.name then .found (jobStatus row)
        else notFound requestId) := by
  simp only [getJobReply, getJob_eq, ownerView]
  cases table.lookup id with
  | none => rfl
  | some row =>
      by_cases owned : row.ownerId = ownerId
      · by_cases named : row.queueName = options.name
        · simp [owned, named, Option.filter]
        · simp [owned, named, Option.filter, notFound]
      · simp [owned, Option.filter, notFound]

section Polls

variable {requestId ownerId : JsString} {options : JobStoreOptions} {id : JobId}
  {table : JobTable ChatRequest Response Digest} {row : JobRow ChatRequest Response Digest}

theorem getJobReply_found (found : table.lookup id = some row) (owned : row.ownerId = ownerId)
    (named : row.queueName = options.name) :
    getJobReply requestId options (some ownerId) id table = .found (jobStatus row) := by
  rw [getJobReply_eq, found]
  simp [owned, named]

theorem getJobReply_hidden (found : table.lookup id = some row) (foreign : row.ownerId ≠ ownerId) :
    getJobReply requestId options (some ownerId) id table = notFound requestId := by
  rw [getJobReply_eq, found]
  simp [foreign]

theorem getJobReply_none (gone : table.lookup id = none) :
    getJobReply requestId options (some ownerId) id table = notFound requestId := by
  rw [getJobReply_eq, gone]
  rfl

end Polls

/-! ### Accepted jobs -/

section Store

variable [DecidableEq Digest] {hashing : Hashing ChatRequest Digest}
  {collation : JobId → JobId → Bool} {state next : StoreState ChatRequest Response Digest}

variable (hashing collation) in
/-- Among the statements is one of `maintain` that has deleted the row of this id, which
had been terminal for longer than it is kept. -/
def Purged (id : JobId) (events : List (StoreEvent ChatRequest Response))
    (state : StoreState ChatRequest Response Digest) : Prop :=
  ∃ before options now after old finished,
    Run.Taken (storeStep hashing collation) StoreState.initial events state before
      (.maintainDelete options now, .done) after ∧
    before.table.lookup id = some old ∧ old.status.terminal = true ∧
    old.finishedAt = some finished ∧ finished < now - retentionMs ∧ after.table.lookup id = none

theorem run_stays_deleted {events : List (StoreEvent ChatRequest Response)} {id : JobId}
    (run : Run (storeStep hashing collation) state events next) (issued : id ∈ state.issued)
    (gone : state.table.lookup id = none) : next.table.lookup id = none := by
  have kept := run.invariant (fun state => id ∈ state.issued ∧ state.table.lookup id = none)
    ⟨issued, gone⟩
    (by
      rintro state event next ⟨issued, gone⟩ taken
      refine ⟨storeStep_issued hashing collation taken id issued, ?_⟩
      cases after : next.table.lookup id with
      | none => rfl
      | some row =>
          rcases (storeStep_rowStep hashing collation taken id).submission_cases.2 row after with
            ⟨old, before, _⟩ | ⟨budget, label⟩
          · cases gone.symm.trans before
          · exact absurd issued (rowLabel_inserted taken label).1)
  exact kept.2

/-- A step of retention deletes only rows that are terminal and old. -/
theorem deleted_terminal {id : JobId} {old : JobRow ChatRequest Response Digest}
    {options : JobStoreOptions} {now : Timestamp} {outcome : StoreOutcome ChatRequest Response}
    (consistent : TableConsistent state.table)
    (taken : storeStep hashing collation state (.maintainDelete options now, outcome) next)
    (found : state.table.lookup id = some old) (gone : next.table.lookup id = none) :
    outcome = .done ∧ old.status.terminal = true ∧
      ∃ finished, old.finishedAt = some finished ∧ finished < now - retentionMs := by
  cases taken.2
  change (state.table.delete (deleteWhere options now)).lookup id = none at gone
  rw [KeyedTable.lookup_delete, found] at gone
  have deleted : deleteWhere options now old = true := by
    cases matched : deleteWhere options now old with
    | true => rfl
    | false => simp [Option.filter, matched] at gone
  simp only [deleteWhere, Bool.and_eq_true, Option.any_eq_true, decide_eq_true_eq] at deleted
  obtain ⟨_, finished, ended, past⟩ := deleted
  refine ⟨rfl, ?_, finished, ended, past⟩
  exact (consistent id old found).finished.mp (by simp [ended])

/-- A row stays as it was submitted, or retention has deleted it. -/
theorem run_retained {events more : List (StoreEvent ChatRequest Response)}
    {last : StoreState ChatRequest Response Digest} {id : JobId}
    {row : JobRow ChatRequest Response Digest}
    (before : Run (storeStep hashing collation) StoreState.initial events state)
    (run : Run (storeStep hashing collation) state more last)
    (found : state.table.lookup id = some row) :
    (∃ later, last.table.lookup id = some later ∧ SameSubmission row later) ∨
      (last.table.lookup id = none ∧ Purged hashing collation id (events ++ more) last) := by
  rcases run_kept_or_deleted run found with kept | deleted
  · exact Or.inl kept
  · obtain ⟨earlier, ⟨op, outcome⟩, later, here, there, rfl, upTo, taken, rest,
      ⟨options, now, rfl⟩, present, gone⟩ := deleted
    obtain ⟨old, oldFound⟩ := Option.ne_none_iff_exists'.mp present
    have start := before.append upTo
    have issued : RowsIssued here := start.invariant RowsIssued
      (fun _ present => absurd rfl present) (fun _ _ _ issued taken => storeStep_rowsIssued issued taken)
    obtain ⟨rfl, terminal, finished, ended, past⟩ :=
      deleted_terminal (run_consistent start) taken oldFound gone
    refine Or.inr ⟨run_stays_deleted rest
      (storeStep_issued hashing collation taken id (issued id present)) gone, ?_⟩
    exact ⟨here, options, now, there, old, finished,
      ⟨events ++ earlier, later, by simp, start, taken, rest⟩, oldFound, terminal, ended, past,
      gone⟩

/-- What has become of a job since a call of `enqueue` has returned its receipt. -/
theorem receipt_retained {events : List (StoreEvent ChatRequest Response)}
    {before after : StoreState ChatRequest Response Digest}
    {event : StoreEvent ChatRequest Response} {stored : JobStoreOptions}
    {submission : JobSubmission ChatRequest} {receipt : JobReceipt}
    (taken : Run.Taken (storeStep hashing collation) StoreState.initial events state before event
      after)
    (returned : Returns before event stored submission (.ok receipt)) :
    isJobIdText receipt.id = true ∧
      ((∃ row, state.table.lookup receipt.id = some row ∧
          row.ownerId = submission.ownerId ∧ row.requestId = receipt.requestId) ∨
        (state.table.lookup receipt.id = none ∧
          Purged hashing collation receipt.id events state)) := by
  obtain ⟨earlier, later, rfl, start, taken, rest⟩ := taken
  obtain ⟨row, found, request, key, _⟩ := returns_receipt taken returned
  have upTo := start.snoc taken
  have owned : row.ownerId = submission.ownerId := congrArg (fun key => key.2.1) key
  constructor
  · obtain ⟨_, _, submitted⟩ := (run_submitted upTo).1 receipt.id row found
    obtain ⟨_, _, uuid, sameId, _⟩ := submitted.inserted
    have rowId : row.id = receipt.id := KeyedTable.lookup_key found
    rw [← rowId, ← sameId]
    exact isJobIdText_jobId uuid
  · have held := run_retained upTo rest found
    rw [List.append_assoc, List.singleton_append] at held
    rcases held with ⟨last, present, same⟩ | deleted
    · exact Or.inl ⟨last, present, same.ownerId.trans owned, same.requestId.trans request⟩
    · exact Or.inr deleted

end Store

/-! ### Reported states -/

/-- Why a poll reports this state of a job with these data and this many attempts;
`givenUp` says that `maintain` has found the last attempt without its lease. -/
inductive Explains (isResponseError : Failure → Bool) (router : ProviderRouter)
    (routers : Nat → RouterSystem Response Failure) (data : ChatRequest) (maxAttempts : ℤ)
    (givenUp : Prop) (status : JobStatus Response) : Prop
  | unfinished (going : status.status.terminal = false) (response : status.response = none)
      (error : status.error = none)
  | completed (response : Response) (state : status.status = .completed)
      (given : status.response = some response) (error : status.error = none)
      (answered : ∃ worker, ∃ pass ∈ (routers worker).passes,
        pass.request = data ∧ pass.phase = .finished (.ok response) ∧
          ∃ role asked, .answered role (.ok response) ∈ pass.log ∧
            .invoked role asked ∈ pass.log ∧ AskedFor router data asked role)
  | refused (error : Thrown Failure) (code : JobErrorCode) (state : status.status = .failed)
      (response : status.response = none) (reported : status.error = some ⟨code, publicErrors code⟩)
      (coded : code = (processingError isResponseError error).code)
      (last : isRetryableProviderError error = false ∨ status.attemptsMade = maxAttempts)
      (answered : ∃ worker, ∃ pass ∈ (routers worker).passes,
        pass.request = data ∧ pass.phase = .finished (.error error) ∧
          ∀ role asked, .invoked role asked ∈ pass.log → AskedFor router data asked role)
  | abandoned (state : status.status = .failed) (response : status.response = none)
      (reported : status.error = some ⟨.jobFailed, publicErrors .jobFailed⟩)
      (last : status.attemptsMade = maxAttempts) (given : givenUp)

section Runs

variable [DecidableEq Digest] {hashing : Hashing ChatRequest Digest}
  {collation : JobId → JobId → Bool} {queue : JsString} {router : ProviderRouter}
  {isResponseError : Failure → Bool} {state : InferenceState Response Failure Digest}

omit [DecidableEq Digest] in
theorem row_explained (invariant : InferenceInvariant queue router isResponseError state)
    {lost : JobId → JobRow ChatRequest Response Digest → Prop}
    (rows : RowsConcluded isResponseError lost state) {id : JobId}
    {row : JobRow ChatRequest Response Digest}
    (found : state.jobs.store.table.lookup id = some row) :
    Explains isResponseError router state.routers row.data row.maxAttempts (lost id row)
      (jobStatus row) := by
  cases terminal : row.status.terminal with
  | false =>
      have uncompleted : row.status ≠ .completed := by
        intro same
        rw [same] at terminal
        cases terminal
      have unfailed : row.status ≠ .failed := by
        intro same
        rw [same] at terminal
        cases terminal
      exact .unfinished terminal (by simp [jobStatus, uncompleted]) (by simp [jobStatus, unfailed])
  | true =>
      have bounded := (invariant.system.consistent id row found).attemptsBounded
      cases rows id row found terminal with
      | answered response completed stored finished =>
          obtain ⟨worker, pass, member, request, finished⟩ := finished
          obtain ⟨role, asked, answered, invoked, due⟩ := finished_answered
            ((invariant.passes worker).passes pass member)
            ((invariant.passes worker).evidence pass member) finished
          exact .completed response completed (by simp [jobStatus, completed, stored])
            (by simp [jobStatus, completed])
            ⟨worker, pass, member, request, finished, role, asked, answered, invoked, request ▸ due⟩
      | refused error failed code last finished =>
          obtain ⟨worker, pass, member, request, finished⟩ := finished
          refine .refused error _ failed (by simp [jobStatus, failed])
            (by simp [jobStatus, failed, code, publicJobError_text]) rfl
            (last.imp_right (le_antisymm bounded)) ⟨worker, pass, member, request, finished, ?_⟩
          intro role asked invoked
          rw [← request]
          exact invoked_askedFor ((invariant.passes worker).passes pass member) invoked
      | abandoned failed code last given =>
          exact .abandoned failed (by simp [jobStatus, failed])
            (by simp [jobStatus, failed, code, publicJobError_text]) (le_antisymm bounded last)
            given

/-- A job whose receipt a call of `enqueue` has returned can be polled at its location: by
its owner, until retention has deleted it, and by nobody else.  The state that a poll
reports is that of a job of the same owner; its attempts are the claims of the job, and
its response or its error comes from a pass for the conversation that was submitted. -/
theorem polls_explained {clock : Timestamp} {clocks : Nat → ℚ} {circuits : Nat → Circuits}
    {events : List (InferenceEvent Response Failure)}
    (run : Run (InferenceStep hashing collation queue router isResponseError)
      (.initial clock clocks circuits) events state)
    {options : JobStoreOptions} (named : options.name = queue) (requestId : JsString) :
    (∀ before event after stored submission receipt,
        Run.Taken (storeStep hashing collation) StoreState.initial
            (storeHistory (events.flatMap InferenceEvent.workerEvents)) state.jobs.store before
            event after →
          Returns before event stored submission (.ok receipt) →
        (∃ path, (postJobReply requestId (some submission.ownerId) (.ok receipt) :
            JobsReply Response) = .accepted path receipt ∧ jobParam path = some receipt.id) ∧
          (∀ other, other ≠ submission.ownerId →
            getJobReply requestId options (some other) receipt.id state.jobs.store.table =
              notFound requestId) ∧
          ((∃ status, getJobReply requestId options (some submission.ownerId) receipt.id
                state.jobs.store.table = .found status ∧
              status.id = receipt.id ∧ status.requestId = receipt.requestId) ∨
            (getJobReply requestId options (some submission.ownerId) receipt.id
                state.jobs.store.table = notFound requestId ∧
              Purged hashing collation receipt.id
                (storeHistory (events.flatMap InferenceEvent.workerEvents)) state.jobs.store))) ∧
      ∀ ownerId id status, getJobReply requestId options (some ownerId) id
          state.jobs.store.table = .found status →
        ∃ row stored submission, state.jobs.store.table.lookup id = some row ∧
          SubmittedAs hashing
            (storeHistory (events.flatMap InferenceEvent.workerEvents)) row stored submission ∧
          submission.ownerId = ownerId ∧ status.id = id ∧
          status.requestId = submission.requestId ∧
          claimedAttempts id (storeHistory (events.flatMap InferenceEvent.workerEvents)) =
            attemptsUpTo status.attemptsMade.toNat ∧
          Explains isResponseError router state.routers submission.data row.maxAttempts
            (GivenUp hashing collation
              (storeHistory (events.flatMap InferenceEvent.workerEvents)) state.jobs.store id row)
            status := by
  obtain ⟨invariant, rows⟩ := run_concluded run
  have history := run_storeHistory (run_workers run)
  constructor
  · intro before event after stored submission receipt taken returned
    obtain ⟨identified, held⟩ := receipt_retained taken returned
    refine ⟨⟨_, rfl, jobParam_location identified⟩, ?_, ?_⟩
    · intro other different
      rcases held with ⟨row, present, owned, _⟩ | ⟨gone, _⟩
      · apply getJobReply_hidden present
        intro own
        exact different (own.symm.trans owned)
      · exact getJobReply_none gone
    · rcases held with ⟨row, present, owned, request⟩ | ⟨gone, purged⟩
      · have queued := (invariant.system.stored _ row present).named
        exact Or.inl ⟨jobStatus row, getJobReply_found present owned (queued.trans named.symm),
          (KeyedTable.lookup_key present : row.id = receipt.id), request⟩
      · exact Or.inr ⟨getJobReply_none gone, purged⟩
  · intro ownerId id status replied
    rw [getJobReply_eq] at replied
    cases found : state.jobs.store.table.lookup id with
    | none =>
        rw [found] at replied
        cases replied
    | some row =>
        rw [found] at replied
        simp only [Option.elim_some] at replied
        split_ifs at replied with visible
        · cases replied
          obtain ⟨stored, submission, submitted⟩ := (run_submitted history).1 id row found
          refine ⟨row, stored, submission, rfl, submitted,
            submitted.ownerId.symm.trans visible.1,
            (KeyedTable.lookup_key found : row.id = id), submitted.requestId,
            ((run_claimHistory history id).present row found).1, ?_⟩
          rw [← submitted.data]
          exact row_explained invariant rows found
        · cases replied

end Runs

/-- The owner of the conversation polls its job after it has been completed. -/
theorem polls_explained_conversation :
    ∃ status : JobStatus Unit,
      getJobReply [] sampleOptions (some conversationSubmission.ownerId) (jobId sampleUuid)
          conversationCompleted.table = .found status ∧
        status.status = .completed ∧
        ∃ (routers : Nat → RouterSystem Unit Unit) (submission : JobSubmission ChatRequest)
            (maxAttempts : ℤ) (givenUp : Prop),
          submission.ownerId = conversationSubmission.ownerId ∧
            Explains (fun _ => false) sampleRouter routers submission.data maxAttempts givenUp
              status := by
  obtain ⟨events, circuits, calls, run⟩ := conversation_completed
  obtain ⟨status, replied, completed⟩ : ∃ status,
      getJobReply [] sampleOptions (some conversationSubmission.ownerId) (jobId sampleUuid)
          conversationCompleted.table = .found status ∧ status.status = .completed :=
    ⟨_, rfl, rfl⟩
  obtain ⟨row, stored, submission, _, _, owner, _, _, _, explained⟩ :=
    (polls_explained run rfl []).2 _ _ status replied
  exact ⟨status, replied, completed, _, submission, row.maxAttempts, _, owner, explained⟩

end ModelMux.Routes
