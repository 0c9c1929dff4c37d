/-
Idempotent submission.

`enqueue` inserts or, after a conflict, selects; other statements may run in
between, and retention may delete the row.  What makes the answers agree is
that the submission columns of a row never change and that the table holds at
most one row for each queue, owner and key hash.  The hash compares canonical
texts, so equal hashes mean equal keys, and payloads equal up to the order of
object members, whenever the hashed texts have no collision.
-/

import ModelMux.Queue.RowInvariant
import ModelMux.Queue.AttemptClaims

namespace ModelMux.Queue

variable {Data Result Digest : Type}

/-! ### Hashing documents -/

/-- Parsed request data: no object has two members of one key. -/
structure Document where
  value : Json
  distinctKeys : value.DistinctKeys

def documentHashing (digest : JsString → Digest) : Hashing Document Digest :=
  { key := fun key => digest (Json.canonicalText (.string key))
    payload := fun data => digest data.value.canonicalText }

def submissionTexts (submission : JobSubmission Document) : List JsString :=
  [Json.canonicalText (.string submission.idempotencyKey), submission.data.value.canonicalText]

def hashedTexts (events : List (StoreEvent Document Result)) : List JsString :=
  events.flatMap (fun event =>
    match event.1 with
    | .insert _ _ _ _ submission => submissionTexts submission
    | _ => [])

def CollisionFree (digest : JsString → Digest) (texts : List JsString) : Prop :=
  ∀ left ∈ texts, ∀ right ∈ texts, digest left = digest right → left = right

instance [DecidableEq Digest] (digest : JsString → Digest) (texts : List JsString) :
    Decidable (CollisionFree digest texts) :=
  inferInstanceAs (Decidable (∀ left ∈ texts, ∀ right ∈ texts,
    digest left = digest right → left = right))

theorem canonicalText_string_injective {left right : JsString}
    (same : Json.canonicalText (.string left) = Json.canonicalText (.string right)) :
    left = right := by
  have values := Json.print_injective same
  simpa [Json.canonicalize] using values

/-! ### Submission columns -/

structure SameSubmission (row later : JobRow Data Result Digest) : Prop where
  id : later.id = row.id
  queueName : later.queueName = row.queueName
  ownerId : later.ownerId = row.ownerId
  idempotencyHash : later.idempotencyHash = row.idempotencyHash
  payloadHash : later.payloadHash = row.payloadHash
  requestId : later.requestId = row.requestId
  data : later.data = row.data

theorem SameSubmission.refl (row : JobRow Data Result Digest) : SameSubmission row row :=
  ⟨rfl, rfl, rfl, rfl, rfl, rfl, rfl⟩

theorem SameSubmission.trans {row middle last : JobRow Data Result Digest}
    (first : SameSubmission row middle) (second : SameSubmission middle last) :
    SameSubmission row last :=
  { id := second.id.trans first.id
    queueName := second.queueName.trans first.queueName
    ownerId := second.ownerId.trans first.ownerId
    idempotencyHash := second.idempotencyHash.trans first.idempotencyHash
    payloadHash := second.payloadHash.trans first.payloadHash
    requestId := second.requestId.trans first.requestId
    data := second.data.trans first.data }

theorem SameSubmission.submissionKey {row later : JobRow Data Result Digest}
    (same : SameSubmission row later) : later.submissionKey = row.submissionKey := by
  simp [JobRow.submissionKey, same.queueName, same.ownerId, same.idempotencyHash]

private theorem kept_submission {row later : JobRow Data Result Digest} {label : RowLabel Result}
    (same : SameSubmission row later) :
    (∀ old, some row = some old → (∃ new, some later = some new ∧ SameSubmission old new) ∨
        (label = .purge ∧ some later = none)) ∧
      (∀ new, some later = some new → (∃ old, some row = some old ∧ SameSubmission old new) ∨
        ∃ budget, label = .inserted budget) := by
  refine ⟨?_, ?_⟩
  · intro old present
    cases present
    exact Or.inl ⟨later, rfl, same⟩
  · intro new present
    cases present
    exact Or.inl ⟨row, rfl, same⟩

/-- A row keeps its submission columns until retention deletes it. -/
theorem RowStep.submission_cases {hashing : Hashing Data Digest} {label : RowLabel Result}
    {before after : Option (JobRow Data Result Digest)}
    (change : RowStep hashing label before after) :
    (∀ row, before = some row → (∃ later, after = some later ∧ SameSubmission row later) ∨
        (label = .purge ∧ after = none)) ∧
      (∀ later, after = some later → (∃ row, before = some row ∧ SameSubmission row later) ∨
        ∃ budget, label = .inserted budget) := by
  cases change with
  | inserted options now uuid submission accepted =>
      exact ⟨(by intro row impossible; cases impossible), fun _ _ => Or.inr ⟨_, rfl⟩⟩
  | deleted options now row holds =>
      exact ⟨fun _ _ => Or.inr ⟨rfl, rfl⟩, (by intro later impossible; cases impossible)⟩
  | unchanged row =>
      exact ⟨fun row present => Or.inl ⟨row, present, .refl row⟩,
        fun row present => Or.inl ⟨row, present, .refl row⟩⟩
  | missed _ _ row =>
      exact ⟨fun row present => Or.inl ⟨row, present, .refl row⟩,
        fun row present => Or.inl ⟨row, present, .refl row⟩⟩
  | retained row =>
      exact ⟨fun row present => Or.inl ⟨row, present, .refl row⟩,
        fun row present => Or.inl ⟨row, present, .refl row⟩⟩
  | dispatched row => exact kept_submission ⟨rfl, rfl, rfl, rfl, rfl, rfl, rfl⟩
  | claimed options now message row holds =>
      exact kept_submission ⟨rfl, rfl, rfl, rfl, rfl, rfl, rfl⟩
  | completed options now message response row holds =>
      exact kept_submission ⟨rfl, rfl, rfl, rfl, rfl, rfl, rfl⟩
  | failed options now message error row holds =>
      exact kept_submission ⟨rfl, rfl, rfl, rfl, rfl, rfl, rfl⟩
  | recovered options now row holds =>
      exact kept_submission ⟨rfl, rfl, rfl, rfl, rfl, rfl, rfl⟩

/-! ### Where rows come from -/

/-- The row was created by this submission, and still holds it. -/
structure SubmittedAs (hashing : Hashing Data Digest) (events : List (StoreEvent Data Result))
    (row : JobRow Data Result Digest) (options : JobStoreOptions)
    (submission : JobSubmission Data) : Prop where
  inserted : ∃ call now uuid, jobId uuid = row.id ∧
    (.insert call options now uuid submission,
      .enqueued (.ok { id := row.id, requestId := submission.requestId })) ∈ events
  queueName : row.queueName = options.name
  ownerId : row.ownerId = submission.ownerId
  idempotencyHash : row.idempotencyHash = hashing.key submission.idempotencyKey
  payloadHash : row.payloadHash = hashing.payload submission.data
  requestId : row.requestId = submission.requestId
  data : row.data = submission.data

theorem SubmittedAs.snoc {hashing : Hashing Data Digest} {events : List (StoreEvent Data Result)}
    {row later : JobRow Data Result Digest} {options : JobStoreOptions}
    {submission : JobSubmission Data}
    (submitted : SubmittedAs hashing events row options submission)
    (same : SameSubmission row later) (event : StoreEvent Data Result) :
    SubmittedAs hashing (events ++ [event]) later options submission := by
  obtain ⟨call, now, uuid, idEq, member⟩ := submitted.inserted
  exact
    { inserted := ⟨call, now, uuid, idEq.trans same.id.symm, by
        rw [same.id]
        exact List.mem_append_left _ member⟩
      queueName := same.queueName.trans submitted.queueName
      ownerId := same.ownerId.trans submitted.ownerId
      idempotencyHash := same.idempotencyHash.trans submitted.idempotencyHash
      payloadHash := same.payloadHash.trans submitted.payloadHash
      requestId := same.requestId.trans submitted.requestId
      data := same.data.trans submitted.data }

def RowsSubmitted (hashing : Hashing Data Digest) (events : List (StoreEvent Data Result))
    (state : StoreState Data Result Digest) : Prop :=
  ∀ id row, state.table.lookup id = some row →
    ∃ options submission, SubmittedAs hashing events row options submission

def PendingSubmitted (events : List (StoreEvent Data Result))
    (state : StoreState Data Result Digest) : Prop :=
  ∀ enqueue ∈ state.pending, ∃ now uuid outcome,
    (.insert enqueue.call enqueue.options now uuid enqueue.submission, outcome) ∈ events

section Runs

variable [DecidableEq Digest] {hashing : Hashing Data Digest} {collation : JobId → JobId → Bool}
  {state next : StoreState Data Result Digest} {event : StoreEvent Data Result}

theorem storeStep_inserted {id : JobId} {budget : ℤ}
    (taken : storeStep hashing collation state event next)
    (announced : rowLabel id event = .inserted budget) :
    ∃ call options now uuid submission, jobId uuid = id ∧
      event = (.insert call options now uuid submission,
        .enqueued (.ok { id := id, requestId := submission.requestId })) ∧
      next.table.lookup id = some (newRow hashing options now uuid submission) := by
  obtain ⟨call, options, now, uuid, submission, outcome, rfl, rfl⟩ :=
    rowLabel_eq_inserted announced
  refine ⟨call, options, now, uuid, submission, rfl, ?_⟩
  have executed : execInsert hashing call options now uuid submission state = (outcome, next) :=
    taken.2
  rcases execInsert_cases hashing call options now uuid submission state with
    ⟨table, _, placed, result⟩ | ⟨_, _, result⟩ | ⟨_, result⟩
  · rw [result] at executed
    cases executed
    refine ⟨rfl, ?_⟩
    change table.lookup (jobId uuid) = _
    rw [KeyedTable.lookup_insert placed, newRow_id, if_pos rfl]
  · rw [result] at executed
    cases executed
    cases announced
  · rw [result] at executed
    cases executed
    cases announced

theorem storeStep_rowsSubmitted {events : List (StoreEvent Data Result)}
    (submitted : RowsSubmitted hashing events state)
    (taken : storeStep hashing collation state event next) :
    RowsSubmitted hashing (events ++ [event]) next := by
  intro id row found
  rcases (storeStep_rowStep hashing collation taken id).submission_cases.2 row found with
    ⟨old, before, same⟩ | ⟨budget, announced⟩
  · obtain ⟨options, submission, origin⟩ := submitted id old before
    exact ⟨options, submission, origin.snoc same event⟩
  · obtain ⟨call, options, now, uuid, submission, idEq, eventEq, stored⟩ :=
      storeStep_inserted taken announced
    rw [stored] at found
    cases found
    refine ⟨options, submission, ?_⟩
    exact
      { inserted := ⟨call, now, uuid, rfl, by simp [eventEq, idEq]⟩
        queueName := rfl
        ownerId := rfl
        idempotencyHash := rfl
        payloadHash := rfl
        requestId := rfl
        data := rfl }

/-- An insert that meets a conflict leaves its call pending; a select takes the
call out again; nothing else touches the pending calls. -/
theorem storeStep_pending (taken : storeStep hashing collation state event next) :
    (∀ enqueue ∈ next.pending, enqueue ∈ state.pending ∨ ∃ now uuid,
        event = (.insert enqueue.call enqueue.options now uuid enqueue.submission, .conflict)) := by
  obtain ⟨op, outcome⟩ := event
  intro enqueue member
  obtain ⟨_, executed⟩ := taken
  cases op with
  | insert call options now uuid submission =>
      change execInsert hashing call options now uuid submission state = (outcome, next) at executed
      rcases execInsert_cases hashing call options now uuid submission state with
        ⟨table, _, _, result⟩ | ⟨_, _, result⟩ | ⟨_, result⟩
      · rw [result] at executed
        cases executed
        exact Or.inl member
      · rw [result] at executed
        cases executed
        rw [List.mem_cons] at member
        rcases member with rfl | old
        · exact Or.inr ⟨now, uuid, rfl⟩
        · exact Or.inl old
      · rw [result] at executed
        cases executed
        exact Or.inl member
  | select call =>
      change execSelect hashing call state = (outcome, next) at executed
      unfold execSelect at executed
      split at executed
      · cases executed
        exact Or.inl member
      · cases executed
        exact Or.inl (List.mem_filter.mp member).1
  | dispatchOne options now locked committed =>
      change execDispatch collation options now locked committed state = (outcome, next) at executed
      unfold execDispatch at executed
      split at executed
      · cases executed
        exact Or.inl member
      · cases executed
        cases committed <;> exact Or.inl member
  | getJob options wanted ownerId => cases executed; exact Or.inl member
  | claim options now message => cases executed; exact Or.inl member
  | complete options now message response => cases executed; exact Or.inl member
  | fail options now message error => cases executed; exact Or.inl member
  | maintainRecover options now => cases executed; exact Or.inl member
  | maintainDelete options now => cases executed; exact Or.inl member

theorem storeStep_pendingSubmitted {events : List (StoreEvent Data Result)}
    (submitted : PendingSubmitted events state)
    (taken : storeStep hashing collation state event next) :
    PendingSubmitted (events ++ [event]) next := by
  intro enqueue member
  rcases storeStep_pending taken enqueue member with old | ⟨now, uuid, eventEq⟩
  · obtain ⟨now, uuid, outcome, listed⟩ := submitted enqueue old
    exact ⟨now, uuid, outcome, List.mem_append_left _ listed⟩
  · exact ⟨now, uuid, .conflict, by simp [eventEq]⟩

theorem run_submitted {events : List (StoreEvent Data Result)}
    (run : Run (storeStep hashing collation) StoreState.initial events state) :
    RowsSubmitted hashing events state ∧ PendingSubmitted events state := by
  apply run.historyInvariant
    (fun events state => RowsSubmitted hashing events state ∧ PendingSubmitted events state)
  · exact ⟨(by intro id row impossible; cases impossible),
      (by intro enqueue impossible; cases impossible)⟩
  · intro events state event next holds taken
    exact ⟨storeStep_rowsSubmitted holds.1 taken, storeStep_pendingSubmitted holds.2 taken⟩

variable (hashing collation) in
/-- Retention deletes the row of this id during the run. -/
def Deleted (id : JobId) (first : StoreState Data Result Digest)
    (events : List (StoreEvent Data Result)) (last : StoreState Data Result Digest) : Prop :=
  ∃ before deletion after here there, events = before ++ deletion :: after ∧
    Run (storeStep hashing collation) first before here ∧
    storeStep hashing collation here deletion there ∧
    Run (storeStep hashing collation) there after last ∧
    (∃ options now, deletion.1 = .maintainDelete options now) ∧
    here.table.lookup id ≠ none ∧ there.table.lookup id = none

theorem run_kept_or_deleted {last : StoreState Data Result Digest}
    {events : List (StoreEvent Data Result)}
    (run : Run (storeStep hashing collation) state events last) {id : JobId}
    {row : JobRow Data Result Digest} (found : state.table.lookup id = some row) :
    (∃ later, last.table.lookup id = some later ∧ SameSubmission row later) ∨
      Deleted hashing collation id state events last := by
  induction run with
  | refl => exact Or.inl ⟨row, found, .refl row⟩
  | @snoc middle last events event before taken ih =>
      rcases ih with ⟨later, present, same⟩ | deleted
      · rcases (storeStep_rowStep hashing collation taken id).submission_cases.1 later present with
          ⟨final, after, again⟩ | ⟨label, gone⟩
        · exact Or.inl ⟨final, after, same.trans again⟩
        · exact Or.inr ⟨events, event, [], middle, last, rfl, before, taken, .refl last,
            rowLabel_eq_purge label, by simp [present], gone⟩
      · obtain ⟨earlier, deletion, rest, here, there, split, start, step, finish, facts⟩ := deleted
        exact Or.inr ⟨earlier, deletion, rest ++ [event], here, there, by simp [split], start, step,
          .snoc finish taken, facts⟩

/-! ### Results of enqueue -/

inductive Returns (state : StoreState Data Result Digest) : StoreEvent Data Result →
    JobStoreOptions → JobSubmission Data → Except EnqueueError JobReceipt → Prop
  | inserted (call : Nat) (options : JobStoreOptions) (now : Timestamp) (uuid : Uuid)
      (submission : JobSubmission Data) (result : Except EnqueueError JobReceipt) :
      Returns state (.insert call options now uuid submission, .enqueued result) options submission
        result
  | selected {call : Nat} {enqueue : PendingEnqueue Data}
      (found : state.pending.find? (fun enqueue => enqueue.call = call) = some enqueue)
      (result : Except EnqueueError JobReceipt) :
      Returns state (.select call, .enqueued result) enqueue.options enqueue.submission result

def submissionKey (hashing : Hashing Data Digest) (options : JobStoreOptions)
    (submission : JobSubmission Data) : JsString × JsString × Digest :=
  (options.name, submission.ownerId, hashing.key submission.idempotencyKey)

omit [DecidableEq Digest] in
theorem SubmittedAs.submissionKey_eq {events : List (StoreEvent Data Result)}
    {row : JobRow Data Result Digest} {options : JobStoreOptions}
    {submission : JobSubmission Data}
    (submitted : SubmittedAs hashing events row options submission) :
    row.submissionKey = submissionKey hashing options submission := by
  simp [JobRow.submissionKey, submissionKey, submitted.queueName, submitted.ownerId,
    submitted.idempotencyHash]

theorem enqueueSelect_mem {options : JobStoreOptions} {submission : JobSubmission Data}
    {table : JobTable Data Result Digest} {row : JobRow Data Result Digest}
    (found : enqueueSelect hashing options submission table = some row) :
    row ∈ table.rows ∧ row.submissionKey = submissionKey hashing options submission := by
  obtain ⟨member, holds⟩ := KeyedTable.select_mem found
  simp only [Bool.and_eq_true, decide_eq_true_eq] at holds
  exact ⟨member, by simp [JobRow.submissionKey, submissionKey, holds.1.1, holds.1.2, holds.2]⟩

theorem returns_cases {options : JobStoreOptions} {submission : JobSubmission Data}
    {result : Except EnqueueError JobReceipt}
    (taken : storeStep hashing collation state event next)
    (returned : Returns state event options submission result) :
    (∃ row, next.table.lookup row.id = some row ∧
        row.submissionKey = submissionKey hashing options submission ∧
        row.payloadHash = hashing.payload submission.data ∧
        result = .ok { id := row.id, requestId := row.requestId } ∧
        ∀ other ∈ state.table.rows, other.submissionKey ≠ row.submissionKey) ∨
      (next.table = state.table ∧ result = enqueueResult (hashing.payload submission.data)
        (enqueueSelect hashing options submission state.table)) := by
  obtain ⟨_, executed⟩ := taken
  cases returned with
  | inserted call _ now uuid _ _ =>
      change execInsert hashing call options now uuid submission state = (.enqueued result, next)
        at executed
      rcases execInsert_cases hashing call options now uuid submission state with
        ⟨table, _, placed, outcome⟩ | ⟨_, _, outcome⟩ | ⟨_, outcome⟩
      · rw [outcome] at executed
        cases executed
        refine Or.inl ⟨newRow hashing options now uuid submission, ?_, rfl, rfl, rfl, ?_⟩
        · change table.lookup _ = _
          rw [KeyedTable.lookup_insert placed, if_pos rfl]
        · intro other member same
          exact (KeyedTable.insert_inserted placed).2.1 (List.mem_map.mpr ⟨other, member, same⟩)
      · rw [outcome] at executed
        cases executed
      · rw [outcome] at executed
        cases executed
  | selected found _ =>
      change execSelect hashing _ state = (.enqueued result, next) at executed
      unfold execSelect at executed
      rw [found] at executed
      cases executed
      exact Or.inr ⟨rfl, rfl⟩

theorem returns_receipt {options : JobStoreOptions} {submission : JobSubmission Data}
    {receipt : JobReceipt} (taken : storeStep hashing collation state event next)
    (returned : Returns state event options submission (.ok receipt)) :
    ∃ row, next.table.lookup receipt.id = some row ∧ row.requestId = receipt.requestId ∧
      row.submissionKey = submissionKey hashing options submission ∧
      row.payloadHash = hashing.payload submission.data ∧
      (state.table.lookup receipt.id = some row ∨
        ∀ other ∈ state.table.rows, other.submissionKey ≠ row.submissionKey) := by
  rcases returns_cases taken returned with
    ⟨row, found, key, payload, result, free⟩ | ⟨sameTable, result⟩
  · cases result
    exact ⟨row, found, rfl, key, payload, Or.inr free⟩
  · cases selected : enqueueSelect hashing options submission state.table with
    | none =>
        rw [selected] at result
        cases result
    | some row =>
        obtain ⟨member, key⟩ := enqueueSelect_mem selected
        rw [selected, enqueueResult] at result
        split at result
        · cases result
        · rename_i same
          cases result
          have found : state.table.lookup row.id = some row := KeyedTable.lookup_of_mem member
          exact ⟨row, by rw [sameTable]; exact found, rfl, key, by simpa using same, Or.inl found⟩

theorem returns_conflict {options : JobStoreOptions} {submission : JobSubmission Data}
    (taken : storeStep hashing collation state event next)
    (returned : Returns state event options submission (.error .idempotencyConflict)) :
    ∃ row, next.table.lookup row.id = some row ∧
      row.submissionKey = submissionKey hashing options submission ∧
      row.payloadHash ≠ hashing.payload submission.data := by
  rcases returns_cases taken returned with ⟨row, _, _, _, result, _⟩ | ⟨sameTable, result⟩
  · cases result
  · cases selected : enqueueSelect hashing options submission state.table with
    | none =>
        rw [selected] at result
        cases result
    | some row =>
        obtain ⟨member, key⟩ := enqueueSelect_mem selected
        rw [selected, enqueueResult] at result
        split at result
        · rename_i different
          exact ⟨row, by rw [sameTable]; exact KeyedTable.lookup_of_mem member, key, different⟩
        · cases result

/-- Two successful calls for one key return one receipt, unless retention has
deleted the row in between. -/
theorem receipts_agree {between last : StoreState Data Result Digest}
    {events : List (StoreEvent Data Result)} {second : StoreEvent Data Result}
    {options options' : JobStoreOptions} {submission submission' : JobSubmission Data}
    {receipt receipt' : JobReceipt} (taken : storeStep hashing collation state event next)
    (returned : Returns state event options submission (.ok receipt))
    (run : Run (storeStep hashing collation) next events between)
    (taken' : storeStep hashing collation between second last)
    (returned' : Returns between second options' submission' (.ok receipt'))
    (sameKey : submissionKey hashing options' submission' = submissionKey hashing options submission) :
    receipt' = receipt ∨ Deleted hashing collation receipt.id next events between := by
  obtain ⟨row, found, requestId, key, _, _⟩ := returns_receipt taken returned
  obtain ⟨row', _, requestId', key', _, origin⟩ := returns_receipt taken' returned'
  rcases run_kept_or_deleted run found with ⟨later, present, same⟩ | deleted
  · refine Or.inl ?_
    have keys : later.submissionKey = row'.submissionKey := by
      rw [same.submissionKey, key, key', sameKey]
    rcases origin with stored | free
    · have sameRow : later = row' :=
        KeyedTable.eq_of_unique (KeyedTable.lookup_mem present) (KeyedTable.lookup_mem stored) keys
      have ids : receipt'.id = receipt.id := by
        rw [← KeyedTable.lookup_key stored, ← sameRow, KeyedTable.lookup_key present]
      have requests : receipt'.requestId = receipt.requestId := by
        rw [← requestId', ← sameRow, same.requestId, requestId]
      cases receipt
      cases receipt'
      simp_all
    · exact absurd keys (free later (KeyedTable.lookup_mem present))
  · exact Or.inr deleted

end Runs

/-! ### Keys and payloads behind the hashes -/

section Documents

variable [DecidableEq Digest] {digest : JsString → Digest} {collation : JobId → JobId → Bool}
  {state next : StoreState Document Result Digest} {event : StoreEvent Document Result}
  {events : List (StoreEvent Document Result)}

omit [DecidableEq Digest] in
theorem mem_hashedTexts {call : Nat} {options : JobStoreOptions} {now : Timestamp} {uuid : Uuid}
    {submission : JobSubmission Document} {outcome : StoreOutcome Document Result}
    (member : (.insert call options now uuid submission, outcome) ∈ events) {text : JsString}
    (hashed : text ∈ submissionTexts submission) : text ∈ hashedTexts events :=
  List.mem_flatMap.mpr ⟨_, member, hashed⟩

omit [DecidableEq Digest] in
theorem Returns.submitted {options : JobStoreOptions} {submission : JobSubmission Document}
    {result : Except EnqueueError JobReceipt}
    (returned : Returns state event options submission result)
    (pending : PendingSubmitted events state) :
    ∀ text ∈ submissionTexts submission, text ∈ hashedTexts (events ++ [event]) := by
  intro text hashed
  cases returned with
  | inserted call _ now uuid _ _ =>
      exact mem_hashedTexts (List.mem_append_right _ (List.mem_singleton_self _)) hashed
  | selected found _ =>
      obtain ⟨now, uuid, outcome, listed⟩ := pending _ (List.mem_of_find?_eq_some found)
      exact mem_hashedTexts (List.mem_append_left _ listed) hashed

omit [DecidableEq Digest] in
theorem SubmittedAs.hashed {row : JobRow Document Result Digest} {options : JobStoreOptions}
    {submission : JobSubmission Document}
    (submitted : SubmittedAs (documentHashing digest) events row options submission) :
    ∀ text ∈ submissionTexts submission, text ∈ hashedTexts events := by
  intro text hashed
  obtain ⟨call, now, uuid, _, listed⟩ := submitted.inserted
  exact mem_hashedTexts listed hashed

omit [DecidableEq Digest] in
/-- A stored row found by the key columns of a submission has that owner and
key, and its payload hash decides whether the data are the same. -/
theorem row_of_submissionKey {options : JobStoreOptions} {submission : JobSubmission Document}
    {row : JobRow Document Result Digest} {id : JobId}
    (submitted : RowsSubmitted (documentHashing digest) events next)
    (collisionFree : CollisionFree digest (hashedTexts events))
    (texts : ∀ text ∈ submissionTexts submission, text ∈ hashedTexts events)
    (found : next.table.lookup id = some row)
    (key : row.submissionKey = submissionKey (documentHashing digest) options submission) :
    row.queueName = options.name ∧ row.ownerId = submission.ownerId ∧
      (∃ options' submission',
        SubmittedAs (documentHashing digest) events row options' submission' ∧
        submission'.idempotencyKey = submission.idempotencyKey) ∧
      (row.payloadHash = (documentHashing digest).payload submission.data ↔
        Json.Reordered row.data.value submission.data.value) := by
  obtain ⟨options', submission', origin⟩ := submitted id row found
  simp only [JobRow.submissionKey, submissionKey, Prod.mk.injEq] at key
  obtain ⟨name, owner, keyHash⟩ := key
  have originTexts := origin.hashed
  refine ⟨name, owner, ⟨options', submission', origin, ?_⟩, ?_⟩
  · rw [origin.idempotencyHash] at keyHash
    exact canonicalText_string_injective (collisionFree _ (originTexts _ (by simp [submissionTexts]))
      _ (texts _ (by simp [submissionTexts])) keyHash)
  · have canonical := Json.canonicalText_eq_iff row.data.distinctKeys submission.data.distinctKeys
    rw [← canonical, origin.payloadHash, origin.data]
    constructor
    · intro sameHash
      exact collisionFree _ (originTexts _ (by simp [submissionTexts])) _
        (texts _ (by simp [submissionTexts])) sameHash
    · intro sameText
      exact congrArg digest sameText

end Documents

end ModelMux.Queue
