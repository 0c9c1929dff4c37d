/-
Attempts are fenced.

Every outcome statement names the attempt it belongs to, and a row accepts it
only while it is active at that attempt.  Since the claims of a job carry
different numbers, the attempt identifies the worker: duplicates, forged
envelopes, expired leases and late workers cannot run an attempt twice, change
a terminal row, or store the answer of another attempt.
-/

import ModelMux.Queue.WorkerHistory

namespace ModelMux.Queue

variable {Data Result Digest : Type}

/-! ### Claims in a worker's history -/

/-- `execute` calls the processor as soon as its claim has returned a job. -/
def processorCall? (id : JobId) : WorkerEvent Data Result → Option ℤ
  | .claim _ _ (_, .claimed (some job)) true => if job.id = id then some job.attempt else none
  | _ => none

def processorCalls (id : JobId) (events : List (WorkerEvent Data Result)) : List ℤ :=
  events.filterMap (processorCall? id)

/-- The delivery whose claim of a message succeeded. -/
def claimant? (message : JobEnvelope) : WorkerEvent Data Result → Option Nat
  | .claim tag other (_, .claimed (some _)) _ => if other = message then some tag else none
  | _ => none

def claimants (message : JobEnvelope) (events : List (WorkerEvent Data Result)) : List Nat :=
  events.filterMap (claimant? message)

def ClaimRecorded (message : JobEnvelope) (event : WorkerEvent Data Result) : Prop :=
  ∃ storeEvent, event.storeEvents = [storeEvent] ∧
    rowLabel message.id storeEvent = .claimed message.attempt

section Claims

variable [DecidableEq Digest] {hashing : Hashing Data Digest} {collation : JobId → JobId → Bool}
  {queue : JsString} {state next : SystemState Data Result Digest}

theorem workerStep_claim {tag : Nat} {message : JobEnvelope} {op : StoreOp Data Result}
    {job : ProcessingJob Data} {reported : Bool}
    (taken : WorkerStep hashing collation queue state
      (.claim tag message (op, .claimed (some job)) reported) next) :
    job.id = message.id ∧ job.attempt = message.attempt ∧
      rowLabel message.id (op, .claimed (some job)) = RowLabel.claimed message.attempt := by
  cases taken with
  | claim delivery before after now _ _ running phase received started unlocked taken =>
      have executed := congrArg Prod.fst taken.2
      simp only [exec, StoreOutcome.claimed.injEq] at executed
      rcases claim_cases delivery.options now delivery.message state.store.table with
        ⟨missing, _⟩ | ⟨row, found, _, returned, _, _⟩
      · rw [missing] at executed
        cases executed
      · rw [returned] at executed
        cases executed
        have key : row.id = delivery.message.id := KeyedTable.lookup_key found
        exact ⟨key, rfl, by simp [rowLabel]⟩

theorem processorCall_recorded {event : WorkerEvent Data Result} {id : JobId} {attempt : ℤ}
    (taken : WorkerStep hashing collation queue state event next)
    (called : processorCall? id event = some attempt) : ClaimRecorded ⟨id, attempt⟩ event := by
  unfold processorCall? at called
  split at called
  · rename_i tag message op job
    obtain ⟨sameId, sameAttempt, label⟩ := workerStep_claim taken
    split at called
    · rename_i wanted
      cases called
      obtain ⟨messageId, messageAttempt⟩ := message
      simp only at sameId sameAttempt label
      subst wanted
      rw [sameId, sameAttempt]
      exact ⟨_, rfl, label⟩
    · cases called
  · cases called

theorem claimant_recorded {event : WorkerEvent Data Result} {message : JobEnvelope} {tag : Nat}
    (taken : WorkerStep hashing collation queue state event next)
    (claimed : claimant? message event = some tag) : ClaimRecorded message event := by
  unfold claimant? at claimed
  split at claimed
  · rename_i other op job reported
    obtain ⟨_, _, label⟩ := workerStep_claim taken
    split at claimed
    · rename_i same
      subst same
      exact ⟨_, rfl, label⟩
    · cases claimed
  · cases claimed

omit [DecidableEq Digest] in
theorem storeHistory_snoc (events : List (WorkerEvent Data Result))
    (event : WorkerEvent Data Result) :
    storeHistory (events ++ [event]) = storeHistory events ++ event.storeEvents := by
  simp [storeHistory]

omit [DecidableEq Digest] in
theorem claimedAttempts_storeHistory_snoc (id : JobId) (events : List (WorkerEvent Data Result))
    (event : WorkerEvent Data Result) :
    claimedAttempts id (storeHistory (events ++ [event])) =
      claimedAttempts id (storeHistory events) ++ claimedAttempts id event.storeEvents := by
  rw [storeHistory_snoc]
  exact List.filterMap_append

omit [DecidableEq Digest] in
theorem ClaimRecorded.attempts {message : JobEnvelope} {event : WorkerEvent Data Result}
    (recorded : ClaimRecorded message event) :
    claimedAttempts message.id event.storeEvents = [message.attempt] := by
  obtain ⟨storeEvent, announced, label⟩ := recorded
  rw [announced]
  simp [claimedAttempts, label, RowLabel.attempt?]

/-- Every call of the processor belongs to a claim of its own. -/
theorem run_processorCalls {clock : Timestamp} {events : List (WorkerEvent Data Result)}
    (run : Run (WorkerStep hashing collation queue) (SystemState.initial clock) events state)
    (id : JobId) :
    (processorCalls id events).Sublist (claimedAttempts id (storeHistory events)) := by
  apply run.historyInvariant
    (fun events _ => (processorCalls id events).Sublist (claimedAttempts id (storeHistory events)))
    (List.Sublist.refl [])
  intro events state event next holds taken
  rw [claimedAttempts_storeHistory_snoc, processorCalls, List.filterMap_append]
  refine holds.append ?_
  cases called : processorCall? id event with
  | none => simp [called]
  | some attempt =>
      have recorded := (processorCall_recorded taken called).attempts
      rw [recorded]
      simp [called]

/-- A message is claimed by no more deliveries than the store has claims for it. -/
theorem run_claimants {clock : Timestamp} {events : List (WorkerEvent Data Result)}
    (run : Run (WorkerStep hashing collation queue) (SystemState.initial clock) events state)
    (message : JobEnvelope) :
    (claimants message events).length ≤
      (claimedAttempts message.id (storeHistory events)).count message.attempt := by
  apply run.historyInvariant (fun events _ => (claimants message events).length ≤
    (claimedAttempts message.id (storeHistory events)).count message.attempt) (Nat.zero_le _)
  intro events state event next holds taken
  rw [claimedAttempts_storeHistory_snoc, List.count_append, claimants, List.filterMap_append,
    List.length_append]
  refine Nat.add_le_add holds ?_
  cases claimed : claimant? message event with
  | none => simp [claimed]
  | some tag =>
      rw [(claimant_recorded taken claimed).attempts]
      simp [claimed]

/-- Whatever envelopes are presented, the successful claims of a job carry the
numbers 1, 2, 3, ... up to at most its budget, each once; so workers call the
processor for it at most that often. -/
theorem claims_numbered_once :
    (∀ (state : StoreState Data Result Digest) events,
        Run (storeStep hashing collation) StoreState.initial events state → ∀ id,
          (∃ count : ℕ, claimedAttempts id events = attemptsUpTo count ∧
            (count : ℤ) ≤ (attemptBudget id events).getD 0) ∧
          (∀ attempt, (claimedAttempts id events).count attempt ≤ 1) ∧
          ∀ row, state.table.lookup id = some row →
            attemptBudget id events = some row.maxAttempts) ∧
      (∀ clock (state : SystemState Data Result Digest) events,
        Run (WorkerStep hashing collation queue) (SystemState.initial clock) events state → ∀ id,
          (processorCalls id events).Nodup ∧
            ((processorCalls id events).length : ℤ) ≤
              (attemptBudget id (storeHistory events)).getD 0) := by
  refine ⟨?_, ?_⟩
  · intro state events run id
    have history := run_claimHistory run id
    refine ⟨history.bounded, ?_, fun row found => (history.present row found).2⟩
    intro attempt
    obtain ⟨count, claims, _⟩ := history.bounded
    rw [claims]
    exact List.nodup_iff_count_le_one.mp (attemptsUpTo_nodup count) attempt
  · intro clock state events run id
    obtain ⟨count, claims, bounded⟩ := (run_claimHistory (run_storeHistory run) id).bounded
    have calls := run_processorCalls run id
    rw [claims] at calls
    refine ⟨(attemptsUpTo_nodup count).sublist calls, ?_⟩
    have shorter := calls.length_le
    rw [length_attemptsUpTo] at shorter
    omega

end Claims

theorem claims_numbered_once_sample :
    claimedAttempts (jobId sampleUuid)
        (execAll sampleHashing JsString.le StoreState.initial sampleOps).1 = [1, 2] ∧
      attemptBudget (jobId sampleUuid)
        (execAll sampleHashing JsString.le StoreState.initial sampleOps).1 = some 2 ∧
      ∀ attempt, (claimedAttempts (jobId sampleUuid)
        (execAll sampleHashing JsString.le StoreState.initial sampleOps).1).count attempt ≤ 1 :=
  ⟨by decide +kernel, by decide +kernel,
    ((@claims_numbered_once JsString JsString JsString _ sampleHashing JsString.le
        sampleOptions.name).1 _ _
      (run_execAll sampleHashing JsString.le StoreState.initial sampleOps (by decide +kernel))
      (jobId sampleUuid)).2.1⟩

/-! ### Terminal rows -/

structure SameOutcome (row later : JobRow Data Result Digest) : Prop where
  status : later.status = row.status
  response : later.response = row.response
  errorCode : later.errorCode = row.errorCode
  attemptsMade : later.attemptsMade = row.attemptsMade

theorem SameOutcome.refl (row : JobRow Data Result Digest) : SameOutcome row row :=
  ⟨rfl, rfl, rfl, rfl⟩

theorem SameOutcome.trans {row middle last : JobRow Data Result Digest}
    (first : SameOutcome row middle) (second : SameOutcome middle last) : SameOutcome row last :=
  { status := second.status.trans first.status
    response := second.response.trans first.response
    errorCode := second.errorCode.trans first.errorCode
    attemptsMade := second.attemptsMade.trans first.attemptsMade }

theorem RowStep.terminal {hashing : Hashing Data Digest} {label : RowLabel Result}
    {row : JobRow Data Result Digest} {after : Option (JobRow Data Result Digest)}
    (change : RowStep hashing label (some row) after) (terminal : row.status.terminal = true) :
    (∃ later, after = some later ∧ SameOutcome row later) ∨ (label = .purge ∧ after = none) := by
  have notActive : row.status ≠ .active := by
    intro active
    rw [active] at terminal
    cases terminal
  cases change with
  | unchanged => exact Or.inl ⟨row, rfl, .refl row⟩
  | missed => exact Or.inl ⟨row, rfl, .refl row⟩
  | retained => exact Or.inl ⟨row, rfl, .refl row⟩
  | dispatched => exact Or.inl ⟨dispatchSet row, rfl, ⟨rfl, rfl, rfl, rfl⟩⟩
  | claimed options now message _ holds =>
      simp only [claimWhere, Bool.and_eq_true] at holds
      have waiting := holds.1.1.1.2
      cases status : row.status <;> simp [status, JobState.waiting, JobState.terminal] at *
  | completed options now message response _ holds =>
      exact absurd (outcomeWhere_active holds) notActive
  | failed options now message error _ holds =>
      exact absurd (outcomeWhere_active holds) notActive
  | recovered options now _ holds => exact absurd (recoverWhere_active holds) notActive
  | deleted => exact Or.inr ⟨rfl, rfl⟩

/-- A terminal row stays as it was until retention has deleted it for good. -/
def Final (id : JobId) (row : JobRow Data Result Digest) (events : List (StoreEvent Data Result))
    (state : StoreState Data Result Digest) : Prop :=
  (∃ later, state.table.lookup id = some later ∧ SameOutcome row later) ∨
    (state.table.lookup id = none ∧ id ∈ state.issued ∧
      ∃ event ∈ events, ∃ options now, event.1 = .maintainDelete options now)

section Runs

variable [DecidableEq Digest] {hashing : Hashing Data Digest} {collation : JobId → JobId → Bool}

theorem Final.step {id : JobId} {row : JobRow Data Result Digest}
    {events : List (StoreEvent Data Result)} {event : StoreEvent Data Result}
    {state next : StoreState Data Result Digest} (final : Final id row events state)
    (terminal : row.status.terminal = true)
    (issued : state.table.lookup id ≠ none → id ∈ state.issued)
    (taken : storeStep hashing collation state event next) :
    Final id row (events ++ [event]) next := by
  have change := storeStep_rowStep hashing collation taken id
  have kept := storeStep_issued hashing collation taken id
  rcases final with ⟨later, found, same⟩ | ⟨absent, wasIssued, purge, member, deletes⟩
  · rw [found] at change
    rcases change.terminal (same.status ▸ terminal) with ⟨last, after, again⟩ | ⟨label, after⟩
    · exact Or.inl ⟨last, after, same.trans again⟩
    · refine Or.inr ⟨after, kept (issued (by simp [found])), event, by simp, ?_⟩
      exact rowLabel_eq_purge label
  · refine Or.inr ⟨?_, kept wasIssued, purge, List.mem_append_left _ member, deletes⟩
    rw [absent] at change
    generalize label : rowLabel id event = announced at change
    generalize after : next.table.lookup id = result at change
    cases change with
    | unchanged => rfl
    | missed => rfl
    | retained => rfl
    | inserted options now uuid submission accepted =>
        exact absurd wasIssued (rowLabel_inserted taken label).1

variable {queue : JsString}

theorem Final.workerStep {id : JobId} {row : JobRow Data Result Digest}
    {events : List (WorkerEvent Data Result)} {event : WorkerEvent Data Result}
    {state next : SystemState Data Result Digest}
    (final : Final id row (storeHistory events) state.store)
    (terminal : row.status.terminal = true) (holds : SystemInvariant queue state)
    (issued : RowsIssued state.store)
    (taken : WorkerStep hashing collation queue state event next) :
    Final id row (storeHistory (events ++ [event])) next.store := by
  rw [storeHistory_snoc]
  rcases workerStep_store holds taken with ⟨silent, same⟩ | ⟨storeEvent, announced, stepped⟩
  · rw [silent, same, List.append_nil]
    exact final
  · rw [announced]
    exact final.step terminal (issued id) stepped

theorem workerStep_rowsIssued {state next : SystemState Data Result Digest}
    {event : WorkerEvent Data Result} (holds : SystemInvariant queue state)
    (issued : RowsIssued state.store)
    (taken : WorkerStep hashing collation queue state event next) : RowsIssued next.store := by
  rcases workerStep_store holds taken with ⟨_, same⟩ | ⟨_, _, stepped⟩
  · rw [same]
    exact issued
  · exact storeStep_rowsIssued issued stepped

theorem run_rowsIssued {clock : Timestamp} {state : SystemState Data Result Digest}
    {events : List (WorkerEvent Data Result)}
    (run : Run (WorkerStep hashing collation queue) (SystemState.initial clock) events state) :
    RowsIssued state.store := by
  have both := run.invariant (fun state => SystemInvariant queue state ∧ RowsIssued state.store)
    ⟨SystemInvariant.initial queue clock, fun id present => absurd rfl present⟩
    (fun _ _ _ holds taken =>
      ⟨workerStep_invariant holds.1 taken, workerStep_rowsIssued holds.1 holds.2 taken⟩)
  exact both.2

theorem run_final {clock : Timestamp} {state last : SystemState Data Result Digest}
    {events later : List (WorkerEvent Data Result)}
    (run : Run (WorkerStep hashing collation queue) (SystemState.initial clock) events state)
    (continued : Run (WorkerStep hashing collation queue) state later last)
    {id : JobId} {row : JobRow Data Result Digest}
    (found : state.store.table.lookup id = some row) (terminal : row.status.terminal = true) :
    Final id row (storeHistory later) last.store := by
  have all := continued.historyInvariant
    (fun events state => SystemInvariant queue state ∧ RowsIssued state.store ∧
      Final id row (storeHistory events) state.store)
    ⟨run_invariant run, run_rowsIssued run, Or.inl ⟨row, found, .refl row⟩⟩
    (fun _ _ _ _ holds taken =>
      ⟨workerStep_invariant holds.1 taken, workerStep_rowsIssued holds.1 holds.2.1 taken,
        holds.2.2.workerStep terminal holds.1 holds.2.1 taken⟩)
  exact all.2.2

/-! ### Dead letters -/

theorem workerStep_failed {state next : SystemState Data Result Digest} {tag : Nat}
    {message : JobEnvelope} {op : StoreOp Data Result} {reported : Bool}
    (taken : WorkerStep hashing collation queue state
      (.fail tag message (op, .failed (some .failed)) reported) next) :
    ∃ row, next.store.table.lookup message.id = some row ∧ row.status = .failed ∧
      row.attemptsMade = message.attempt := by
  cases taken with
  | fail delivery before after now job failure _ _ running phase taken =>
      have executed := taken.2
      simp only [exec, Prod.mk.injEq, StoreOutcome.failed.injEq] at executed
      obtain ⟨answered, nextStore⟩ := executed
      rcases fail_cases delivery.options now delivery.message failure state.store.table with
        ⟨missing, _⟩ | ⟨row, _, holds, returned, updated, _⟩
      · rw [missing] at answered
        cases answered
      · rw [returned] at answered
        have notAgain : retries failure row = false := by
          cases again : retries failure row with
          | false => rfl
          | true => simp [again] at answered
        simp only [outcomeWhere, Bool.and_eq_true, decide_eq_true_eq] at holds
        rw [← nextStore]
        exact ⟨_, updated, by simp [failSet, notAgain], holds.1.1.2⟩

omit [DecidableEq Digest] in
theorem PhaseStep.deadLetter {tag : Nat} {message : JobEnvelope}
    {event : WorkerEvent Data Result} {phase : ExecutePhase Data Result}
    (step : PhaseStep tag message event phase (.returned .deadLetter)) :
    phase = .returned .deadLetter ∨
      ∃ op, event = .fail tag message (op, .failed (some .failed)) true := by
  generalize after : ExecutePhase.returned Action.deadLetter = later at step
  cases step with
  | claimed op job => cases job <;> cases after
  | processed job outcome => cases outcome <;> cases after
  | failed job failure op status =>
      refine Or.inr ⟨op, ?_⟩
      have answered : status = some .failed := by
        by_contra different
        simp [afterFail, different] at after
      rw [answered]
  | detached phase => exact Or.inl rfl
  | claimLost | completed | completeLost | failLost | errored => cases after

theorem workerStep_deadLetter {state next : SystemState Data Result Digest}
    {event : WorkerEvent Data Result}
    (taken : WorkerStep hashing collation queue state event next)
    {delivery : Delivery Data Result} (member : delivery ∈ next.deliveries)
    (phase : delivery.phase = .returned .deadLetter) :
    (∃ old ∈ state.deliveries, old.tag = delivery.tag ∧ old.phase = .returned .deadLetter) ∨
      ∃ row, next.store.table.lookup delivery.message.id = some row ∧ row.status = .failed ∧
        row.attemptsMade = delivery.message.attempt := by
  have kept : delivery ∈ state.deliveries → ∃ old ∈ state.deliveries, old.tag = delivery.tag ∧
      old.phase = .returned .deadLetter := fun present => ⟨delivery, present, rfl, phase⟩
  cases workerStep_deliveries taken with
  | same silent deliveries nextTag => exact Or.inl (kept (deliveries ▸ member))
  | received new tag newPhase deliveries nextTag =>
      rw [deliveries, List.mem_cons] at member
      rcases member with rfl | old
      · cases newPhase.symm.trans phase
      · exact Or.inl (kept old)
  | moved before after old later running deliveries nextTag tag message step =>
      rw [deliveries, List.mem_append, List.mem_cons] at member
      rcases member with inBefore | rfl | inAfter
      · exact Or.inl (kept (by simp [running, inBefore]))
      · rw [phase] at step
        rcases step.deadLetter with already | ⟨op, answered⟩
        · exact Or.inl ⟨old, by simp [running], tag.symm, already⟩
        · subst answered
          rw [message]
          exact Or.inr (workerStep_failed taken)
      · exact Or.inl (kept (by simp [running, inAfter]))
  | settled before after old action running deliveries nextTag oldPhase =>
      rw [deliveries] at member
      refine Or.inl (kept ?_)
      rw [running]
      exact (List.Sublist.append_left (List.sublist_cons_self old after) before).subset member
  | crashed before after old running deliveries nextTag =>
      rw [deliveries] at member
      refine Or.inl (kept ?_)
      rw [running]
      exact (List.Sublist.append_left (List.sublist_cons_self old after) before).subset member

/-- When `complete` errors, the delivery is kept and `execute` has thrown. -/
theorem workerStep_completionErrors {state next : SystemState Data Result Digest}
    {event : WorkerEvent Data Result}
    (taken : WorkerStep hashing collation queue state event next) {tag : Nat}
    (errors : CompletionErrors tag event) :
    ∃ before delivery after, state.deliveries = before ++ delivery :: after ∧
      delivery.tag = tag ∧
      next.deliveries = before ++ { delivery with phase := .thrown } :: after := by
  cases taken with
  | complete delivery before after now job response reported running phase taken =>
      obtain ⟨sameTag, lost⟩ := errors
      subst lost
      exact ⟨before, delivery, after, running, sameTag, rfl⟩
  | statementError delivery before after running awaiting =>
      exact ⟨before, delivery, after, running, Option.some.inj errors.tag_eq, rfl⟩
  | tick | gateway | maintain | begin | publish | mark | rollback | commit | inject | deliver
  | rejectMalformed | claim | process | fail | settle | detach | crash => exact errors.elim

/-! ### Completed rows -/

omit [DecidableEq Digest] in
theorem RowStep.completed_cases {label : RowLabel Result}
    {before after : Option (JobRow Data Result Digest)} {row : JobRow Data Result Digest}
    (change : RowStep hashing label before after) (present : after = some row)
    (completed : row.status = .completed) :
    (∃ old, before = some old ∧ old.status = .completed ∧ SameOutcome old row) ∨
      ∃ response, label = .completed row.attemptsMade response ∧ row.response = some response := by
  cases change with
  | unchanged => exact Or.inl ⟨row, present, completed, .refl row⟩
  | missed => exact Or.inl ⟨row, present, completed, .refl row⟩
  | retained => exact Or.inl ⟨row, present, completed, .refl row⟩
  | inserted => cases present; cases completed
  | dispatched old =>
      cases present
      exact Or.inl ⟨old, rfl, completed, ⟨rfl, rfl, rfl, rfl⟩⟩
  | claimed => cases present; cases completed
  | completed options now message response old holds =>
      cases present
      simp only [outcomeWhere, Bool.and_eq_true, decide_eq_true_eq] at holds
      refine Or.inr ⟨response, ?_, rfl⟩
      change _ = RowLabel.completed old.attemptsMade response
      rw [holds.1.1.2]
  | failed options now message error old holds =>
      cases present
      cases again : retries error old <;> simp [failSet, again] at completed
  | recovered options now old holds =>
      cases present
      simp only [recoverSet] at completed
      split at completed <;> cases completed
  | deleted => cases present

/-- Only a delivery that holds a claim completes anything, and it completes the
message it has claimed. -/
theorem workerStep_completed {state next : SystemState Data Result Digest}
    {event : WorkerEvent Data Result} {storeEvent : StoreEvent Data Result}
    {options : JobStoreOptions} {now : Timestamp} {message : JobEnvelope} {response : Result}
    (taken : WorkerStep hashing collation queue state event next)
    (announced : event.storeEvents = [storeEvent])
    (completes : storeEvent.1 = .complete options now message response) :
    ∃ delivery ∈ state.deliveries, delivery.message = message ∧ delivery.phase.working = true ∧
      ∃ reported, event = .complete delivery.tag message response storeEvent reported := by
  cases taken with
  | gateway submits taken =>
      cases announced
      rw [completes] at submits
      exact submits.elim
  | maintain maintains taken =>
      cases announced
      rw [completes] at maintains
      exact maintains.elim
  | complete delivery before after now' job given reported running phase taken =>
      cases announced
      cases completes
      exact ⟨delivery, by simp [running], rfl, by rw [phase]; rfl, reported, rfl⟩
  | commit => cases announced; cases completes
  | claim => cases announced; cases completes
  | fail => cases announced; cases completes
  | tick | begin | publish | mark | rollback | inject | deliver | rejectMalformed | process
  | statementError | settle | detach | crash => cases announced

/-- The response of a completed row was passed to `complete` by the delivery
whose claim of the row's attempt had succeeded. -/
def CompletedByClaimant (events : List (WorkerEvent Data Result)) (id : JobId)
    (row : JobRow Data Result Digest) : Prop :=
  ∃ earlier later tag response event reported,
    events = earlier ++
      .complete tag ⟨id, row.attemptsMade⟩ response event reported :: later ∧
    row.response = some response ∧ tag ∈ claimants ⟨id, row.attemptsMade⟩ earlier

omit [DecidableEq Digest] in
theorem CompletedByClaimant.snoc {events : List (WorkerEvent Data Result)} {id : JobId}
    {old row : JobRow Data Result Digest} (completed : CompletedByClaimant events id old)
    (same : SameOutcome old row) (event : WorkerEvent Data Result) :
    CompletedByClaimant (events ++ [event]) id row := by
  obtain ⟨earlier, later, tag, response, stored, reported, split, responseEq, claimed⟩ := completed
  rw [CompletedByClaimant, same.attemptsMade, same.response]
  exact ⟨earlier, later ++ [event], tag, response, stored, reported, by simp [split], responseEq,
    claimed⟩

theorem run_completedByClaimant {clock : Timestamp} {state : SystemState Data Result Digest}
    {events : List (WorkerEvent Data Result)}
    (run : Run (WorkerStep hashing collation queue) (SystemState.initial clock) events state) :
    ∀ id row, state.store.table.lookup id = some row → row.status = .completed →
      CompletedByClaimant events id row := by
  have all := run.historyInvariant
    (fun events state => SystemInvariant queue state ∧ DeliveriesHistory events state ∧
      ∀ id row, state.store.table.lookup id = some row → row.status = .completed →
        CompletedByClaimant events id row)
    ⟨SystemInvariant.initial queue clock, DeliveriesHistory.initial clock,
      by intro id row impossible; cases impossible⟩
    (by
      intro events state event next holds taken
      obtain ⟨system, deliveries, completed⟩ := holds
      refine ⟨workerStep_invariant system taken,
        deliveries.step (workerStep_deliveries taken), ?_⟩
      intro id row found status
      rcases workerStep_store system taken with ⟨_, same⟩ | ⟨storeEvent, announced, stepped⟩
      · rw [same] at found
        exact (completed id row found status).snoc (.refl row) event
      · rcases (storeStep_rowStep hashing collation stepped id).completed_cases found status with
          ⟨old, before, oldStatus, outcome⟩ | ⟨response, label, responseEq⟩
        · exact (completed id old before oldStatus).snoc outcome event
        · obtain ⟨options, now, completes⟩ := rowLabel_eq_completed label
          obtain ⟨delivery, member, message, working, reported, eventEq⟩ :=
            workerStep_completed taken announced completes
          obtain ⟨op, job, claimed⟩ := (deliveries.each delivery member).claimHeld working
          rw [message] at claimed
          refine ⟨events, [], delivery.tag, response, storeEvent, reported, by rw [eventEq],
            responseEq, List.mem_filterMap.mpr ⟨_, claimed, ?_⟩⟩
          simp [claimant?])
  exact all.2.2

theorem run_claimants_eq {clock : Timestamp} {state : SystemState Data Result Digest}
    {events : List (WorkerEvent Data Result)}
    (run : Run (WorkerStep hashing collation queue) (SystemState.initial clock) events state)
    {message : JobEnvelope} {tag : Nat} (claimed : tag ∈ claimants message events) :
    claimants message events = [tag] := by
  have bounded := run_claimants run message
  obtain ⟨count, claims, _⟩ := (run_claimHistory (run_storeHistory run) message.id).bounded
  have once := List.nodup_iff_count_le_one.mp (attemptsUpTo_nodup count) message.attempt
  rw [← claims] at once
  match listed : claimants message events with
  | [] => rw [listed] at claimed; cases claimed
  | [only] =>
      rw [listed, List.mem_singleton] at claimed
      rw [claimed]
  | first :: second :: rest =>
      rw [listed] at bounded
      simp only [List.length_cons] at bounded
      omega

/-! ### Stale outcomes -/

omit [DecidableEq Digest] in
theorem outcomeWhere_stale {options : JobStoreOptions} {message : JobEnvelope}
    {table : JobTable Data Result Digest}
    (stale : ∀ row, table.lookup message.id = some row → row.status = .active →
      row.attemptsMade ≠ message.attempt) :
    ∀ row ∈ table.rows, outcomeWhere options message row = false := by
  intro row member
  by_contra matched
  have holds : outcomeWhere options message row = true := by simpa using matched
  have found := KeyedTable.lookup_of_mem member
  rw [outcomeWhere_id holds] at found
  have active := outcomeWhere_active holds
  simp only [outcomeWhere, Bool.and_eq_true, decide_eq_true_eq] at holds
  exact stale row found active holds.1.1.2

omit [DecidableEq Digest] in
theorem fail_stale {options : JobStoreOptions} {now : Timestamp} {message : JobEnvelope}
    {error : JobProcessingError} {table : JobTable Data Result Digest}
    (unmatched : ∀ row ∈ table.rows, outcomeWhere options message row = false) :
    fail options now message error table = (none, table) := by
  have missing : table.select (outcomeWhere options message) = none := by
    apply List.find?_eq_none.mpr
    intro row member
    simp [unmatched row member]
  exact Prod.ext (by simp [fail, missing])
    (KeyedTable.update_eq_self (failSet now error) (fun _ => rfl) (fun _ => rfl) unmatched)

/-- Terminal rows are final until retention deletes them; a completed row holds
the response of the one delivery that claimed its attempt; an outcome for any
other attempt changes nothing; `execute` answers dead-letter only for a row it
has just failed at this attempt, and after an error of `complete` it keeps the
delivery and neither fails the job nor answers. -/
theorem outcomes_fenced {clock : Timestamp} {state : SystemState Data Result Digest}
    {events : List (WorkerEvent Data Result)}
    (run : Run (WorkerStep hashing collation queue) (SystemState.initial clock) events state) :
    (∀ later last, Run (WorkerStep hashing collation queue) state later last →
        ∀ id row, state.store.table.lookup id = some row → row.status.terminal = true →
          Final id row (storeHistory later) last.store) ∧
      (∀ id row, state.store.table.lookup id = some row → row.status = .completed →
        ∃ earlier later tag response event reported,
          events = earlier ++
            .complete tag ⟨id, row.attemptsMade⟩ response event reported :: later ∧
          row.response = some response ∧ tag ∈ claimants ⟨id, row.attemptsMade⟩ earlier ∧
          claimants ⟨id, row.attemptsMade⟩ events = [tag]) ∧
      (∀ options now message response error,
        (∀ row, state.store.table.lookup message.id = some row → row.status = .active →
          row.attemptsMade ≠ message.attempt) →
        complete options now message response state.store.table = state.store.table ∧
          fail options now message error state.store.table = (none, state.store.table)) ∧
      (∀ event next, WorkerStep hashing collation queue state event next →
        (∀ delivery ∈ next.deliveries, delivery.phase = .returned .deadLetter →
          (∃ old ∈ state.deliveries,
            old.tag = delivery.tag ∧ old.phase = .returned .deadLetter) ∨
          ∃ row, next.store.table.lookup delivery.message.id = some row ∧
            row.status = .failed ∧ row.attemptsMade = delivery.message.attempt) ∧
        ∀ tag, CompletionErrors tag event →
          ∃ before delivery after, state.deliveries = before ++ delivery :: after ∧
            delivery.tag = tag ∧
            next.deliveries = before ++ { delivery with phase := .thrown } :: after) ∧
      (∀ tag, ∀ error ∈ events, CompletionErrors tag error →
        (∀ delivery ∈ state.deliveries, delivery.tag = tag → delivery.phase = .thrown) ∧
          ∀ event ∈ events, ¬ Answers tag event) := by
  have deliveries := run_deliveriesHistory run
  refine ⟨?_, ?_, ?_, ?_, ?_⟩
  · intro later last continued id row found terminal
    exact run_final run continued found terminal
  · intro id row found completed
    obtain ⟨earlier, later, tag, response, event, reported, split, responseEq, claimed⟩ :=
      run_completedByClaimant run id row found completed
    have listed : tag ∈ claimants ⟨id, row.attemptsMade⟩ events := by
      rw [split, claimants, List.filterMap_append]
      exact List.mem_append_left _ claimed
    exact ⟨earlier, later, tag, response, event, reported, split, responseEq, claimed,
      run_claimants_eq run listed⟩
  · intro options now message response error stale
    have unmatched : ∀ row ∈ state.store.table.rows, outcomeWhere options message row = false :=
      outcomeWhere_stale stale
    exact ⟨KeyedTable.update_eq_self (completeSet now response) (fun _ => rfl) (fun _ => rfl)
      unmatched, fail_stale unmatched⟩
  · intro event next taken
    exact ⟨fun delivery member phase => workerStep_deadLetter taken member phase,
      fun tag errors => workerStep_completionErrors taken errors⟩
  · intro tag error member errors
    refine ⟨?_, deliveries.silenced tag error member errors⟩
    intro delivery running sameTag
    subst sameTag
    exact (deliveries.each delivery running).errored error member errors

end Runs

/-! ### A completed job -/

def sampleDelivery (phase : ExecutePhase JsString JsString) : Delivery JsString JsString :=
  { tag := 0
    options := sampleOptions
    content := sampleText
    message := dispatchMessage sampleRow
    deliveredAt := 0
    attached := true
    phase := phase }

def sampleJob : ProcessingJob JsString :=
  processingJob 0 (claimSet sampleOptions 0 (dispatchMessage sampleRow) (dispatchSet sampleRow))

def sampleAnswer : JsString := JsString.ofString "answer"

def sampleClaimed : StoreState JsString JsString JsString :=
  (exec sampleHashing JsString.le sampleDispatched.store
    (.claim sampleOptions 0 (dispatchMessage sampleRow))).2

def sampleCompleted : SystemState JsString JsString JsString :=
  sampleSystem
    (exec sampleHashing JsString.le sampleClaimed
      (.complete sampleOptions 0 (dispatchMessage sampleRow) sampleAnswer)).2
    [] [] [sampleDelivery (.returned .ack)]

def sampleClaimedEvents : List (WorkerEvent JsString JsString) :=
  sampleDispatchedEvents ++
    [.deliver 0 (dispatchMessage sampleRow),
      .claim 0 (dispatchMessage sampleRow)
        (.claim sampleOptions 0 (dispatchMessage sampleRow), .claimed (some sampleJob)) true]

theorem sampleClaimed_steps :
    Run (WorkerStep sampleHashing JsString.le sampleOptions.name) (SystemState.initial 0)
      sampleClaimedEvents
      (sampleSystem sampleClaimed [] [] [sampleDelivery (.processing sampleJob)]) := by
  have delivered : WorkerStep sampleHashing JsString.le sampleOptions.name sampleDispatched
      (.deliver 0 (dispatchMessage sampleRow))
      (sampleSystem sampleDispatched.store [] [] [sampleDelivery .claiming]) :=
    .deliver sampleDispatched sampleOptions sampleText (dispatchMessage sampleRow) [] [] rfl rfl
      (by decide +kernel)
  have claimed : WorkerStep sampleHashing JsString.le sampleOptions.name
      (sampleSystem sampleDispatched.store [] [] [sampleDelivery .claiming]) _
      (sampleSystem sampleClaimed [] [] [sampleDelivery (.processing sampleJob)]) :=
    .claim _ (sampleDelivery .claiming) [] [] 0 (some sampleJob) true rfl rfl le_rfl le_rfl
      (fun _ _ _ => List.not_mem_nil) ⟨trivial, rfl⟩
  exact sampleDispatched_steps.append (.snoc (.single delivered) claimed)

theorem sampleCompleting_steps :
    Run (WorkerStep sampleHashing JsString.le sampleOptions.name) (SystemState.initial 0)
      (sampleClaimedEvents ++ [.process 0])
      (sampleSystem sampleClaimed [] [] [sampleDelivery (.completing sampleJob sampleAnswer)]) :=
  sampleClaimed_steps.snoc
    (.process _ (sampleDelivery (.processing sampleJob)) [] [] sampleJob (.response sampleAnswer)
      rfl rfl)

def sampleCompleteEvent : WorkerEvent JsString JsString :=
  .complete 0 (dispatchMessage sampleRow) sampleAnswer
    (.complete sampleOptions 0 (dispatchMessage sampleRow) sampleAnswer, .done) true

theorem sampleCompleted_step :
    WorkerStep sampleHashing JsString.le sampleOptions.name
      (sampleSystem sampleClaimed [] [] [sampleDelivery (.completing sampleJob sampleAnswer)])
      sampleCompleteEvent sampleCompleted :=
  .complete _ (sampleDelivery (.completing sampleJob sampleAnswer)) [] [] 0 sampleJob
    sampleAnswer true rfl rfl ⟨trivial, rfl⟩

theorem sampleCompleted_run :
    ∃ events, Run (WorkerStep sampleHashing JsString.le sampleOptions.name)
      (SystemState.initial 0) events sampleCompleted :=
  ⟨_, sampleCompleting_steps.snoc sampleCompleted_step⟩

theorem outcomes_fenced_completed :
    sampleCompleted.store.table.rows.map (fun row => (row.status, row.response)) =
        [(.completed, some sampleAnswer)] ∧
      ∀ id row, sampleCompleted.store.table.lookup id = some row → row.status = .completed →
        ∃ earlier later tag response event reported,
          sampleCompleted_run.choose = earlier ++
            .complete tag ⟨id, row.attemptsMade⟩ response event reported :: later ∧
          row.response = some response ∧ tag ∈ claimants ⟨id, row.attemptsMade⟩ earlier ∧
          claimants ⟨id, row.attemptsMade⟩ sampleCompleted_run.choose = [tag] :=
  ⟨by decide +kernel, (outcomes_fenced sampleCompleted_run.choose_spec).2.1⟩

end ModelMux.Queue
