/-
The delay before a retry.

A failure that is retried sets `available_at` once, and the claim of the next
attempt checks it again, whatever the message says that triggered the claim.
Other statements write `available_at` only on rows that are active, so the
time set by the failure stands until the next attempt is claimed.
-/

import ModelMux.Queue.AttemptFencing

namespace ModelMux.Queue

variable {Data Result Digest : Type}

/-! ### The exponential part -/

theorem backoffDelayMs_le_hour (backoffMs attemptsMade : ℤ) :
    backoffDelayMs backoffMs attemptsMade ≤ 3600000 :=
  min_le_left _ _

theorem backoffDelayMs_mono {backoffMs : ℤ} (positive : 0 < backoffMs) {attempt later : ℤ}
    (ordered : attempt ≤ later) : backoffDelayMs backoffMs attempt ≤ backoffDelayMs backoffMs later := by
  have exponents : min (attempt - 1) 30 ≤ min (later - 1) 30 :=
    min_le_min_right 30 (by omega)
  have powers : (2 : ℚ) ^ min (attempt - 1) 30 ≤ 2 ^ min (later - 1) 30 :=
    zpow_le_zpow_right₀ one_le_two exponents
  have scale : (0 : ℚ) ≤ backoffMs := by exact_mod_cast positive.le
  exact min_le_min_left _ (mul_le_mul_of_nonneg_left powers scale)

/-- The product is a double without rounding: a 31-bit integer times a power of two. -/
theorem backoff_product_lt {backoffMs attempt : ℤ} (bounded : backoffMs ≤ 2147483647)  :
    (backoffMs : ℚ) * 2 ^ min (attempt - 1) 30 < 2 ^ 61 := by
  have power : (2 : ℚ) ^ min (attempt - 1) 30 ≤ 2 ^ (30 : ℤ) :=
    zpow_le_zpow_right₀ one_le_two (min_le_right _ _)
  have positive : (0 : ℚ) < 2 ^ min (attempt - 1) 30 := zpow_pos two_pos _
  have below : (backoffMs : ℚ) < 2 ^ 31 := by
    have cast : (backoffMs : ℚ) ≤ 2147483647 := by exact_mod_cast bounded
    exact cast.trans_lt (by norm_num)
  calc (backoffMs : ℚ) * 2 ^ min (attempt - 1) 30
      < 2 ^ 31 * 2 ^ min (attempt - 1) 30 := mul_lt_mul_of_pos_right below positive
    _ ≤ 2 ^ 31 * 2 ^ (30 : ℤ) := mul_le_mul_of_nonneg_left power (by norm_num)
    _ = 2 ^ 61 := by norm_num

/-! ### Rows that wait for their retry -/

/-- The row has gone on to a later attempt or still waits for the given time. -/
def RowDeferred (attempt : ℤ) (availableAt : Timestamp) (row : JobRow Data Result Digest) : Prop :=
  attempt < row.attemptsMade ∨
    row.attemptsMade = attempt ∧ row.status = .retrying ∧ row.availableAt = availableAt

theorem RowStep.deferred {hashing : Hashing Data Digest} {label : RowLabel Result}
    {row later : JobRow Data Result Digest} {attempt : ℤ} {availableAt : Timestamp}
    (change : RowStep hashing label (some row) (some later))
    (deferred : RowDeferred attempt availableAt row) : RowDeferred attempt availableAt later := by
  have fenced : ∀ {set : JobRow Data Result Digest}, row.status = .active →
      set.attemptsMade = row.attemptsMade → RowDeferred attempt availableAt set := by
    intro set active same
    rcases deferred with gone | ⟨_, retrying, _⟩
    · exact Or.inl (same ▸ gone)
    · rw [active] at retrying
      cases retrying
  cases change with
  | unchanged => exact deferred
  | missed => exact deferred
  | retained => exact deferred
  | dispatched => exact deferred
  | claimed options now message _ holds =>
      simp only [claimWhere, Bool.and_eq_true, decide_eq_true_eq] at holds
      have next : row.attemptsMade = message.attempt - 1 := holds.1.1.2
      apply Or.inl
      change attempt < message.attempt
      rcases deferred with gone | ⟨same, _⟩
      · omega
      · omega
  | completed options now message response _ holds => exact fenced (outcomeWhere_active holds) rfl
  | failed options now message error _ holds => exact fenced (outcomeWhere_active holds) rfl
  | recovered options now _ holds => exact fenced (recoverWhere_active holds) rfl

/-- The job has been issued, and its row, while there is one, is deferred. -/
def Deferred (id : JobId) (attempt : ℤ) (availableAt : Timestamp)
    (state : StoreState Data Result Digest) : Prop :=
  id ∈ state.issued ∧
    ∀ row, state.table.lookup id = some row → RowDeferred attempt availableAt row

section Runs

variable [DecidableEq Digest] {hashing : Hashing Data Digest} {collation : JobId → JobId → Bool}
  {id : JobId} {attempt : ℤ} {availableAt : Timestamp}

theorem Deferred.step {event : StoreEvent Data Result} {state next : StoreState Data Result Digest}
    (deferred : Deferred id attempt availableAt state)
    (taken : storeStep hashing collation state event next) :
    Deferred id attempt availableAt next := by
  obtain ⟨issued, rows⟩ := deferred
  refine ⟨storeStep_issued hashing collation taken id issued, ?_⟩
  intro later after
  have change := storeStep_rowStep hashing collation taken id
  cases before : state.table.lookup id with
  | some row =>
      rw [before, after] at change
      exact change.deferred (rows row before)
  | none =>
      rw [before, after] at change
      generalize label : rowLabel id event = announced at change
      cases change with
      | inserted options now uuid submission accepted =>
          exact absurd issued (rowLabel_inserted taken label).1

theorem Deferred.run {events : List (StoreEvent Data Result)}
    {state last : StoreState Data Result Digest} (deferred : Deferred id attempt availableAt state)
    (run : Run (storeStep hashing collation) state events last) :
    Deferred id attempt availableAt last :=
  run.invariant (Deferred id attempt availableAt) deferred (fun _ _ _ holds taken => holds.step taken)

/-- The next attempt is claimed only when the row has become available. -/
theorem Deferred.claimed {options : JobStoreOptions} {now : Timestamp} {job : ProcessingJob Data}
    {state next : StoreState Data Result Digest} (deferred : Deferred id attempt availableAt state)
    (taken : storeStep hashing collation state
      (.claim options now ⟨id, attempt + 1⟩, .claimed (some job)) next) :
    availableAt ≤ now := by
  have answered := congrArg Prod.fst taken.2
  simp only [exec, StoreOutcome.claimed.injEq] at answered
  rcases claim_cases options now ⟨id, attempt + 1⟩ state.table with
    ⟨missing, _⟩ | ⟨row, found, holds, _⟩
  · rw [missing] at answered
    cases answered
  · simp only [claimWhere, Bool.and_eq_true, decide_eq_true_eq] at holds
    have made : row.attemptsMade = attempt := by
      have previous := holds.1.1.2
      omega
    rcases deferred.2 row found with gone | ⟨_, _, available⟩
    · omega
    · rw [← available]
      exact holds.2

theorem storeStep_retried {options : JobStoreOptions} {now : Timestamp} {message : JobEnvelope}
    {error : JobProcessingError} {state next : StoreState Data Result Digest}
    (issued : RowsIssued state)
    (taken : storeStep hashing collation state
      (.fail options now message error, .failed (some .retrying)) next) :
    ∃ row, state.table.lookup message.id = some row ∧ row.attemptsMade = message.attempt ∧
      error.retryable = true ∧
      Deferred message.id message.attempt
        (now + max error.retryAfterMs (backoffDelayMs row.backoffMs message.attempt)) next := by
  have kept := storeStep_issued hashing collation taken message.id
  have answered := congrArg Prod.fst taken.2
  have stored := congrArg Prod.snd taken.2
  simp only [exec, StoreOutcome.failed.injEq] at answered stored
  rcases fail_cases options now message error state.table with
    ⟨missing, _⟩ | ⟨row, found, holds, status, updated, _⟩
  · rw [missing] at answered
    cases answered
  · rw [status] at answered
    have again : retries error row = true := by
      cases chosen : retries error row with
      | true => rfl
      | false => simp [chosen] at answered
    have made : row.attemptsMade = message.attempt := by
      simp only [outcomeWhere, Bool.and_eq_true, decide_eq_true_eq] at holds
      exact holds.1.1.2
    have retryable : error.retryable = true := by
      simp only [retries, Bool.and_eq_true] at again
      exact again.1
    refine ⟨row, found, made, retryable, kept (issued _ (by simp [found])), ?_⟩
    intro later present
    rw [← stored] at present
    cases updated.symm.trans present
    exact Or.inr ⟨made, by simp [failSet, again], by simp [failSet, made]⟩

/-! ### Admitted backoffs -/

omit [DecidableEq Digest] in
theorem rowStep_backoff {label : RowLabel Result} {before after : Option (JobRow Data Result Digest)}
    (change : RowStep hashing label before after)
    (admitted : ∀ row, before = some row → 0 < row.backoffMs ∧ row.backoffMs ≤ 2147483647) :
    ∀ row, after = some row → 0 < row.backoffMs ∧ row.backoffMs ≤ 2147483647 := by
  intro row present
  cases change with
  | unchanged => exact admitted row present
  | missed => exact admitted row present
  | retained => exact admitted row present
  | inserted options now uuid submission accepted =>
      cases present
      simp only [columnsAccepted, Bool.and_eq_true, decide_eq_true_eq] at accepted
      exact ⟨accepted.1.2, accepted.2⟩
  | dispatched old => cases present; exact admitted old rfl
  | claimed options now message old holds => cases present; exact admitted old rfl
  | completed options now message response old holds => cases present; exact admitted old rfl
  | failed options now message error old holds => cases present; exact admitted old rfl
  | recovered options now old holds => cases present; exact admitted old rfl
  | deleted => cases present

theorem run_backoff {events : List (StoreEvent Data Result)} {state : StoreState Data Result Digest}
    (run : Run (storeStep hashing collation) StoreState.initial events state) :
    ∀ id row, state.table.lookup id = some row → 0 < row.backoffMs ∧ row.backoffMs ≤ 2147483647 := by
  refine run.invariant (fun state => ∀ id row, state.table.lookup id = some row →
    0 < row.backoffMs ∧ row.backoffMs ≤ 2147483647) (fun _ _ impossible => by cases impossible) ?_
  intro state event next admitted taken id
  exact rowStep_backoff (storeStep_rowStep hashing collation taken id) (admitted id)

/-! ### Whole runs -/

variable {queue : JsString}

def ClaimedAt (message : JobEnvelope) (now : Timestamp) (event : WorkerEvent Data Result) : Prop :=
  ∃ tag options job reported,
    event = .claim tag message (.claim options now message, .claimed (some job)) reported

theorem workerStep_stored {state next : SystemState Data Result Digest}
    {event : WorkerEvent Data Result} {storeEvent : StoreEvent Data Result}
    (holds : SystemInvariant queue state)
    (taken : WorkerStep hashing collation queue state event next)
    (announced : event.storeEvents = [storeEvent]) :
    storeStep hashing collation state.store storeEvent next.store := by
  rcases workerStep_store holds taken with ⟨silent, _⟩ | ⟨other, same, stepped⟩
  · rw [silent] at announced
    cases announced
  · rw [same] at announced
    cases announced
    exact stepped

theorem claimed_le_attemptsMade {events : List (WorkerEvent Data Result)}
    {event : WorkerEvent Data Result} {clock now : Timestamp}
    {state : SystemState Data Result Digest} {row : JobRow Data Result Digest}
    (run : Run (WorkerStep hashing collation queue) (SystemState.initial clock) events state)
    (found : state.store.table.lookup id = some row) (member : event ∈ events)
    (claimed : ClaimedAt ⟨id, attempt⟩ now event) : attempt ≤ row.attemptsMade := by
  obtain ⟨tag, options, job, reported, rfl⟩ := claimed
  have listed : attempt ∈ claimedAttempts id (storeHistory events) := by
    rw [claimedAttempts, List.mem_filterMap]
    refine ⟨(.claim options now ⟨id, attempt⟩, .claimed (some job)), ?_, ?_⟩
    · rw [storeHistory, List.mem_flatMap]
      exact ⟨_, member, List.mem_singleton_self _⟩
    · simp [rowLabel, RowLabel.attempt?]
  rw [((run_claimHistory (run_storeHistory run) id).present row found).1, attemptsUpTo,
    List.mem_map] at listed
  obtain ⟨index, below, same⟩ := listed
  rw [List.mem_range] at below
  omega

theorem retry_delayed :
    (∀ clock events later (state next last : SystemState Data Result Digest) tag message options now
        error reported,
      Run (WorkerStep hashing collation queue) (SystemState.initial clock) events state →
      WorkerStep hashing collation queue state
        (.fail tag message (.fail options now message error, .failed (some .retrying)) reported) next →
      Run (WorkerStep hashing collation queue) next later last →
        ∃ row, state.store.table.lookup message.id = some row ∧
          row.attemptsMade = message.attempt ∧ error.retryable = true ∧
          0 < row.backoffMs ∧ row.backoffMs ≤ 2147483647 ∧
          ∀ event ∈ events ++ later, ∀ claimedAt,
            ClaimedAt ⟨message.id, message.attempt + 1⟩ claimedAt event →
              now + max error.retryAfterMs (backoffDelayMs row.backoffMs message.attempt) ≤
                claimedAt) ∧
      ∀ backoffMs attempt later : ℤ, 0 < backoffMs → backoffMs ≤ 2147483647 → attempt ≤ later →
        backoffDelayMs backoffMs attempt ≤ backoffDelayMs backoffMs later ∧
          backoffDelayMs backoffMs later ≤ 3600000 ∧
          (backoffMs : ℚ) * 2 ^ min (later - 1) 30 < 2 ^ 61 := by
  refine ⟨?_, ?_⟩
  · intro clock events later state next last tag message options now error reported run failed continued
    have holds := run_invariant run
    have stored : storeStep hashing collation state.store
        (.fail options now message error, .failed (some .retrying)) next.store :=
      workerStep_stored holds failed rfl
    obtain ⟨row, found, made, retryable, deferred⟩ := storeStep_retried (run_rowsIssued run) stored
    obtain ⟨positive, bounded⟩ := run_backoff (run_storeHistory run) _ row found
    refine ⟨row, found, made, retryable, positive, bounded, ?_⟩
    intro event member claimedAt claimed
    rcases List.mem_append.mp member with earlier | afterwards
    · have reached := claimed_le_attemptsMade run found earlier claimed
      omega
    · obtain ⟨_, _, _, _, rfl⟩ := claimed
      obtain ⟨before, after, rfl⟩ := List.append_of_mem afterwards
      obtain ⟨middle, _, upTo, taken, _⟩ := continued.split_event before after _
      have begun := workerStep_invariant holds failed
      have reached := upTo.invariant (SystemInvariant queue) begun
        (fun _ _ _ holds taken => workerStep_invariant holds taken)
      have held := deferred.run (continued_storeHistory begun upTo)
      exact held.claimed (workerStep_stored reached taken rfl)
  · intro backoffMs attempt later positive bounded ordered
    exact ⟨backoffDelayMs_mono positive ordered, backoffDelayMs_le_hour _ _, backoff_product_lt bounded⟩

end Runs

/-! ### A retried job -/

def sampleError : JobProcessingError := ⟨.providerTimeout, true, 0⟩

def sampleFailed : StoreState JsString JsString JsString :=
  (exec sampleHashing JsString.le sampleClaimed
    (.fail sampleOptions 2 (dispatchMessage sampleRow) sampleError)).2

def sampleRetry : JobEnvelope := ⟨jobId sampleUuid, 2⟩

def sampleRetryDelivery (phase : ExecutePhase JsString JsString) : Delivery JsString JsString :=
  { tag := 1
    options := sampleOptions
    content := stringifyEnvelope sampleRetry
    message := sampleRetry
    deliveredAt := 0
    attached := true
    phase := phase }

def sampleWaiting (clock : Timestamp) (ready : List JsString)
    (deliveries : List (Delivery JsString JsString)) : SystemState JsString JsString JsString :=
  { sampleSystem sampleFailed [] ready (deliveries ++ [sampleDelivery (.returned .ack)]) with
    clock := clock }

def sampleFailEvent : WorkerEvent JsString JsString :=
  .fail 0 (dispatchMessage sampleRow)
    (.fail sampleOptions 2 (dispatchMessage sampleRow) sampleError, .failed (some .retrying)) true

theorem sampleFailing_steps :
    Run (WorkerStep sampleHashing JsString.le sampleOptions.name) (SystemState.initial 0)
      (sampleClaimedEvents ++ [.process 0])
      (sampleSystem sampleClaimed [] [] [sampleDelivery (.failing sampleJob sampleError)]) :=
  sampleClaimed_steps.snoc
    (.process _ (sampleDelivery (.processing sampleJob)) [] [] sampleJob
      (.processingError sampleError) rfl rfl)

theorem sampleFailed_step :
    WorkerStep sampleHashing JsString.le sampleOptions.name
      (sampleSystem sampleClaimed [] [] [sampleDelivery (.failing sampleJob sampleError)])
      sampleFailEvent (sampleWaiting 0 [] []) :=
  .fail _ (sampleDelivery (.failing sampleJob sampleError)) [] [] 2 sampleJob sampleError
    (some .retrying) true rfl rfl ⟨trivial, rfl⟩

def sampleRetryJob : ProcessingJob JsString :=
  processingJob 5000 (claimSet sampleOptions 5000 sampleRetry (failSet 2 sampleError
    (claimSet sampleOptions 0 (dispatchMessage sampleRow) (dispatchSet sampleRow))))

theorem sampleRetry_claimed :
    (claim sampleOptions 5000 sampleRetry sampleFailed.table).1 = some sampleRetryJob := by
  have answered : (claim sampleOptions 5000 sampleRetry sampleFailed.table).1.isSome = true := by
    decide +kernel
  have stored : sampleFailed.table.lookup (jobId sampleUuid) = some (failSet 2 sampleError
      (claimSet sampleOptions 0 (dispatchMessage sampleRow) (dispatchSet sampleRow))) := rfl
  rcases claim_cases sampleOptions 5000 sampleRetry sampleFailed.table with
    ⟨missing, _⟩ | ⟨row, found, _, job, _, _⟩
  · rw [missing] at answered
    cases answered
  · cases stored.symm.trans found
    exact job

def sampleRetryEvents : List (WorkerEvent JsString JsString) :=
  [.inject (stringifyEnvelope sampleRetry), .deliver 1 sampleRetry, .tick,
    .claim 1 sampleRetry (.claim sampleOptions 5000 sampleRetry, .claimed (some sampleRetryJob))
      true]

def sampleRetried (phase : ExecutePhase JsString JsString) :
    SystemState JsString JsString JsString :=
  { sampleWaiting 5000 [] [sampleRetryDelivery phase] with
    store := { sampleFailed with
      table := (claim sampleOptions 5000 sampleRetry sampleFailed.table).2 } }

theorem sampleRetry_steps :
    Run (WorkerStep sampleHashing JsString.le sampleOptions.name) (sampleWaiting 0 [] [])
      sampleRetryEvents (sampleRetried (.processing sampleRetryJob)) := by
  have injected : WorkerStep sampleHashing JsString.le sampleOptions.name
      (sampleWaiting 0 [] []) (.inject (stringifyEnvelope sampleRetry))
      (sampleWaiting 0 [stringifyEnvelope sampleRetry] []) := .inject _ _
  have delivered : WorkerStep sampleHashing JsString.le sampleOptions.name
      (sampleWaiting 0 [stringifyEnvelope sampleRetry] []) (.deliver 1 sampleRetry)
      (sampleWaiting 0 [] [sampleRetryDelivery .claiming]) :=
    .deliver _ sampleOptions (stringifyEnvelope sampleRetry) sampleRetry [] [] rfl rfl
      (by decide +kernel)
  have ticked : WorkerStep sampleHashing JsString.le sampleOptions.name
      (sampleWaiting 0 [] [sampleRetryDelivery .claiming]) .tick
      (sampleWaiting 5000 [] [sampleRetryDelivery .claiming]) :=
    .tick _ 5000 (by decide +kernel)
  have claimed := @WorkerStep.claim _ _ _ _ sampleHashing JsString.le sampleOptions.name
    (sampleWaiting 5000 [] [sampleRetryDelivery .claiming]) (sampleRetryDelivery .claiming) []
    [sampleDelivery (.returned .ack)] 5000 (some sampleRetryJob) _ true rfl rfl
    (by decide +kernel) (by decide +kernel) (fun _ _ _ => List.not_mem_nil)
    ⟨trivial, Prod.ext (congrArg StoreOutcome.claimed sampleRetry_claimed) rfl⟩
  exact .snoc (.snoc (.snoc (.single injected) delivered) ticked) claimed

/-- The second attempt, delivered far too early, is claimed after the backoff. -/
theorem retry_delayed_sample :
    (∃ event ∈ sampleRetryEvents, ClaimedAt sampleRetry 5000 event) ∧
      ∀ event ∈ sampleRetryEvents, ∀ claimedAt, ClaimedAt sampleRetry claimedAt event →
        2 + 1000 ≤ claimedAt := by
  obtain ⟨row, found, _, _, _, _, delayed⟩ := (@retry_delayed JsString JsString JsString _
    sampleHashing JsString.le sampleOptions.name).1 _ _ _ _ _ _ _ _ _ _ _ _ sampleFailing_steps
    sampleFailed_step sampleRetry_steps
  have backoff : row.backoffMs = 1000 := by
    have stored : sampleClaimed.table.lookup (jobId sampleUuid) =
        some (claimSet sampleOptions 0 (dispatchMessage sampleRow) (dispatchSet sampleRow)) := rfl
    cases stored.symm.trans found
    rfl
  refine ⟨⟨_, by simp [sampleRetryEvents], 1, sampleOptions, sampleRetryJob, true, rfl⟩, ?_⟩
  intro event member claimedAt claim
  have bound := delayed event (List.mem_append_right _ member) claimedAt claim
  have delay : max sampleError.retryAfterMs
      (backoffDelayMs 1000 (dispatchMessage sampleRow).attempt) = 1000 := by decide +kernel
  rw [backoff, delay] at bound
  exact bound

end ModelMux.Queue
