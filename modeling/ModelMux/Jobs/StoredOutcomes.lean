/-
How inference jobs end.

A row becomes terminal by `complete`, by a last `fail` or by `maintain`.  The
first two are statements of an attempt whose processor has returned, so the
outcome in the row is that of a routing pass for the data of the row: its
response, or the code of its error.  A row that `maintain` has failed was active
in its last attempt, and the lease of that attempt had run out.
-/

import ModelMux.Jobs.InferenceProcessor

namespace ModelMux.Jobs

open Providers Queue

variable {Response Failure Digest : Type}

/-! ### Rows that become terminal -/

structure SameJob (old row : JobRow ChatRequest Response Digest) : Prop where
  data : row.data = old.data
  maxAttempts : row.maxAttempts = old.maxAttempts

inductive EndsRow (old row : JobRow ChatRequest Response Digest) :
    ExecutePhase ChatRequest Response → Prop
  | completes (job : ProcessingJob ChatRequest) (response : Response) (now : Timestamp)
      (set : row = completeSet now response old) : EndsRow old row (.completing job response)
  | fails (job : ProcessingJob ChatRequest) (failure : JobProcessingError) (now : Timestamp)
      (set : row = failSet now failure old) : EndsRow old row (.failing job failure)

/-- Why a row is terminal after a step. -/
inductive TerminalBy (deliveries : List (Delivery ChatRequest Response))
    (event : WorkerEvent ChatRequest Response) (id : JobId)
    (old row : JobRow ChatRequest Response Digest) : Prop
  | kept (terminal : old.status.terminal = true) (same : SameOutcome old row)
  | ended (delivery : Delivery ChatRequest Response) (member : delivery ∈ deliveries)
      (named : delivery.message.id = id) (ends : EndsRow old row delivery.phase)
  | recovered (options : JobStoreOptions) (now : Timestamp)
      (maintained : event = .maintain (.maintainRecover options now, .done))
      (lapsed : recoverWhere options now old = true) (set : row = recoverSet now old)

theorem EndsRow.holding {old row : JobRow ChatRequest Response Digest}
    {phase : ExecutePhase ChatRequest Response} (ends : EndsRow old row phase) :
    ∃ job, job? phase = some job := by
  cases ends with
  | completes job response now set => exact ⟨job, rfl⟩
  | fails job failure now set => exact ⟨job, rfl⟩

section Jobs

variable [DecidableEq Digest] {hashing : Hashing ChatRequest Digest}
  {collation : JobId → JobId → Bool} {queue : JsString}
  {jobs next : SystemState ChatRequest Response Digest}
  {jobEvent : WorkerEvent ChatRequest Response}

theorem insert_terminal {store later : StoreState ChatRequest Response Digest} {call : Nat}
    {options : JobStoreOptions} {now : Timestamp} {uuid : Uuid}
    {submission : JobSubmission ChatRequest} {outcome : StoreOutcome ChatRequest Response}
    (executed : execInsert hashing call options now uuid submission store = (outcome, later))
    {id : JobId} {row : JobRow ChatRequest Response Digest}
    (found : later.table.lookup id = some row) (terminal : row.status.terminal = true) :
    store.table.lookup id = some row := by
  rcases execInsert_cases hashing call options now uuid submission store with
    ⟨table, _, placed, result⟩ | ⟨_, _, result⟩ | ⟨_, result⟩
  · rw [result] at executed
    cases executed
    rw [KeyedTable.lookup_insert placed] at found
    split at found
    · cases found
      cases terminal
    · exact found
  · rw [result] at executed
    cases executed
    exact found
  · rw [result] at executed
    cases executed
    exact found

theorem workerStep_terminal (taken : WorkerStep hashing collation queue jobs jobEvent next)
    {id : JobId} {row : JobRow ChatRequest Response Digest}
    (found : next.store.table.lookup id = some row) (terminal : row.status.terminal = true) :
    ∃ old, jobs.store.table.lookup id = some old ∧ SameJob old row ∧
      TerminalBy jobs.deliveries jobEvent id old row := by
  have unchanged (present : jobs.store.table.lookup id = some row) :
      ∃ old, jobs.store.table.lookup id = some old ∧ SameJob old row ∧
        TerminalBy jobs.deliveries jobEvent id old row :=
    ⟨row, present, ⟨rfl, rfl⟩, .kept terminal (.refl row)⟩
  cases taken with
  | @gateway event store submits taken =>
      obtain ⟨op, outcome⟩ := event
      obtain ⟨_, executed⟩ := taken
      cases op with
      | insert call options now uuid submission =>
          exact unchanged (insert_terminal executed found terminal)
      | select call =>
          have same := (execSelect_table hashing call jobs.store).1
          change execSelect hashing call jobs.store = (outcome, store) at executed
          rw [executed] at same
          exact unchanged (same ▸ found)
      | getJob options wanted ownerId =>
          cases executed
          exact unchanged found
      | _ => exact submits.elim
  | @maintain event store maintains taken =>
      obtain ⟨op, outcome⟩ := event
      obtain ⟨_, executed⟩ := taken
      cases op with
      | maintainRecover options now =>
          cases executed
          rcases lookup_update_cases jobs.store.table (recoverWhere options now) (recoverSet now)
              (fun _ => rfl) (fun _ => rfl) id with same | ⟨old, before, lapsed, after⟩
          · exact unchanged (same ▸ found)
          · cases after.symm.trans found
            exact ⟨old, before, ⟨rfl, rfl⟩, .recovered options now rfl lapsed rfl⟩
      | maintainDelete options now =>
          cases executed
          change (jobs.store.table.delete (deleteWhere options now)).lookup id = _ at found
          rw [KeyedTable.lookup_delete] at found
          exact unchanged (Option.filter_eq_some_iff.mp found).1
      | _ => exact maintains.elim
  | commit transaction before after running phase =>
      change (dispatchMark transaction.message.id jobs.store.table).lookup id = some row at found
      rw [lookup_dispatchMark] at found
      split at found
      · obtain ⟨old, present, set⟩ := Option.map_eq_some_iff.mp found
        subst set
        exact ⟨old, present, ⟨rfl, rfl⟩, .kept terminal ⟨rfl, rfl, rfl, rfl⟩⟩
      · exact unchanged found
  | claim delivery before after now job reported running phase received started unlocked taken =>
      cases taken.2
      rcases claim_cases delivery.options now delivery.message jobs.store.table with
        ⟨_, same⟩ | ⟨old, _, _, _, updated, others⟩
      · exact unchanged (same id ▸ found)
      · by_cases named : id = delivery.message.id
        · subst named
          cases updated.symm.trans found
          cases terminal
        · exact unchanged (others id named ▸ found)
  | complete delivery before after now job response reported running phase taken =>
      cases taken.2
      rcases complete_cases delivery.options now delivery.message response jobs.store.table with
        same | ⟨old, present, _, updated, others⟩
      · exact unchanged (same id ▸ found)
      · by_cases named : id = delivery.message.id
        · subst named
          cases updated.symm.trans found
          exact ⟨old, present, ⟨rfl, rfl⟩,
            .ended delivery (by simp [running]) rfl (phase ▸ .completes job response now rfl)⟩
        · exact unchanged (others id named ▸ found)
  | fail delivery before after now job failure status reported running phase taken =>
      cases taken.2
      rcases fail_cases delivery.options now delivery.message failure jobs.store.table with
        ⟨_, same⟩ | ⟨old, present, _, _, updated, others⟩
      · exact unchanged (same id ▸ found)
      · by_cases named : id = delivery.message.id
        · subst named
          cases updated.symm.trans found
          exact ⟨old, present, ⟨rfl, rfl⟩,
            .ended delivery (by simp [running]) rfl (phase ▸ .fails job failure now rfl)⟩
        · exact unchanged (others id named ▸ found)
  | tick | begin | publish | mark | rollback | inject | deliver | rejectMalformed | process
  | statementError | settle | detach | crash => exact unchanged found

end Jobs

/-! ### Outcomes of passes -/

/-- The request with which a target is asked: the fallback gets the model that
its map gives for the model of the conversation. -/
def AskedFor (router : ProviderRouter) (request : ChatRequest) (asked : ChatRequest) :
    TargetRole → Prop
  | .primary => asked = request
  | .fallback => ∃ fallback model, router.fallback = some fallback ∧
      fallback.modelMap request.model = some model ∧ asked = { request with model := model }

theorem invoked_askedFor {router : ProviderRouter} {pass : Pass Response Failure}
    (invariant : PassInvariant router pass) {role : TargetRole} {asked : ChatRequest}
    (invoked : .invoked role asked ∈ pass.log) : AskedFor router pass.request asked role := by
  obtain ⟨earlier, later, called⟩ := List.append_of_mem invoked
  obtain ⟨_, _, tried⟩ := invariant.permitted earlier _ later called
  obtain ⟨first, rest, began⟩ := List.append_of_mem tried
  have due := invariant.permitted first (.tried role asked) (rest ++ .invoked role asked :: later)
    (by rw [called, began]; simp)
  cases role with
  | primary => exact due
  | fallback =>
      obtain ⟨fallback, model, configured, mapped, _, data⟩ := due.mapped
      exact ⟨fallback, model, configured, mapped, data⟩

/-- A pass that has returned a response has it from a provider. -/
theorem finished_answered {router : ProviderRouter} {pass : Pass Response Failure}
    {response : Response} (invariant : PassInvariant router pass)
    (evidence : EvidenceInvariant pass) (finished : pass.phase = .finished (.ok response)) :
    ∃ role asked, .answered role (.ok response) ∈ pass.log ∧ .invoked role asked ∈ pass.log ∧
      AskedFor router pass.request asked role := by
  have stopped := invariant.stopped
  rw [finished] at stopped
  obtain ⟨impossible, _⟩ | ⟨role, _, concluded⟩ := stopped
  · cases impossible
  · obtain ⟨before, after, split⟩ := List.append_of_mem concluded
    obtain ⟨target, settled, _, outcome, same⟩ := invariant.permitted before _ after split
    have answered : .answered role (.ok response) ∈ pass.log := by
      cases settled with
      | error error => cases same
      | ok given =>
          cases same
          cases outcome with
          | answered admitted settled => exact split ▸ List.mem_append_left _ settled
    obtain ⟨asked, invoked⟩ := evidence.log.answered role _ answered
    exact ⟨role, asked, answered, invoked, invoked_askedFor invariant invoked⟩

def PassFinished (routers : Nat → RouterSystem Response Failure) (data : ChatRequest)
    (outcome : Except (Thrown Failure) Response) : Prop :=
  ∃ worker, ∃ pass ∈ (routers worker).passes, pass.request = data ∧
    pass.phase = .finished outcome

/-- The last attempt of a job, without its lease. -/
structure LastLeaseLost (now : Timestamp) (row : JobRow ChatRequest Response Digest) : Prop where
  active : row.status = .active
  last : row.attemptsMade = row.maxAttempts
  expired : ∃ lease, row.leaseUntil = some lease ∧ lease < now

/-- Among the statements is one of `maintain` that has found the last attempt of the job
without its lease, and has failed the job. -/
def GivenUp [DecidableEq Digest] (hashing : Hashing ChatRequest Digest)
    (collation : JobId → JobId → Bool) (events : List (StoreEvent ChatRequest Response))
    (store : StoreState ChatRequest Response Digest) (id : JobId)
    (row : JobRow ChatRequest Response Digest) : Prop :=
  ∃ before options now after old failed,
    Run.Taken (storeStep hashing collation) StoreState.initial events store before
      (.maintainRecover options now, .done) after ∧
    before.table.lookup id = some old ∧ LastLeaseLost now old ∧
    after.table.lookup id = some failed ∧ SameOutcome failed row

/-- What is known of a terminal row; `lost` is what an abandoned row needs. -/
inductive Concluded (isResponseError : Failure → Bool)
    (routers : Nat → RouterSystem Response Failure) (lost : Prop)
    (row : JobRow ChatRequest Response Digest) : Prop
  | answered (response : Response) (status : row.status = .completed)
      (stored : row.response = some response)
      (finished : PassFinished routers row.data (.ok response))
  | refused (error : Thrown Failure) (status : row.status = .failed)
      (code : row.errorCode = some (processingError isResponseError error).code.text)
      (last : isRetryableProviderError error = false ∨ row.maxAttempts ≤ row.attemptsMade)
      (finished : PassFinished routers row.data (.error error))
  | abandoned (status : row.status = .failed)
      (code : row.errorCode = some JobErrorCode.jobFailed.text)
      (last : row.maxAttempts ≤ row.attemptsMade) (given : lost)

theorem Concluded.same {isResponseError : Failure → Bool}
    {routers : Nat → RouterSystem Response Failure} {lost lost' : Prop}
    {old row : JobRow ChatRequest Response Digest}
    (concluded : Concluded isResponseError routers lost old) (job : SameJob old row)
    (outcome : SameOutcome old row) (kept : lost → lost') :
    Concluded isResponseError routers lost' row := by
  cases concluded with
  | answered response status stored finished =>
      exact .answered response (outcome.status.trans status) (outcome.response.trans stored)
        (job.data ▸ finished)
  | refused error status code last finished =>
      apply Concluded.refused error (outcome.status.trans status) (outcome.errorCode.trans code)
      · rw [job.maxAttempts, outcome.attemptsMade]
        exact last
      · rw [job.data]
        exact finished
  | abandoned status code last given =>
      refine .abandoned (outcome.status.trans status) (outcome.errorCode.trans code) ?_ (kept given)
      rw [job.maxAttempts, outcome.attemptsMade]
      exact last

theorem Concluded.mono {isResponseError : Failure → Bool}
    {routers later : Nat → RouterSystem Response Failure} {lost lost' : Prop}
    {row : JobRow ChatRequest Response Digest}
    (concluded : Concluded isResponseError routers lost row)
    (kept : ∀ outcome, PassFinished routers row.data outcome →
      PassFinished later row.data outcome) (given : lost → lost') :
    Concluded isResponseError later lost' row := by
  cases concluded with
  | answered response status stored finished =>
      exact .answered response status stored (kept _ finished)
  | refused error status code last finished =>
      exact .refused error status code last (kept _ finished)
  | abandoned status code last lost => exact .abandoned status code last (given lost)

theorem processingError_retryable (isResponseError : Failure → Bool) (error : Thrown Failure) :
    (processingError isResponseError error).retryable = isRetryableProviderError error := by
  unfold processingError
  split_ifs with retryable
  · exact retryable.symm
  · rw [Bool.not_eq_true] at retryable
    rw [retryable]
    split
    · rfl
    · split_ifs <;> rfl
    · rfl

theorem EndsRow.concluded {isResponseError : Failure → Bool}
    {routers : Nat → RouterSystem Response Failure} {lost : Prop}
    {old row : JobRow ChatRequest Response Digest}
    {phase : ExecutePhase ChatRequest Response} {job : ProcessingJob ChatRequest}
    {pass : Pass Response Failure} {worker : Nat} (ends : EndsRow old row phase)
    (terminal : row.status.terminal = true) (member : pass ∈ (routers worker).passes)
    (request : pass.request = row.data) (returned : Returned isResponseError job pass phase) :
    Concluded isResponseError routers lost row := by
  cases ends with
  | completes held response now set =>
      obtain impossible | ⟨outcome, finished, same⟩ := returned
      · cases impossible
      · cases outcome with
        | error error => cases same
        | ok given =>
            cases same
            subst set
            exact .answered response rfl rfl ⟨worker, pass, member, request, finished⟩
  | fails held failure now set =>
      obtain impossible | ⟨outcome, finished, same⟩ := returned
      · cases impossible
      · cases outcome with
        | ok given => cases same
        | error error =>
            cases same
            subst set
            have final : retries (processingError isResponseError error) old = false := by
              cases again : retries (processingError isResponseError error) old with
              | false => rfl
              | true => simp [failSet, again, JobState.terminal] at terminal
            apply Concluded.refused error
            · simp [failSet, final]
            · rfl
            · simp only [retries, processingError_retryable, Bool.and_eq_false_iff,
                decide_eq_false_iff_not, not_lt] at final
              exact final
            · exact ⟨worker, pass, member, request, finished⟩

theorem recovered_last {old : JobRow ChatRequest Response Digest} {now : Timestamp}
    (terminal : (recoverSet now old).status.terminal = true) :
    old.maxAttempts ≤ old.attemptsMade := by
  by_contra again
  simp [recoverSet, not_le.mp again, JobState.terminal] at terminal

theorem recovered_concluded {isResponseError : Failure → Bool}
    {routers : Nat → RouterSystem Response Failure} {lost : Prop}
    {old : JobRow ChatRequest Response Digest} {now : Timestamp}
    (last : old.maxAttempts ≤ old.attemptsMade) (given : lost) :
    Concluded isResponseError routers lost (recoverSet now old) := by
  apply Concluded.abandoned
  · simp [recoverSet, not_lt.mpr last]
  · rfl
  · exact last
  · exact given

theorem lastLeaseLost {options : JobStoreOptions} {now : Timestamp}
    {row : JobRow ChatRequest Response Digest} (consistent : RowConsistent row)
    (lapsed : recoverWhere options now row = true) (last : row.maxAttempts ≤ row.attemptsMade) :
    LastLeaseLost now row := by
  simp only [recoverWhere, Bool.and_eq_true, decide_eq_true_eq, Option.any_eq_true] at lapsed
  obtain ⟨⟨_, active⟩, lease, leased, expired⟩ := lapsed
  exact ⟨active, le_antisymm consistent.attemptsBounded last, lease, leased, expired⟩

/-! ### Runs -/

def RowsConcluded (isResponseError : Failure → Bool)
    (lost : JobId → JobRow ChatRequest Response Digest → Prop)
    (state : InferenceState Response Failure Digest) : Prop :=
  ∀ id row, state.jobs.store.table.lookup id = some row → row.status.terminal = true →
    Concluded isResponseError state.routers (lost id row) row

section Runs

variable [DecidableEq Digest] {hashing : Hashing ChatRequest Digest}
  {collation : JobId → JobId → Bool} {queue : JsString} {router : ProviderRouter}
  {isResponseError : Failure → Bool} {state next : InferenceState Response Failure Digest}

/-- The workers take a step; the attempt that ends a row holds its pass. -/
theorem RowsConcluded.workers {lost lost' : JobId → JobRow ChatRequest Response Digest → Prop}
    (rows : RowsConcluded isResponseError lost state)
    (invariant : InferenceInvariant queue router isResponseError state)
    {event : WorkerEvent ChatRequest Response} {jobs : SystemState ChatRequest Response Digest}
    (taken : WorkerStep hashing collation queue state.jobs event jobs)
    (kept : ∀ id old row, SameOutcome old row → lost id old → lost' id row)
    (maintained : ∀ id old options now,
      event = .maintain (.maintainRecover options now, .done) →
        state.jobs.store.table.lookup id = some old → LastLeaseLost now old →
          jobs.store.table.lookup id = some (recoverSet now old) → lost' id (recoverSet now old)) :
    RowsConcluded isResponseError lost' { state with jobs := jobs } := by
  intro id row found terminal
  obtain ⟨old, present, same, reason⟩ := workerStep_terminal taken found terminal
  cases reason with
  | kept before outcome =>
      exact (rows id old present before).same same outcome (kept id old row outcome)
  | recovered options now recovers lapsed set =>
      subst set
      have last := recovered_last terminal
      have lost := lastLeaseLost (invariant.system.consistent id old present) lapsed last
      exact recovered_concluded last (maintained id old options now recovers present lost found)
  | ended delivery member named ends =>
      subst named
      obtain ⟨job, holding⟩ := ends.holding
      have held := invariant.attempts delivery member job holding
      obtain ⟨worker, number, pass, attempt⟩ := held.pass
      apply ends.concluded terminal (List.mem_of_getElem? attempt.present)
      · rw [attempt.request, same.data, held.data old present]
      · exact attempt.outcome

omit [DecidableEq Digest] in
theorem RowsConcluded.provide {lost lost' : JobId → JobRow ChatRequest Response Digest → Prop}
    (rows : RowsConcluded isResponseError lost state) {worker : Nat}
    {event : RouterEvent Response Failure} {system : RouterSystem Response Failure}
    (taken : RouterStep router (state.routers worker) event system)
    (kept : ∀ id row, lost id row → lost' id row) :
    RowsConcluded isResponseError lost'
      { state with routers := Function.update state.routers worker system } := by
  intro id row found terminal
  refine (rows id row found terminal).mono ?_ (kept id row)
  intro outcome finished
  obtain ⟨other, pass, member, request, ended⟩ := finished
  obtain ⟨number, present⟩ := List.mem_iff_getElem?.mp member
  obtain ⟨later, after, sameRequest, stays⟩ := routers_kept taken present
  exact ⟨other, later, List.mem_of_getElem? after, sameRequest.trans request, stays _ ended⟩

theorem GivenUp.later {events more : List (StoreEvent ChatRequest Response)}
    {store last : StoreState ChatRequest Response Digest} {id : JobId}
    {old row : JobRow ChatRequest Response Digest}
    (given : GivenUp hashing collation events store id old) (same : SameOutcome old row)
    (run : Run (storeStep hashing collation) store more last) :
    GivenUp hashing collation (events ++ more) last id row := by
  obtain ⟨before, options, now, after, active, failed, taken, present, lost, ended, outcome⟩ := given
  exact ⟨before, options, now, after, active, failed, taken.append run, present, lost, ended,
    outcome.trans same⟩

theorem RowsConcluded.step {history : List (StoreEvent ChatRequest Response)}
    (rows : RowsConcluded isResponseError (GivenUp hashing collation history state.jobs.store) state)
    (stored : Run (storeStep hashing collation) StoreState.initial history state.jobs.store)
    (invariant : InferenceInvariant queue router isResponseError state)
    {event : InferenceEvent Response Failure}
    (taken : InferenceStep hashing collation queue router isResponseError state event next) :
    RowsConcluded isResponseError (GivenUp hashing collation
      (history ++ storeHistory event.workerEvents) next.jobs.store) next := by
  have stepped := continued_storeHistory invariant.system (inferenceStep_worker taken)
  have kept : ∀ id old row, SameOutcome old row →
      GivenUp hashing collation history state.jobs.store id old →
        GivenUp hashing collation (history ++ storeHistory event.workerEvents) next.jobs.store id
          row :=
    fun _ _ _ same given => given.later same stepped
  cases taken with
  | @job event jobs plain taken =>
      apply rows.workers invariant taken kept
      rintro id old options now rfl present lost after
      have recovers : storeStep hashing collation state.jobs.store
          (.maintainRecover options now, .done) jobs.store := Run.step_of_single stepped
      exact ⟨_, options, now, _, old, _, Run.taken_last stored recovers, present, lost, after,
        .refl _⟩
  | claim worker tag id message op job now taken started =>
      refine (rows.workers invariant taken kept ?_).provide started (fun _ _ given => given)
      intro id old options now impossible
      cases impossible
  | provide worker unsignalled taken =>
      exact rows.provide taken (fun id row given => kept id row row (.refl row) given)
  | process delivery before after job worker id pass outcome running phase called present
      finished =>
      intro id row found terminal
      exact (rows id row found terminal).same ⟨rfl, rfl⟩ (.refl row) (kept id row row (.refl row))

theorem storeHistory_workerEvents_snoc (events : List (InferenceEvent Response Failure))
    (event : InferenceEvent Response Failure) :
    storeHistory ((events ++ [event]).flatMap InferenceEvent.workerEvents) =
      storeHistory (events.flatMap InferenceEvent.workerEvents) ++
        storeHistory event.workerEvents := by
  simp [storeHistory, List.flatMap_append]

theorem run_concluded {clock : Timestamp} {clocks : Nat → ℚ} {circuits : Nat → Circuits}
    {events : List (InferenceEvent Response Failure)}
    (run : Run (InferenceStep hashing collation queue router isResponseError)
      (.initial clock clocks circuits) events state) :
    InferenceInvariant queue router isResponseError state ∧
      RowsConcluded isResponseError (GivenUp hashing collation
        (storeHistory (events.flatMap InferenceEvent.workerEvents)) state.jobs.store) state := by
  have held := run.historyInvariant
    (fun events state =>
      Run (storeStep hashing collation) StoreState.initial
        (storeHistory (events.flatMap InferenceEvent.workerEvents)) state.jobs.store ∧
      InferenceInvariant queue router isResponseError state ∧
      RowsConcluded isResponseError (GivenUp hashing collation
        (storeHistory (events.flatMap InferenceEvent.workerEvents)) state.jobs.store) state)
    (by
      refine ⟨.refl _, InferenceInvariant.initial queue router clock clocks circuits, ?_⟩
      intro id row impossible
      cases impossible)
    (by
      rintro events state event next ⟨stored, invariant, rows⟩ taken
      have stepped := continued_storeHistory invariant.system (inferenceStep_worker taken)
      rw [storeHistory_workerEvents_snoc]
      exact ⟨stored.append stepped, invariant.step taken, rows.step stored invariant taken⟩)
  exact held.2

theorem run_workers {clock : Timestamp} {clocks : Nat → ℚ} {circuits : Nat → Circuits}
    {events : List (InferenceEvent Response Failure)}
    (run : Run (InferenceStep hashing collation queue router isResponseError)
      (.initial clock clocks circuits) events state) :
    Run (WorkerStep hashing collation queue) (SystemState.initial clock)
      (events.flatMap InferenceEvent.workerEvents) state.jobs :=
  run.simulate (fun _ => True) trivial (fun _ _ _ _ _ => trivial) InferenceState.jobs
    InferenceEvent.workerEvents (fun _ _ _ _ taken => inferenceStep_worker taken)

end Runs

/-! ### Completed and failed jobs -/

section Jobs

variable [DecidableEq Digest] {hashing : Hashing ChatRequest Digest}
  {collation : JobId → JobId → Bool} {queue : JsString} {router : ProviderRouter}
  {isResponseError : Failure → Bool}

/-- The response of every completed job was given by a provider, which has been
asked with the conversation of the submission whose owner and data the job has. -/
theorem stored_response_answered {clock : Timestamp} {clocks : Nat → ℚ} {circuits : Nat → Circuits}
    {events : List (InferenceEvent Response Failure)}
    {state : InferenceState Response Failure Digest}
    (run : Run (InferenceStep hashing collation queue router isResponseError)
      (.initial clock clocks circuits) events state)
    {id : JobId} {row : JobRow ChatRequest Response Digest}
    (found : state.jobs.store.table.lookup id = some row) (status : row.status = .completed) :
    (∃ options submission, SubmittedAs hashing
      (storeHistory (events.flatMap InferenceEvent.workerEvents)) row options submission) ∧
      ∃ response, row.response = some response ∧
        ∃ worker, ∃ pass ∈ (state.routers worker).passes,
          pass.phase = .finished (.ok response) ∧
            ∃ role asked, .answered role (.ok response) ∈ pass.log ∧
              .invoked role asked ∈ pass.log ∧ AskedFor router row.data asked role := by
  obtain ⟨invariant, rows⟩ := run_concluded run
  refine ⟨(run_submitted (run_storeHistory (run_workers run))).1 id row found, ?_⟩
  cases rows id row found (by rw [status]; rfl) with
  | refused error failed => cases status.symm.trans failed
  | abandoned failed _ _ _ => cases status.symm.trans failed
  | answered response _ stored finished =>
  obtain ⟨worker, pass, member, request, finished⟩ := finished
  obtain ⟨role, asked, answered, invoked, due⟩ := finished_answered
    ((invariant.passes worker).passes pass member) ((invariant.passes worker).evidence pass member)
    finished
  exact ⟨response, stored, worker, pass, member, finished, role, asked, answered, invoked,
    request ▸ due⟩

def conversationCompleted : StoreState ChatRequest Unit JsString :=
  (exec conversationHashing JsString.le conversationClaimed
    (.complete sampleOptions 0 (dispatchMessage conversationRow) ())).2

theorem conversation_completed :
    ∃ events circuits calls,
      Run ConversationStep (.initial 0 (fun _ => 0) (fun _ _ => .initial)) events
        ⟨conversationSystem conversationCompleted [] [] [conversationDelivery (.returned .ack)],
          conversationRouters ⟨0, circuits, [conversationPass true (.finished (.ok ())) 6]⟩,
          calls⟩ := by
  obtain ⟨events, circuits, calls, run⟩ := conversation_processed true
  have completed : WorkerStep conversationHashing JsString.le sampleOptions.name
      (conversationSystem conversationClaimed [] []
        [conversationDelivery (.completing conversationJob ())]) _
      (conversationSystem conversationCompleted [] [] [conversationDelivery (.returned .ack)]) :=
    .complete _ (conversationDelivery (.completing conversationJob ())) [] [] 0 conversationJob ()
      true rfl rfl ⟨trivial, rfl⟩
  exact ⟨_, circuits, calls, run.snoc (.job _ rfl completed)⟩

theorem stored_response_answered_conversation :
    ∃ row : JobRow ChatRequest Unit JsString,
      conversationCompleted.table.lookup (jobId sampleUuid) = some row ∧
        row.response = some () ∧
          (∃ events options submission, SubmittedAs conversationHashing
            (@storeHistory ChatRequest Unit events) row options submission) ∧
          ∃ role asked, AskedFor sampleRouter row.data asked role := by
  obtain ⟨events, circuits, calls, run⟩ := conversation_completed
  obtain ⟨row, found, status⟩ : ∃ row,
      conversationCompleted.table.lookup (jobId sampleUuid) = some row ∧
        row.status = .completed := ⟨_, rfl, rfl⟩
  obtain ⟨⟨options, submission, submitted⟩, response, stored, worker, pass, _, _, role, asked, _, _,
    due⟩ := stored_response_answered run found status
  exact ⟨row, found, stored, ⟨_, options, submission, submitted⟩, role, asked, due⟩

/-- A failed job was given up: after a pass for its conversation has ended with an
error that is not retried, after the error of a pass in its last attempt, or by
`maintain`, which found its last attempt active and without its lease.  Its code is
that of the error. -/
theorem failed_job_given_up {clock : Timestamp} {clocks : Nat → ℚ} {circuits : Nat → Circuits}
    {events : List (InferenceEvent Response Failure)}
    {state : InferenceState Response Failure Digest}
    (run : Run (InferenceStep hashing collation queue router isResponseError)
      (.initial clock clocks circuits) events state)
    {id : JobId} {row : JobRow ChatRequest Response Digest}
    (found : state.jobs.store.table.lookup id = some row) (status : row.status = .failed) :
    (∃ options submission, SubmittedAs hashing
      (storeHistory (events.flatMap InferenceEvent.workerEvents)) row options submission) ∧
      claimedAttempts id (storeHistory (events.flatMap InferenceEvent.workerEvents)) =
        attemptsUpTo row.attemptsMade.toNat ∧
      ((∃ error, row.errorCode = some (processingError isResponseError error).code.text ∧
          (isRetryableProviderError error = false ∨ row.attemptsMade = row.maxAttempts) ∧
          ∃ worker, ∃ pass ∈ (state.routers worker).passes, pass.request = row.data ∧
            pass.phase = .finished (.error error) ∧
            ∀ role asked, .invoked role asked ∈ pass.log → AskedFor router row.data asked role) ∨
        row.errorCode = some JobErrorCode.jobFailed.text ∧ row.attemptsMade = row.maxAttempts ∧
          GivenUp hashing collation (storeHistory (events.flatMap InferenceEvent.workerEvents))
            state.jobs.store id row) := by
  obtain ⟨invariant, rows⟩ := run_concluded run
  have stored := run_storeHistory (run_workers run)
  refine ⟨(run_submitted stored).1 id row found,
    ((run_claimHistory stored id).present row found).1, ?_⟩
  have bounded := (invariant.system.consistent id row found).attemptsBounded
  cases rows id row found (by rw [status]; rfl) with
  | answered response completed => cases status.symm.trans completed
  | abandoned _ code last given => exact Or.inr ⟨code, le_antisymm bounded last, given⟩
  | refused error _ code last finished =>
      obtain ⟨worker, pass, member, request, finished⟩ := finished
      refine Or.inl ⟨error, code, last.imp_right (le_antisymm bounded), worker, pass, member,
        request, finished, ?_⟩
      intro role asked invoked
      rw [← request]
      exact invoked_askedFor ((invariant.passes worker).passes pass member) invoked

def conversationRefusal : JobProcessingError :=
  { code := .providerError, retryable := false }

def conversationFailed : StoreState ChatRequest Unit JsString :=
  (exec conversationHashing JsString.le conversationClaimed
    (.fail sampleOptions 0 (dispatchMessage conversationRow) conversationRefusal)).2

theorem failed_job_given_up_conversation :
    ∃ row : JobRow ChatRequest Unit JsString,
      conversationFailed.table.lookup (jobId sampleUuid) = some row ∧
        row.attemptsMade ≠ row.maxAttempts ∧
        ∃ error : Thrown Unit,
          row.errorCode = some (processingError (fun _ => false) error).code.text ∧
            isRetryableProviderError error = false := by
  obtain ⟨events, circuits, calls, run⟩ := conversation_processed false
  have failed : WorkerStep conversationHashing JsString.le sampleOptions.name
      (conversationSystem conversationClaimed [] []
        [conversationDelivery (.failing conversationJob conversationRefusal)]) _
      (conversationSystem conversationFailed [] [] [conversationDelivery (.returned .deadLetter)]) :=
    .fail _ (conversationDelivery (.failing conversationJob conversationRefusal)) [] [] 0
      conversationJob conversationRefusal (some .failed) true rfl rfl ⟨trivial, rfl⟩
  obtain ⟨row, found, status, unexhausted⟩ : ∃ row,
      conversationFailed.table.lookup (jobId sampleUuid) = some row ∧
        row.status = .failed ∧ row.attemptsMade ≠ row.maxAttempts :=
    ⟨_, rfl, rfl, by decide⟩
  obtain ⟨_, _, reason⟩ := failed_job_given_up (run.snoc (.job _ rfl failed)) found status
  rcases reason with ⟨error, code, final | exhausted, _⟩ | ⟨_, exhausted, _⟩
  · exact ⟨row, found, unexhausted, error, code, final⟩
  · exact absurd exhausted unexhausted
  · exact absurd exhausted unexhausted

end Jobs

end ModelMux.Jobs
