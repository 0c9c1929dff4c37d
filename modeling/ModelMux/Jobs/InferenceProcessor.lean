/-
Inference jobs: the workers with a routing pass for every attempt.

`execute` calls the processor in the same turn in which its claim has returned a
job, and the processor starts a routing pass without a signal.  The outcome of
the pass decides what the attempt does next.  Every worker has a router of its
own.  An attempt holds the pass that its processor has started, for the data of
its row, and goes on with the outcome of that pass.
-/

import ModelMux.Queue.AttemptFencing
import ModelMux.Queue.Submission
import ModelMux.Providers.HealthEvidence

namespace ModelMux.Jobs

open Providers Queue

variable {Response Failure Digest : Type}

/-! ### The processor -/

def errorCode : Thrown Failure → JobErrorCode
  | .providerCircuitOpenError _ _ => .providerCircuitOpen
  | .providerConnectionError _ => .providerUnavailable
  | .providerTimeoutError _ _ => .providerTimeout
  | .providerHttpError _ _ _ => .providerError
  | _ => .jobFailed

def retryAfterMs : Thrown Failure → ℚ
  | .providerCircuitOpenError _ retryAfterMs => retryAfterMs
  | _ => 0

/-- The error that the processor throws; `isResponseError` picks out the errors
that the router does not tell apart. -/
def processingError (isResponseError : Failure → Bool) (error : Thrown Failure) :
    JobProcessingError :=
  if isRetryableProviderError error then
    { code := errorCode error, retryable := true, retryAfterMs := retryAfterMs error }
  else
    match error with
    | .providerHttpError _ _ _ => { code := .providerError, retryable := false }
    | .other failure =>
        if isResponseError failure then { code := .invalidProviderResponse, retryable := false }
        else { code := .jobFailed, retryable := false }
    | _ => { code := .jobFailed, retryable := false }

def createInferenceProcessor (isResponseError : Failure → Bool) :
    Except (Thrown Failure) Response → ProcessorOutcome Response
  | .ok response => .response response
  | .error error => .processingError (processingError isResponseError error)

/-! ### The system -/

/-- `calls` gives the router and the pass of a delivery. -/
structure InferenceState (Response Failure Digest : Type) where
  jobs : SystemState ChatRequest Response Digest
  routers : Nat → RouterSystem Response Failure
  calls : Nat → Option (Nat × Nat)

inductive InferenceEvent (Response Failure : Type) where
  | job (event : WorkerEvent ChatRequest Response)
  | claim (worker : Nat) (event : WorkerEvent ChatRequest Response)
  | provide (worker : Nat) (event : RouterEvent Response Failure)
  | process (tag : Nat)

def InferenceEvent.workerEvents :
    InferenceEvent Response Failure → List (WorkerEvent ChatRequest Response)
  | .job event => [event]
  | .claim _ event => [event]
  | .provide _ _ => []
  | .process tag => [.process tag]

def returnsJob : StoreOutcome ChatRequest Response → Bool
  | .claimed (some _) => true
  | _ => false

/-- The step calls the processor, or goes on with what it has returned. -/
def callsProcessor : WorkerEvent ChatRequest Response → Bool
  | .claim _ _ event reported => reported && returnsJob event.2
  | .process _ => true
  | _ => false

def isUnsignalled : PassInput Response Failure → Bool
  | .start _ _ _ => false
  | .abort => false
  | _ => true

section Steps

variable [DecidableEq Digest] (hashing : Hashing ChatRequest Digest)
  (collation : JobId → JobId → Bool) (queue : JsString) (router : ProviderRouter)
  (isResponseError : Failure → Bool)

inductive InferenceStep : InferenceState Response Failure Digest →
    InferenceEvent Response Failure → InferenceState Response Failure Digest → Prop
  | job (state : InferenceState Response Failure Digest)
      {event : WorkerEvent ChatRequest Response} {next : SystemState ChatRequest Response Digest}
      (plain : callsProcessor event = false)
      (taken : WorkerStep hashing collation queue state.jobs event next) :
      InferenceStep state (.job event) { state with jobs := next }
  | claim (state : InferenceState Response Failure Digest) (worker tag id : Nat)
      (message : JobEnvelope) (op : StoreOp ChatRequest Response) (job : ProcessingJob ChatRequest)
      (now : ℚ) {next : SystemState ChatRequest Response Digest}
      {system : RouterSystem Response Failure}
      (taken : WorkerStep hashing collation queue state.jobs
        (.claim tag message (op, .claimed (some job)) true) next)
      (started : RouterStep router (state.routers worker) ⟨now, id, .start .chat job.data false⟩
        system) :
      InferenceStep state (.claim worker (.claim tag message (op, .claimed (some job)) true))
        { jobs := next
          routers := Function.update state.routers worker system
          calls := Function.update state.calls tag (some (worker, id)) }
  | provide (state : InferenceState Response Failure Digest) (worker : Nat)
      {event : RouterEvent Response Failure} {system : RouterSystem Response Failure}
      (unsignalled : isUnsignalled event.input = true)
      (taken : RouterStep router (state.routers worker) event system) :
      InferenceStep state (.provide worker event)
        { state with routers := Function.update state.routers worker system }
  | process (state : InferenceState Response Failure Digest)
      (delivery : Delivery ChatRequest Response) (before after : List (Delivery ChatRequest Response))
      (job : ProcessingJob ChatRequest) (worker id : Nat) (pass : Pass Response Failure)
      (outcome : Except (Thrown Failure) Response)
      (running : state.jobs.deliveries = before ++ delivery :: after)
      (phase : delivery.phase = .processing job)
      (called : state.calls delivery.tag = some (worker, id))
      (present : (state.routers worker).passes[id]? = some pass)
      (finished : pass.phase = .finished outcome) :
      InferenceStep state (.process delivery.tag)
        { state with
          jobs := { state.jobs with
            deliveries := before ++
              { delivery with
                phase := afterProcessor job (createInferenceProcessor isResponseError outcome) } ::
                  after } }

end Steps

/-! ### The invariant -/

/-- The job that a delivery has claimed and is not yet done with. -/
def job? : ExecutePhase ChatRequest Response → Option (ProcessingJob ChatRequest)
  | .processing job => some job
  | .failing job _ => some job
  | .completing job _ => some job
  | _ => none

/-- The processor has not returned, or it has returned the outcome of the pass. -/
def Returned (isResponseError : Failure → Bool) (job : ProcessingJob ChatRequest)
    (pass : Pass Response Failure) (phase : ExecutePhase ChatRequest Response) : Prop :=
  phase = .processing job ∨ ∃ outcome, pass.phase = .finished outcome ∧
    phase = afterProcessor job (createInferenceProcessor isResponseError outcome)

structure AttemptPass (isResponseError : Failure → Bool)
    (state : InferenceState Response Failure Digest) (delivery : Delivery ChatRequest Response)
    (job : ProcessingJob ChatRequest) (worker id : Nat) (pass : Pass Response Failure) : Prop where
  called : state.calls delivery.tag = some (worker, id)
  present : (state.routers worker).passes[id]? = some pass
  request : pass.request = job.data
  outcome : Returned isResponseError job pass delivery.phase

structure AttemptHeld (isResponseError : Failure → Bool)
    (state : InferenceState Response Failure Digest) (delivery : Delivery ChatRequest Response)
    (job : ProcessingJob ChatRequest) : Prop where
  issued : delivery.message.id ∈ state.jobs.store.issued
  data : ∀ row, state.jobs.store.table.lookup delivery.message.id = some row → row.data = job.data
  pass : ∃ worker id pass, AttemptPass isResponseError state delivery job worker id pass

structure InferenceInvariant (queue : JsString) (router : ProviderRouter)
    (isResponseError : Failure → Bool) (state : InferenceState Response Failure Digest) : Prop where
  system : SystemInvariant queue state.jobs
  rows : RowsIssued state.jobs.store
  history : ∃ events, DeliveriesHistory events state.jobs
  passes : ∀ worker, PassesHeld router (state.routers worker)
  attempts : ∀ delivery ∈ state.jobs.deliveries, ∀ job, job? delivery.phase = some job →
    AttemptHeld isResponseError state delivery job

/-! ### Passes go on -/

theorem request_call (pass : Pass Response Failure) (role : TargetRole) (target : ProviderTarget)
    (data : ChatRequest) (circuits : Circuits) (now : ℚ) :
    (pass.call role target data circuits now).1.request = pass.request := by
  simp only [Pass.call]
  split
  · rfl
  · simp only [Pass.operate]
    split_ifs <;> rfl

theorem request_leave (pass : Pass Response Failure) (role : TargetRole) (target : ProviderTarget)
    (outcome : Except (Thrown Failure) Response) :
    (pass.leave role target outcome).request = pass.request := by
  simp only [Pass.leave, Pass.recordMetrics]
  split_ifs <;> rfl

theorem request_route (router : ProviderRouter) (pass : Pass Response Failure)
    (outcome : Except (Thrown Failure) Response) (circuits : Circuits) (now : ℚ) :
    (pass.route router outcome circuits now).1.request = pass.request := by
  unfold Pass.route
  split
  · rfl
  · split_ifs
    · rfl
    · split
      · rfl
      · rw [request_call]
        rfl

theorem consume_kept (pass : Pass Response Failure) (role : TargetRole) (content : JsString) :
    (pass.consume role content).request = pass.request ∧
      (pass.consume role content).phase = pass.phase := by
  unfold Pass.consume
  split
  · exact ⟨rfl, rfl⟩
  · split_ifs <;> exact ⟨rfl, rfl⟩

theorem passStep_kept {router : ProviderRouter} {now : ℚ} {pass next : Pass Response Failure}
    {circuits circuits' : Circuits} {input : PassInput Response Failure}
    (taken : PassStep router now pass circuits input next circuits') :
    next.request = pass.request ∧
      ∀ outcome, pass.phase = .finished outcome → next.phase = .finished outcome := by
  cases taken with
  | abort => exact ⟨rfl, fun _ finished => finished⟩
  | consume allowed =>
      obtain ⟨request, phase⟩ := consume_kept pass _ _
      exact ⟨request, fun _ finished => phase.trans finished⟩
  | deliver writing => exact ⟨rfl, fun _ finished => finished⟩
  | answer stopped => exact ⟨rfl, fun _ finished => by cases stopped.symm.trans finished⟩
  | execute stopped => exact ⟨rfl, fun _ finished => by cases stopped.symm.trans finished⟩
  | call stopped =>
      exact ⟨request_leave _ _ _ _, fun _ finished => by cases stopped.symm.trans finished⟩
  | route stopped =>
      exact ⟨request_route _ _ _ _ _, fun _ finished => by cases stopped.symm.trans finished⟩

variable {router : ProviderRouter} {system later : RouterSystem Response Failure}
  {event : RouterEvent Response Failure}

theorem routerStep_kept (taken : RouterStep router system event later) {id : Nat}
    {pass : Pass Response Failure} (present : system.passes[id]? = some pass) :
    ∃ next, later.passes[id]? = some next ∧ next.request = pass.request ∧
      ∀ outcome, pass.phase = .finished outcome → next.phase = .finished outcome := by
  cases taken with
  | start clock started =>
      obtain ⟨inside, _⟩ := List.getElem?_eq_some_iff.mp present
      exact ⟨pass, by rw [List.getElem?_append_left inside, present], rfl, fun _ same => same⟩
  | @step now index old next input circuits clock found taken =>
      obtain ⟨bound, _⟩ := List.getElem?_eq_some_iff.mp found
      by_cases same : index = id
      · subst same
        cases found.symm.trans present
        obtain ⟨request, finished⟩ := passStep_kept taken
        exact ⟨next, by simp [bound], request, finished⟩
      · exact ⟨pass, by rw [List.getElem?_set_ne same, present], rfl, fun _ same => same⟩

variable {routers : Nat → RouterSystem Response Failure} {worker : Nat}

theorem routers_kept (taken : RouterStep router (routers worker) event later) {other id : Nat}
    {pass : Pass Response Failure} (present : (routers other).passes[id]? = some pass) :
    ∃ next, (Function.update routers worker later other).passes[id]? = some next ∧
      next.request = pass.request ∧
      ∀ outcome, pass.phase = .finished outcome → next.phase = .finished outcome := by
  by_cases same : other = worker
  · subst same
    rw [Function.update_self]
    exact routerStep_kept taken present
  · rw [Function.update_of_ne same]
    exact ⟨pass, present, rfl, fun _ same => same⟩

theorem passesHeld_update (held : ∀ worker, PassesHeld router (routers worker))
    (taken : RouterStep router (routers worker) event later) (other : Nat) :
    PassesHeld router (Function.update routers worker later other) := by
  by_cases same : other = worker
  · subst same
    rw [Function.update_self]
    exact (held other).step taken
  · rw [Function.update_of_ne same]
    exact held other

/-! ### Rows and deliveries -/

section Jobs

variable [DecidableEq Digest] {hashing : Hashing ChatRequest Digest}
  {collation : JobId → JobId → Bool} {queue : JsString}
  {jobs next : SystemState ChatRequest Response Digest}
  {jobEvent : WorkerEvent ChatRequest Response}

/-- The data of an id that has been issued never change. -/
theorem data_kept (invariant : SystemInvariant queue jobs)
    (taken : WorkerStep hashing collation queue jobs jobEvent next) {id : JobId}
    {data : ChatRequest} (issued : id ∈ jobs.store.issued)
    (known : ∀ row, jobs.store.table.lookup id = some row → row.data = data) :
    id ∈ next.store.issued ∧
      ∀ row, next.store.table.lookup id = some row → row.data = data := by
  rcases workerStep_store invariant taken with ⟨_, same⟩ | ⟨storeEvent, _, stepped⟩
  · rw [same]
    exact ⟨issued, known⟩
  · refine ⟨storeStep_issued hashing collation stepped id issued, ?_⟩
    intro row found
    rcases (storeStep_rowStep hashing collation stepped id).submission_cases.2 row found with
      ⟨old, before, same⟩ | ⟨budget, announced⟩
    · exact same.data.trans (known old before)
    · exact absurd issued (rowLabel_inserted stepped announced).1

omit [DecidableEq Digest] in
theorem plain_delivery (change : DeliveryChange jobs jobEvent next)
    (plain : callsProcessor jobEvent = false) {delivery : Delivery ChatRequest Response}
    (member : delivery ∈ next.deliveries) {job : ProcessingJob ChatRequest}
    (claimed : job? delivery.phase = some job) :
    ∃ old ∈ jobs.deliveries, old.tag = delivery.tag ∧ old.message = delivery.message ∧
      old.phase = delivery.phase := by
  have kept (present : delivery ∈ jobs.deliveries) : ∃ old ∈ jobs.deliveries,
      old.tag = delivery.tag ∧ old.message = delivery.message ∧ old.phase = delivery.phase :=
    ⟨delivery, present, rfl, rfl, rfl⟩
  have removed {before after : List (Delivery ChatRequest Response)}
      {gone : Delivery ChatRequest Response} (running : jobs.deliveries = before ++ gone :: after)
      (present : delivery ∈ before ++ after) : delivery ∈ jobs.deliveries := by
    rw [running]
    exact (List.Sublist.append_left (List.sublist_cons_self gone after) before).subset present
  cases change with
  | same silent deliveries nextTag => exact kept (deliveries ▸ member)
  | received new tag phase deliveries nextTag =>
      rw [deliveries, List.mem_cons] at member
      rcases member with rfl | old
      · rw [phase] at claimed
        cases claimed
      · exact kept old
  | moved before after old later running deliveries nextTag tag message step =>
      rw [deliveries, List.mem_append, List.mem_cons] at member
      rcases member with inBefore | rfl | inAfter
      · exact kept (removed running (List.mem_append_left _ inBefore))
      · generalize first : old.phase = begun at step
        generalize second : delivery.phase = ended at step claimed
        cases step with
        | claimed op given =>
            cases given with
            | none => cases claimed
            | some job => cases plain
        | processed => cases plain
        | detached =>
            exact ⟨old, by simp [running], tag.symm, message.symm, first⟩
        | claimLost | completed | completeLost | failed | failLost | errored => cases claimed
      · exact kept (removed running (List.mem_append_right _ inAfter))
  | settled before after old action running deliveries nextTag phase =>
      exact kept (removed running (deliveries ▸ member))
  | crashed before after old running deliveries nextTag =>
      exact kept (removed running (deliveries ▸ member))

/-- The step that calls the processor: one delivery begins to hold its job. -/
theorem claimed_delivery (history : ∃ events, DeliveriesHistory events jobs) {tag : Nat}
    {message : JobEnvelope} {op : StoreOp ChatRequest Response} {job : ProcessingJob ChatRequest}
    (taken : WorkerStep hashing collation queue jobs
      (.claim tag message (op, .claimed (some job)) true) next)
    {delivery : Delivery ChatRequest Response} (member : delivery ∈ next.deliveries) :
    (delivery.tag = tag ∧ delivery.message = message ∧ delivery.phase = .processing job) ∨
      (delivery ∈ jobs.deliveries ∧ delivery.tag ≠ tag) := by
  obtain ⟨events, issued⟩ := history
  have tagsOnce := issued.tagsOnce
  cases taken with
  | claim old before after now _ _ running phase received started unlocked taken =>
      rw [running] at tagsOnce
      simp only [List.mem_append, List.mem_cons] at member
      rcases member with inBefore | rfl | inAfter
      · exact Or.inr ⟨by simp [running, inBefore],
          tag_ne_of_nodup tagsOnce (List.mem_append_left _ inBefore)⟩
      · exact Or.inl ⟨rfl, rfl, rfl⟩
      · exact Or.inr ⟨by simp [running, inAfter],
          tag_ne_of_nodup tagsOnce (List.mem_append_right _ inAfter)⟩

theorem claim_data {tag : Nat} {message : JobEnvelope} {op : StoreOp ChatRequest Response}
    {job : ProcessingJob ChatRequest} {reported : Bool}
    (taken : WorkerStep hashing collation queue jobs
      (.claim tag message (op, .claimed (some job)) reported) next) :
    ∃ row, next.store.table.lookup message.id = some row ∧ row.data = job.data := by
  cases taken with
  | claim delivery before after now _ _ running phase received started unlocked taken =>
      have executed := taken.2
      simp only [exec, Prod.mk.injEq, StoreOutcome.claimed.injEq] at executed
      obtain ⟨answered, stored⟩ := executed
      rcases claim_cases delivery.options now delivery.message jobs.store.table with
        ⟨missing, _⟩ | ⟨row, _, _, returned, updated, _⟩
      · rw [missing] at answered
        cases answered
      · rw [returned] at answered
        cases answered
        rw [← stored]
        exact ⟨_, updated, rfl⟩

end Jobs

/-! ### Steps -/

section Steps

variable [DecidableEq Digest] {hashing : Hashing ChatRequest Digest}
  {collation : JobId → JobId → Bool} {queue : JsString} {isResponseError : Failure → Bool}
  {state next : InferenceState Response Failure Digest}

omit [DecidableEq Digest] in
/-- An attempt is held as before if its delivery and its pass are. -/
theorem AttemptHeld.carry {delivery later : Delivery ChatRequest Response}
    {job : ProcessingJob ChatRequest} (held : AttemptHeld isResponseError state delivery job)
    (tag : delivery.tag = later.tag) (phase : delivery.phase = later.phase)
    (calls : next.calls later.tag = state.calls later.tag)
    (issued : later.message.id ∈ next.jobs.store.issued)
    (data : ∀ row, next.jobs.store.table.lookup later.message.id = some row → row.data = job.data)
    (kept : ∀ (worker id : Nat) pass, (state.routers worker).passes[id]? = some pass →
      ∃ now, (next.routers worker).passes[id]? = some now ∧ now.request = pass.request ∧
        ∀ outcome, pass.phase = .finished outcome → now.phase = .finished outcome) :
    AttemptHeld isResponseError next later job := by
  obtain ⟨worker, id, pass, attempt⟩ := held.pass
  obtain ⟨now, found, request, stays⟩ := kept worker id pass attempt.present
  refine ⟨issued, data, worker, id, now, ?_, found, request.trans attempt.request, ?_⟩
  · rw [calls, ← tag]
    exact attempt.called
  · rw [← phase]
    rcases attempt.outcome with processing | ⟨outcome, finished, returned⟩
    · exact Or.inl processing
    · exact Or.inr ⟨outcome, stays outcome finished, returned⟩

theorem InferenceInvariant.history_step
    (invariant : InferenceInvariant queue router isResponseError state)
    {event : WorkerEvent ChatRequest Response} {jobs : SystemState ChatRequest Response Digest}
    (taken : WorkerStep hashing collation queue state.jobs event jobs) :
    ∃ events, DeliveriesHistory events jobs := by
  obtain ⟨events, history⟩ := invariant.history
  exact ⟨_, history.step (workerStep_deliveries taken)⟩

theorem InferenceInvariant.job
    (invariant : InferenceInvariant queue router isResponseError state)
    {event : WorkerEvent ChatRequest Response} {jobs : SystemState ChatRequest Response Digest}
    (plain : callsProcessor event = false)
    (taken : WorkerStep hashing collation queue state.jobs event jobs) :
    InferenceInvariant queue router isResponseError { state with jobs := jobs } where
  system := workerStep_invariant invariant.system taken
  rows := workerStep_rowsIssued invariant.system invariant.rows taken
  history := invariant.history_step taken
  passes := invariant.passes
  attempts := by
    intro delivery member job claimed
    obtain ⟨old, present, tag, message, phase⟩ :=
      plain_delivery (workerStep_deliveries taken) plain member claimed
    have held := invariant.attempts old present job (by rw [phase]; exact claimed)
    obtain ⟨issued, data⟩ := data_kept invariant.system taken held.issued held.data
    refine held.carry tag phase rfl (message ▸ issued) (message ▸ data) ?_
    intro worker id pass present
    exact ⟨pass, present, rfl, fun _ same => same⟩

omit [DecidableEq Digest] in
theorem InferenceInvariant.provide
    (invariant : InferenceInvariant queue router isResponseError state)
    {worker : Nat} {event : RouterEvent Response Failure}
    {system : RouterSystem Response Failure}
    (taken : RouterStep router (state.routers worker) event system) :
    InferenceInvariant queue router isResponseError
      { state with routers := Function.update state.routers worker system } where
  system := invariant.system
  rows := invariant.rows
  history := invariant.history
  passes := passesHeld_update invariant.passes taken
  attempts := by
    intro delivery member job claimed
    have held := invariant.attempts delivery member job claimed
    exact held.carry rfl rfl rfl held.issued held.data
      (fun _ _ _ present => routers_kept taken present)

theorem started_pass {system later : RouterSystem Response Failure} {now : ℚ} {id : Nat}
    {request : ChatRequest}
    (taken : RouterStep router system ⟨now, id, .start .chat request false⟩ later) :
    ∃ pass, later.passes[id]? = some pass ∧ pass.request = request := by
  cases taken with
  | @start _ _ _ _ pass circuits clock started =>
      refine ⟨pass, by simp, ?_⟩
      have first := congrArg (fun result => result.1.request) started
      simp only [Pass.start, Bool.false_eq_true, if_false, request_call, Pass.initial] at first
      exact first.symm
  | step clock present taken => cases taken

theorem InferenceInvariant.claim
    (invariant : InferenceInvariant queue router isResponseError state)
    {worker tag id : Nat} {message : JobEnvelope} {op : StoreOp ChatRequest Response}
    {job : ProcessingJob ChatRequest} {now : ℚ} {jobs : SystemState ChatRequest Response Digest}
    {system : RouterSystem Response Failure}
    (taken : WorkerStep hashing collation queue state.jobs
      (.claim tag message (op, .claimed (some job)) true) jobs)
    (started : RouterStep router (state.routers worker) ⟨now, id, .start .chat job.data false⟩
      system) :
    InferenceInvariant queue router isResponseError
      { jobs := jobs
        routers := Function.update state.routers worker system
        calls := Function.update state.calls tag (some (worker, id)) } where
  system := workerStep_invariant invariant.system taken
  rows := workerStep_rowsIssued invariant.system invariant.rows taken
  history := invariant.history_step taken
  passes := passesHeld_update invariant.passes started
  attempts := by
    intro delivery member held claimed
    rcases claimed_delivery invariant.history taken member with
      ⟨rfl, rfl, phase⟩ | ⟨present, different⟩
    · rw [phase] at claimed
      cases claimed
      obtain ⟨pass, found, request⟩ := started_pass started
      obtain ⟨row, stored, data⟩ := claim_data taken
      have issued := workerStep_rowsIssued invariant.system invariant.rows taken
        delivery.message.id (by simp [stored])
      refine ⟨issued, ?_, worker, id, pass, by simp, by simp [found], request, ?_⟩
      · intro other same
        cases stored.symm.trans same
        exact data
      · exact Or.inl phase
    · have old := invariant.attempts delivery present held claimed
      obtain ⟨issued, data⟩ := data_kept invariant.system taken old.issued old.data
      exact old.carry rfl rfl (Function.update_of_ne different _ _) issued data
        (fun _ _ _ present => routers_kept started present)

theorem InferenceInvariant.process
    (invariant : InferenceInvariant queue router isResponseError state)
    {delivery : Delivery ChatRequest Response} {before after : List (Delivery ChatRequest Response)}
    {job : ProcessingJob ChatRequest} {worker id : Nat} {pass : Pass Response Failure}
    {outcome : Except (Thrown Failure) Response}
    (running : state.jobs.deliveries = before ++ delivery :: after)
    (called : state.calls delivery.tag = some (worker, id))
    (present : (state.routers worker).passes[id]? = some pass)
    (finished : pass.phase = .finished outcome) {jobs : SystemState ChatRequest Response Digest}
    (deliveries : jobs.deliveries = before ++
      { delivery with
        phase := afterProcessor job (createInferenceProcessor isResponseError outcome) } :: after)
    (store : jobs.store = state.jobs.store)
    (phase : delivery.phase = .processing job)
    (taken : WorkerStep hashing collation queue state.jobs (.process delivery.tag) jobs) :
    InferenceInvariant queue router isResponseError { state with jobs := jobs } where
  system := workerStep_invariant invariant.system taken
  rows := workerStep_rowsIssued invariant.system invariant.rows taken
  history := invariant.history_step taken
  passes := invariant.passes
  attempts := by
    have stay : ∀ (worker id : Nat) pass, (state.routers worker).passes[id]? = some pass →
        ∃ now, (state.routers worker).passes[id]? = some now ∧ now.request = pass.request ∧
          ∀ outcome, pass.phase = .finished outcome → now.phase = .finished outcome :=
      fun _ _ pass present => ⟨pass, present, rfl, fun _ same => same⟩
    have others (other : Delivery ChatRequest Response) (held : ProcessingJob ChatRequest)
        (member : other ∈ state.jobs.deliveries) (claimed : job? other.phase = some held) :
        AttemptHeld isResponseError { state with jobs := jobs } other held := by
      have old := invariant.attempts other member held claimed
      exact old.carry rfl rfl rfl (store ▸ old.issued) (store ▸ old.data) stay
    intro other member held claimed
    rw [deliveries, List.mem_append, List.mem_cons] at member
    rcases member with inBefore | rfl | inAfter
    · exact others other held (by simp [running, inBefore]) claimed
    · have old := invariant.attempts delivery (by simp [running]) job (by rw [phase]; rfl)
      obtain ⟨otherWorker, otherId, otherPass, attempt⟩ := old.pass
      cases attempt.called.symm.trans called
      cases attempt.present.symm.trans present
      have sameJob : held = job := by
        cases outcome <;> cases claimed <;> rfl
      subst sameJob
      exact ⟨store ▸ old.issued, store ▸ old.data, worker, id, pass, called, present,
        attempt.request, Or.inr ⟨outcome, finished, rfl⟩⟩
    · exact others other held (by simp [running, inAfter]) claimed

theorem InferenceInvariant.step
    (invariant : InferenceInvariant queue router isResponseError state)
    {event : InferenceEvent Response Failure}
    (taken : InferenceStep hashing collation queue router isResponseError state event next) :
    InferenceInvariant queue router isResponseError next := by
  cases taken with
  | job plain taken => exact invariant.job plain taken
  | claim worker tag id message op job now taken started => exact invariant.claim taken started
  | provide worker unsignalled taken => exact invariant.provide taken
  | process delivery before after job worker id pass outcome running phase called present
      finished =>
      have stepped : WorkerStep hashing collation queue state.jobs (.process delivery.tag) _ :=
        .process state.jobs delivery before after job (createInferenceProcessor isResponseError outcome)
          running phase
      exact invariant.process running called present finished rfl rfl phase stepped

theorem inferenceStep_worker {event : InferenceEvent Response Failure}
    (taken : InferenceStep hashing collation queue router isResponseError state event next) :
    Run (WorkerStep hashing collation queue) state.jobs event.workerEvents next.jobs := by
  cases taken with
  | job plain taken => exact .single taken
  | claim worker tag id message op job now taken started => exact .single taken
  | provide worker unsignalled taken => exact .refl _
  | process delivery before after job worker id pass outcome running phase called present
      finished =>
      exact .single (.process state.jobs delivery before after job
        (createInferenceProcessor isResponseError outcome) running phase)

end Steps

/-! ### Runs -/

def InferenceState.initial (clock : Timestamp) (clocks : Nat → ℚ) (circuits : Nat → Circuits) :
    InferenceState Response Failure Digest :=
  { jobs := SystemState.initial clock
    routers := fun worker => RouterSystem.initial (clocks worker) (circuits worker)
    calls := fun _ => none }

theorem InferenceInvariant.initial (queue : JsString) (router : ProviderRouter)
    (clock : Timestamp) (clocks : Nat → ℚ) (circuits : Nat → Circuits) :
    InferenceInvariant queue router isResponseError
      (InferenceState.initial clock clocks circuits : InferenceState Response Failure Digest) where
  system := SystemInvariant.initial queue clock
  rows := by
    intro id present
    exact absurd rfl present
  history := ⟨[], DeliveriesHistory.initial clock⟩
  passes := fun worker => ⟨by simp [InferenceState.initial, RouterSystem.initial],
    by simp [InferenceState.initial, RouterSystem.initial]⟩
  attempts := by
    intro delivery member
    cases member

section Runs

variable [DecidableEq Digest] {hashing : Hashing ChatRequest Digest}
  {collation : JobId → JobId → Bool} {queue : JsString} {isResponseError : Failure → Bool}

theorem jobs_run {first last : SystemState ChatRequest Response Digest}
    {events : List (WorkerEvent ChatRequest Response)}
    (run : Run (WorkerStep hashing collation queue) first events last)
    (plain : ∀ event ∈ events, callsProcessor event = false)
    (routers : Nat → RouterSystem Response Failure) (calls : Nat → Option (Nat × Nat)) :
    Run (InferenceStep hashing collation queue router isResponseError) ⟨first, routers, calls⟩
      (events.map .job) ⟨last, routers, calls⟩ := by
  induction run with
  | refl => exact .refl _
  | @snoc middle last events event before taken ih =>
      rw [List.map_append]
      exact .snoc (ih fun event member => plain event (List.mem_append_left _ member))
        (.job ⟨middle, routers, calls⟩ (plain event (by simp)) taken)

theorem routers_run {first last : RouterSystem Response Failure}
    {events : List (RouterEvent Response Failure)} (run : Run (RouterStep router) first events last)
    (unsignalled : ∀ event ∈ events, isUnsignalled event.input = true) (worker : Nat)
    (jobs : SystemState ChatRequest Response Digest) (calls : Nat → Option (Nat × Nat)) :
    Run (InferenceStep hashing collation queue router isResponseError)
      ⟨jobs, Function.update routers worker first, calls⟩ (events.map (.provide worker))
      ⟨jobs, Function.update routers worker last, calls⟩ := by
  induction run with
  | refl => exact .refl _
  | @snoc middle last events event before taken ih =>
      rw [List.map_append]
      have stepped : InferenceStep hashing collation queue router isResponseError
          ⟨jobs, Function.update routers worker middle, calls⟩ (.provide worker event) _ :=
        .provide _ worker (unsignalled event (by simp)) (by simpa using taken)
      simp only [Function.update_idem] at stepped
      exact .snoc (ih fun event member => unsignalled event (List.mem_append_left _ member)) stepped

end Runs

/-! ### A completed conversation -/

def sampleConversation : ChatRequest := ⟨[0x61], []⟩

def conversationHashing : Hashing ChatRequest JsString :=
  { key := id, payload := ChatRequest.model }

def conversationSubmission : JobSubmission ChatRequest :=
  { ownerId := JsString.ofString "owner-1"
    requestId := JsString.ofString "request-1"
    idempotencyKey := JsString.ofString "key-1"
    data := sampleConversation }

def conversationRow : JobRow ChatRequest Unit JsString :=
  newRow conversationHashing sampleOptions 0 sampleUuid conversationSubmission

def conversationStore : StoreState ChatRequest Unit JsString :=
  (exec conversationHashing JsString.le StoreState.initial
    (.insert 0 sampleOptions 0 sampleUuid conversationSubmission)).2

def conversationTransaction (phase : DispatchPhase) : Transaction :=
  { options := sampleOptions, now := 0, message := dispatchMessage conversationRow, phase := phase }

def conversationText : JsString := stringifyEnvelope (dispatchMessage conversationRow)

def conversationDelivery (phase : ExecutePhase ChatRequest Unit) : Delivery ChatRequest Unit :=
  { tag := 0
    options := sampleOptions
    content := conversationText
    message := dispatchMessage conversationRow
    deliveredAt := 0
    attached := true
    phase := phase }

def conversationSystem (store : StoreState ChatRequest Unit JsString)
    (phases : List DispatchPhase) (ready : List JsString)
    (deliveries : List (Delivery ChatRequest Unit)) : SystemState ChatRequest Unit JsString :=
  { clock := 0
    store := store
    transactions := phases.map conversationTransaction
    ready := ready
    deliveries := deliveries
    nextTag := deliveries.length }

def conversationDispatched : StoreState ChatRequest Unit JsString :=
  { conversationStore with
    table := dispatchMark (dispatchMessage conversationRow).id conversationStore.table }

def conversationClaimed : StoreState ChatRequest Unit JsString :=
  (exec conversationHashing JsString.le conversationDispatched
    (.claim sampleOptions 0 (dispatchMessage conversationRow))).2

def conversationJob : ProcessingJob ChatRequest :=
  processingJob 0 (claimSet sampleOptions 0 (dispatchMessage conversationRow)
    (dispatchSet conversationRow))

/-- The primary accepts the conversation, or refuses it for good. -/
def conversationOutcome (accepted : Bool) : Except (Thrown Unit) Unit :=
  if accepted then .ok () else .error (.providerHttpError "ollama" (.finite 400) none)

def conversationLog (accepted : Bool) : List (PassEvent Unit Unit) :=
  [.tried .primary sampleConversation, .metric (.providerStart "ollama" .chat),
    .invoked .primary sampleConversation, .answered .primary (conversationOutcome accepted),
    .metric (.providerEnd "ollama" .chat (Pass.providerOutcome (conversationOutcome accepted))),
    .concluded .primary (conversationOutcome accepted)]

def conversationPass (accepted : Bool) (phase : PassPhase Unit Unit) (count : Nat) :
    Pass Unit Unit :=
  samplePass phase ((conversationLog accepted).take count)

def conversationEvents : List (WorkerEvent ChatRequest Unit) :=
  [.gateway (.insert 0 sampleOptions 0 sampleUuid conversationSubmission,
      .enqueued (.ok ⟨jobId sampleUuid, conversationSubmission.requestId⟩)),
    .begin, .publish, .mark,
    .commit (commitOp conversationStore.table (conversationTransaction .marked),
      .dispatched (some (dispatchMessage conversationRow))),
    .deliver 0 (dispatchMessage conversationRow)]

theorem conversationEvents_plain : ∀ event ∈ conversationEvents, callsProcessor event = false := by
  simp [conversationEvents, callsProcessor]

theorem conversation_dispatched :
    Run (WorkerStep conversationHashing JsString.le sampleOptions.name) (SystemState.initial 0)
      conversationEvents
      (conversationSystem conversationDispatched [] [] [conversationDelivery .claiming]) := by
  have selected : dispatchSelect JsString.le sampleOptions 0 [] conversationStore.table =
      some conversationRow := rfl
  have inserted : WorkerStep conversationHashing JsString.le sampleOptions.name
      (SystemState.initial 0)
      (.gateway (.insert 0 sampleOptions 0 sampleUuid conversationSubmission,
        .enqueued (.ok ⟨jobId sampleUuid, conversationSubmission.requestId⟩)))
      (conversationSystem conversationStore [] [] []) :=
    .gateway (SystemState.initial 0) rfl ⟨by decide, rfl⟩
  have begun : WorkerStep conversationHashing JsString.le sampleOptions.name
      (conversationSystem conversationStore [] [] []) .begin
      (conversationSystem conversationStore [.selected] [] []) :=
    .begin _ sampleOptions 0 conversationRow rfl le_rfl selected
  have published : WorkerStep conversationHashing JsString.le sampleOptions.name
      (conversationSystem conversationStore [.selected] [] []) .publish
      (conversationSystem conversationStore [.published] [conversationText] []) :=
    .publish _ (conversationTransaction .selected) [] [] rfl rfl
  have marked : WorkerStep conversationHashing JsString.le sampleOptions.name
      (conversationSystem conversationStore [.published] [conversationText] []) .mark
      (conversationSystem conversationStore [.marked] [conversationText] []) :=
    .mark _ (conversationTransaction .published) [] [] rfl rfl
  have committed : WorkerStep conversationHashing JsString.le sampleOptions.name
      (conversationSystem conversationStore [.marked] [conversationText] []) _
      (conversationSystem conversationDispatched [] [conversationText] []) :=
    .commit _ (conversationTransaction .marked) [] [] rfl rfl
  have delivered : WorkerStep conversationHashing JsString.le sampleOptions.name
      (conversationSystem conversationDispatched [] [conversationText] []) _
      (conversationSystem conversationDispatched [] [] [conversationDelivery .claiming]) :=
    .deliver _ sampleOptions conversationText (dispatchMessage conversationRow) [] [] rfl rfl
      (by decide +kernel)
  exact (((((Run.single inserted).snoc begun).snoc published).snoc marked).snoc committed).snoc
    delivered

theorem conversation_claimed :
    WorkerStep conversationHashing JsString.le sampleOptions.name
      (conversationSystem conversationDispatched [] [] [conversationDelivery .claiming])
      (.claim 0 (dispatchMessage conversationRow)
        (.claim sampleOptions 0 (dispatchMessage conversationRow),
          .claimed (some conversationJob)) true)
      (conversationSystem conversationClaimed [] []
        [conversationDelivery (.processing conversationJob)]) :=
  .claim _ (conversationDelivery .claiming) [] [] 0 (some conversationJob) true rfl rfl le_rfl
    le_rfl (fun _ _ _ => List.not_mem_nil) ⟨trivial, rfl⟩

theorem conversation_started (accepted : Bool) :
    RouterStep sampleRouter (RouterSystem.initial 0 (fun _ => .initial))
      ⟨0, 0, .start .chat conversationJob.data false⟩
      ⟨0, sampleCircuits,
        [conversationPass accepted (.operating .primary sampleRouter.primary 0) 3]⟩ :=
  .start le_rfl rfl

theorem conversation_answered (accepted : Bool) (circuits : Circuits) :
    ∃ events circuits', (∀ event ∈ events, isUnsignalled event.input = true) ∧
      Run (RouterStep sampleRouter)
        ⟨0, circuits, [conversationPass accepted (.operating .primary sampleRouter.primary 0) 3]⟩
        events
        ⟨0, circuits', [conversationPass accepted (.finished (conversationOutcome accepted)) 6]⟩ := by
  have answered : RouterStep sampleRouter
      ⟨0, circuits, [conversationPass accepted (.operating .primary sampleRouter.primary 0) 3]⟩
      ⟨0, 0, .answer (conversationOutcome accepted)⟩
      ⟨0, circuits, [conversationPass accepted
        (.executing .primary sampleRouter.primary 0 (conversationOutcome accepted)) 4]⟩ := by
    cases accepted <;> exact .step le_rfl rfl (.answer rfl)
  have executed : RouterStep sampleRouter
      ⟨0, circuits, [conversationPass accepted
        (.executing .primary sampleRouter.primary 0 (conversationOutcome accepted)) 4]⟩
      ⟨0, 0, .resume⟩
      ⟨0, _, [conversationPass accepted
        (.calling .primary sampleRouter.primary (conversationOutcome accepted)) 4]⟩ :=
    .step le_rfl rfl (.execute rfl)
  have leaves : (conversationPass accepted
        (.calling .primary sampleRouter.primary (conversationOutcome accepted)) 4).leave .primary
          sampleRouter.primary (conversationOutcome accepted) =
      conversationPass accepted (.routing (conversationOutcome accepted)) 6 := by
    cases accepted <;> rfl
  have left : ∀ circuits, RouterStep sampleRouter
      ⟨0, circuits, [conversationPass accepted
        (.calling .primary sampleRouter.primary (conversationOutcome accepted)) 4]⟩
      ⟨0, 0, .resume⟩
      ⟨0, circuits, [conversationPass accepted (.routing (conversationOutcome accepted)) 6]⟩ := by
    intro circuits
    rw [← leaves]
    exact .step le_rfl rfl (.call rfl)
  have routes : ∀ circuits, (conversationPass accepted
        (.routing (conversationOutcome accepted)) 6).route sampleRouter
          (conversationOutcome accepted) circuits 0 =
      (conversationPass accepted (.finished (conversationOutcome accepted)) 6, circuits) := by
    intro circuits
    cases accepted <;> rfl
  have routed : ∀ circuits, RouterStep sampleRouter
      ⟨0, circuits, [conversationPass accepted (.routing (conversationOutcome accepted)) 6]⟩
      ⟨0, 0, .resume⟩
      ⟨0, circuits, [conversationPass accepted (.finished (conversationOutcome accepted)) 6]⟩ := by
    intro circuits
    have taken := @PassStep.route _ _ sampleRouter 0
      (conversationPass accepted (.routing (conversationOutcome accepted)) 6) circuits
      (conversationOutcome accepted) rfl
    rw [routes] at taken
    exact .step le_rfl rfl taken
  exact ⟨_, _, List.all_iff_forall_prop.mp (by rfl),
    (((Run.single answered).snoc executed).snoc (left _)).snoc (routed _)⟩

def conversationRouters (system : RouterSystem Unit Unit) : Nat → RouterSystem Unit Unit :=
  Function.update (fun _ => RouterSystem.initial 0 (fun _ => .initial)) 0 system

abbrev ConversationStep : InferenceState Unit Unit JsString → InferenceEvent Unit Unit →
    InferenceState Unit Unit JsString → Prop :=
  InferenceStep conversationHashing JsString.le sampleOptions.name sampleRouter (fun _ => false)

theorem conversation_processed (accepted : Bool) :
    ∃ events circuits calls,
      Run ConversationStep (.initial 0 (fun _ => 0) (fun _ _ => .initial)) events
        ⟨conversationSystem conversationClaimed [] [] [conversationDelivery
            (afterProcessor conversationJob (createInferenceProcessor (fun _ => false)
              (conversationOutcome accepted)))],
          conversationRouters ⟨0, circuits,
            [conversationPass accepted (.finished (conversationOutcome accepted)) 6]⟩,
          calls⟩ := by
  obtain ⟨answering, circuits, unsignalled, answered⟩ :=
    conversation_answered accepted sampleCircuits
  have called : ConversationStep
      ⟨conversationSystem conversationDispatched [] [] [conversationDelivery .claiming],
        fun _ => RouterSystem.initial 0 (fun _ => .initial), fun _ => none⟩ _
      ⟨conversationSystem conversationClaimed [] []
          [conversationDelivery (.processing conversationJob)],
        conversationRouters _, Function.update (fun _ => none) 0 (some (0, 0))⟩ :=
    .claim _ 0 0 0 _ _ conversationJob 0 conversation_claimed (conversation_started accepted)
  have processed : ConversationStep
      ⟨conversationSystem conversationClaimed [] []
          [conversationDelivery (.processing conversationJob)],
        conversationRouters ⟨0, circuits,
          [conversationPass accepted (.finished (conversationOutcome accepted)) 6]⟩,
        Function.update (fun _ => none) 0 (some (0, 0))⟩ _
      ⟨conversationSystem conversationClaimed [] [] [conversationDelivery
          (afterProcessor conversationJob (createInferenceProcessor (fun _ => false)
            (conversationOutcome accepted)))], _, _⟩ :=
    .process _ (conversationDelivery (.processing conversationJob)) [] [] conversationJob 0 0 _
      (conversationOutcome accepted) rfl rfl rfl rfl rfl
  exact ⟨_, circuits, _,
    (((jobs_run conversation_dispatched conversationEvents_plain _ _).snoc called).append
      (routers_run answered unsignalled 0 _ _)).snoc processed⟩

end ModelMux.Jobs
