/-
The lease of a job against the time that its providers may take.

A pass asks one provider and then at most one other, each for no longer than its
deadline, and the lease of a job is that time and thirty seconds more.  Here the
steps of the workers are late, each by at most a given time.  As long as seven
such delays and the statement of the claim fit into the thirty seconds, the row
of a job stays with the attempt that is asking the providers, and no other
attempt of the job asks them meanwhile.  Other workers may crash, lose answers
of the database or go on with attempts that have lost their leases.
-/

import ModelMux.Config.Wiring
import ModelMux.Jobs.InferenceProcessor
import ModelMux.Queue.LeaseExclusion

namespace ModelMux.Jobs

open Providers Queue

variable {Response Failure Digest : Type}

/-! ### The time of a pass -/

/-- What a worker has: the deadlines of its providers, how late a step may be, how long
the statement of a claim may take, and a lease that is longer than all of it. -/
structure Timing where
  requestTimeoutMs : TargetRole → ℚ
  lateness : ℚ
  statementMs : ℚ
  leaseMs : ℚ
  deadlines : ∀ role, 0 ≤ requestTimeoutMs role
  late : 0 ≤ lateness
  enough : statementMs + requestTimeoutMs .primary + requestTimeoutMs .fallback + 7 * lateness <
    leaseMs

namespace Timing

variable (timing : Timing)

/-- How long a pass may stay where it has stopped. -/
def patience : PassPhase Response Failure → ℚ
  | .operating role _ _ => timing.requestTimeoutMs role + timing.lateness
  | _ => timing.lateness

def ahead : PassPhase Response Failure → ℚ
  | .operating .primary _ _ => timing.requestTimeoutMs .primary + timing.requestTimeoutMs .fallback
  | .executing .primary _ _ _ | .calling .primary _ _ | .routing _ | .operating .fallback _ _ =>
      timing.requestTimeoutMs .fallback
  | _ => 0

/-- The longest time until the pass ends, from when it has stopped there. -/
def remaining (phase : PassPhase Response Failure) : ℚ :=
  timing.ahead phase + phase.rank * timing.lateness

theorem ahead_le (phase : PassPhase Response Failure) :
    timing.ahead phase ≤ timing.requestTimeoutMs .primary + timing.requestTimeoutMs .fallback := by
  have primary := timing.deadlines .primary
  have fallback := timing.deadlines .fallback
  cases phase with
  | operating role target generation => cases role <;> simp [ahead, primary]
  | executing role target generation outcome => cases role <;> simp [ahead] <;> linarith
  | calling role target outcome => cases role <;> simp [ahead] <;> linarith
  | routing outcome => simp [ahead, primary]
  | finished outcome => simp only [ahead]; linarith

theorem rank_le (phase : PassPhase Response Failure) : phase.rank ≤ 7 := by
  cases phase with
  | operating role target generation => cases role <;> simp [PassPhase.rank]
  | executing role target generation outcome => cases role <;> simp [PassPhase.rank]
  | calling role target outcome => cases role <;> simp [PassPhase.rank]
  | routing outcome => simp [PassPhase.rank]
  | finished outcome => simp [PassPhase.rank]

theorem remaining_le (phase : PassPhase Response Failure) :
    timing.remaining phase ≤
      timing.requestTimeoutMs .primary + timing.requestTimeoutMs .fallback + 7 * timing.lateness := by
  have ahead := timing.ahead_le phase
  have steps : (phase.rank : ℚ) * timing.lateness ≤ 7 * timing.lateness :=
    mul_le_mul_of_nonneg_right (by exact_mod_cast rank_le phase) timing.late
  unfold remaining
  linarith

theorem patience_nonneg (phase : PassPhase Response Failure) : 0 ≤ timing.patience phase := by
  have late := timing.late
  cases phase with
  | operating role target generation => exact add_nonneg (timing.deadlines role) late
  | _ => exact late

theorem patience_le {phase : PassPhase Response Failure}
    (unfinished : ∀ outcome, phase ≠ .finished outcome) :
    timing.patience phase ≤ timing.remaining phase := by
  have late := timing.late
  have fallback := timing.deadlines .fallback
  unfold remaining
  cases phase with
  | operating role target generation =>
      cases role <;> simp only [patience, ahead, PassPhase.rank] <;> push_cast <;> linarith
  | executing role target generation outcome =>
      cases role <;> simp only [patience, ahead, PassPhase.rank] <;> push_cast <;> linarith
  | calling role target outcome =>
      cases role <;> simp only [patience, ahead, PassPhase.rank] <;> push_cast <;> linarith
  | routing outcome =>
      simp only [patience, ahead, PassPhase.rank]
      push_cast
      linarith
  | finished outcome => exact absurd rfl (unfinished outcome)

end Timing

def moves : PassInput Response Failure → Bool
  | .start _ _ _ | .answer _ | .resume => true
  | _ => false

theorem ahead_call_fallback (timing : Timing) (pass : Pass Response Failure)
    (target : ProviderTarget) (data : ChatRequest) (circuits : Circuits) (now : ℚ) :
    timing.ahead (pass.call .fallback target data circuits now).1.phase ≤
      timing.requestTimeoutMs .fallback := by
  have fallback := timing.deadlines .fallback
  unfold Pass.call
  cases (circuits .fallback).enter target.circuit now with
  | error error => simpa [Pass.stop, Timing.ahead] using fallback
  | ok breaker =>
      simp only [Pass.operate]
      split_ifs <;> simp [Pass.stop, Timing.ahead, fallback]

theorem ahead_route (timing : Timing) (router : ProviderRouter) (pass : Pass Response Failure)
    (outcome : Except (Thrown Failure) Response) (circuits : Circuits) (now : ℚ) :
    timing.ahead (pass.route router outcome circuits now).1.phase ≤
      timing.requestTimeoutMs .fallback := by
  have fallback := timing.deadlines .fallback
  cases outcome with
  | ok response => simpa [Pass.route, Pass.stop, Timing.ahead] using fallback
  | error error =>
      simp only [Pass.route]
      split_ifs
      · simpa [Pass.stop, Timing.ahead] using fallback
      · cases pass.fallbackFor router error with
        | none => simpa [Pass.stop, Timing.ahead] using fallback
        | some choice => exact ahead_call_fallback _ _ _ _ _ _

/-- A pass that moves on has at most what is left of its time. -/
theorem passStep_remaining (timing : Timing) {router : ProviderRouter} {now : ℚ}
    {pass next : Pass Response Failure} {circuits circuits' : Circuits}
    {input : PassInput Response Failure}
    (taken : PassStep router now pass circuits input next circuits') :
    (moves input = true ∧
        timing.patience pass.phase + timing.remaining next.phase ≤ timing.remaining pass.phase) ∨
      (moves input = false ∧ next.phase = pass.phase) := by
  have late := timing.late
  have fallback := timing.deadlines .fallback
  cases taken with
  | abort => exact Or.inr ⟨rfl, rfl⟩
  | consume allowed => exact Or.inr ⟨rfl, (consume_kept pass _ _).2⟩
  | deliver writing => exact Or.inr ⟨rfl, rfl⟩
  | @answer role target generation outcome stopped =>
      apply Or.inl
      refine ⟨rfl, ?_⟩
      rw [stopped]
      cases role <;> simp only [Pass.answer, Pass.stop, Timing.remaining, Timing.patience,
        Timing.ahead, PassPhase.rank] <;> push_cast <;> linarith
  | @execute role target generation outcome stopped =>
      apply Or.inl
      refine ⟨rfl, ?_⟩
      rw [stopped]
      cases role <;> simp only [Pass.stop, Timing.remaining, Timing.patience,
        Timing.ahead, PassPhase.rank] <;> push_cast <;> linarith
  | @call role target outcome stopped =>
      apply Or.inl
      refine ⟨rfl, ?_⟩
      rw [stopped]
      cases role <;> simp only [Pass.leave, Pass.stop, Timing.remaining, Timing.patience,
        Timing.ahead, PassPhase.rank] <;> push_cast <;> linarith
  | @route outcome stopped =>
      apply Or.inl
      refine ⟨rfl, ?_⟩
      have ahead := ahead_route timing router pass outcome circuits now
      have rank : (pass.route router outcome circuits now).1.phase.rank ≤ 3 :=
        Nat.le_of_lt_succ (rank_route router pass outcome circuits now)
      have steps : ((pass.route router outcome circuits now).1.phase.rank : ℚ) * timing.lateness ≤
          3 * timing.lateness :=
        mul_le_mul_of_nonneg_right (by exact_mod_cast rank) timing.late
      rw [stopped]
      have first : timing.remaining (.routing outcome : PassPhase Response Failure) =
          timing.requestTimeoutMs .fallback + 4 * timing.lateness := rfl
      have wait : timing.patience (.routing outcome : PassPhase Response Failure) =
          timing.lateness := rfl
      rw [first, wait, Timing.remaining]
      linarith

/-! ### Rows stay with their attempts -/

section Rows

variable [DecidableEq Digest] {hashing : Hashing ChatRequest Digest}
  {collation : JobId → JobId → Bool} {queue : JsString}
  {jobs next : SystemState ChatRequest Response Digest}
  {event : WorkerEvent ChatRequest Response} {events : List (WorkerEvent ChatRequest Response)}

theorem envelope_eq {message other : JobEnvelope} (id : message.id = other.id)
    (attempt : message.attempt = other.attempt) : message = other := by
  obtain ⟨_, _⟩ := message
  obtain ⟨_, _⟩ := other
  cases id
  cases attempt
  rfl

/-- No two deliveries work for the same attempt. -/
theorem working_unique {clock : Timestamp}
    (run : Run (WorkerStep hashing collation queue) (SystemState.initial clock) events jobs)
    {delivery other : Delivery ChatRequest Response} (member : delivery ∈ jobs.deliveries)
    (otherMember : other ∈ jobs.deliveries) (working : delivery.phase.working = true)
    (otherWorking : other.phase.working = true) (same : delivery.message = other.message) :
    delivery.tag = other.tag := by
  have history := run_deliveriesHistory run
  obtain ⟨op, job, claimed⟩ := (history.each delivery member).claimHeld working
  obtain ⟨otherOp, otherJob, otherClaimed⟩ := (history.each other otherMember).claimHeld otherWorking
  have first : delivery.tag ∈ claimants delivery.message events :=
    List.mem_filterMap.mpr ⟨_, claimed, by simp [claimant?]⟩
  have second : other.tag ∈ claimants delivery.message events :=
    List.mem_filterMap.mpr ⟨_, otherClaimed, by simp [claimant?, same]⟩
  rw [run_claimants_eq run first, List.mem_singleton] at second
  exact second.symm

def RecoversInTime (clock : Timestamp) : WorkerEvent ChatRequest Response → Prop
  | .maintain (.maintainRecover _ now, _) => now ≤ clock
  | _ => True

omit [DecidableEq Digest] in
theorem stale_of_attempt {lease : Lease} {row : JobRow ChatRequest Response Digest}
    {message : JobEnvelope} (leased : Leased lease row)
    (found : jobs.store.table.lookup lease.message.id = some row)
    (sameId : message.id = lease.message.id) (other : message.attempt ≠ lease.message.attempt)
    (options : JobStoreOptions) :
    ∀ row ∈ jobs.store.table.rows, outcomeWhere options message row = false := by
  apply outcomeWhere_stale
  intro present here active
  rw [sameId, found] at here
  cases here
  rw [leased.attempt]
  exact Ne.symm other

/-- The row of an attempt that goes on working stays as it is until its lease ends. -/
theorem leased_kept {clock : Timestamp}
    (run : Run (WorkerStep hashing collation queue) (SystemState.initial clock) events jobs)
    (taken : WorkerStep hashing collation queue jobs event next)
    {delivery : Delivery ChatRequest Response} (member : delivery ∈ jobs.deliveries)
    (working : delivery.phase.working = true) (continues : event.ends delivery.tag = false)
    {leaseUntil : Timestamp} {row : JobRow ChatRequest Response Digest}
    (found : jobs.store.table.lookup delivery.message.id = some row)
    (leased : Leased ⟨delivery.tag, delivery.message, leaseUntil⟩ row)
    (timely : RecoversInTime leaseUntil event) :
    ∃ later, next.store.table.lookup delivery.message.id = some later ∧
      Leased ⟨delivery.tag, delivery.message, leaseUntil⟩ later := by
  have invariant := run_invariant run
  have consistent := invariant.consistent _ row found
  have spared {op : StoreOp ChatRequest Response} {outcome : StoreOutcome ChatRequest Response}
      {store : StoreState ChatRequest Response Digest}
      (stepped : storeStep hashing collation jobs.store (op, outcome) store)
      (spares : op.Spares ⟨delivery.tag, delivery.message, leaseUntil⟩) :
      ∃ later, store.table.lookup delivery.message.id = some later ∧
        Leased ⟨delivery.tag, delivery.message, leaseUntil⟩ later :=
    leased.kept found consistent spares stepped
  have foreign {other : Delivery ChatRequest Response} (otherMember : other ∈ jobs.deliveries)
      (otherWorking : other.phase.working = true) (different : other.tag ≠ delivery.tag)
      (sameId : other.message.id = delivery.message.id) :
      ∀ row ∈ jobs.store.table.rows, outcomeWhere other.options other.message row = false := by
    apply stale_of_attempt leased found sameId
    intro sameAttempt
    apply different
    exact working_unique run otherMember member otherWorking working
      (envelope_eq sameId sameAttempt)
  cases taken with
  | gateway submits stepped =>
      rename_i storeEvent store
      obtain ⟨op, outcome⟩ := storeEvent
      apply spared stepped
      cases op <;> trivial
  | maintain maintains stepped =>
      rename_i storeEvent store
      obtain ⟨op, outcome⟩ := storeEvent
      apply spared stepped
      cases op with
      | maintainRecover options now => exact timely
      | maintainDelete options now => trivial
      | _ => exact maintains.elim
  | commit transaction before after running phase =>
      exact spared (commit_storeStep invariant (by simp [running])) trivial
  | claim other before after now job reported running phase received started unlocked stepped =>
      exact spared stepped trivial
  | complete other before after now job response reported running phase stepped =>
      have different : other.tag ≠ delivery.tag := by simpa [WorkerEvent.ends] using continues
      have otherMember : other ∈ jobs.deliveries := by simp [running]
      by_cases sameId : other.message.id = delivery.message.id
      · have stale := foreign otherMember (by rw [phase]; rfl) different sameId
        have stored := congrArg (fun pair => pair.2.table) stepped.2
        refine ⟨row, ?_, leased⟩
        rw [← stored]
        exact (congrArg (fun table => KeyedTable.lookup table delivery.message.id)
          (KeyedTable.update_eq_self (completeSet now response) (fun _ => rfl) (fun _ => rfl)
            stale)).trans found
      · exact spared stepped sameId
  | fail other before after now job failure status reported running phase stepped =>
      have different : other.tag ≠ delivery.tag := by simpa [WorkerEvent.ends] using continues
      have otherMember : other ∈ jobs.deliveries := by simp [running]
      by_cases sameId : other.message.id = delivery.message.id
      · have stale := foreign otherMember (by rw [phase]; rfl) different sameId
        have stored := congrArg (fun pair => pair.2.table) stepped.2
        refine ⟨row, ?_, leased⟩
        rw [← stored]
        exact (congrArg (fun result => KeyedTable.lookup result.2 delivery.message.id)
          (fail_stale stale)).trans found
      · exact spared stepped sameId
  | _ => exact ⟨row, found, leased⟩

theorem continues_of_processing (tagsOnce : (jobs.deliveries.map Delivery.tag).Nodup)
    (taken : WorkerStep hashing collation queue jobs event next)
    {delivery : Delivery ChatRequest Response} (member : delivery ∈ jobs.deliveries)
    {job : ProcessingJob ChatRequest} (phase : delivery.phase = .processing job) :
    event.ends delivery.tag = false := by
  have only {other : Delivery ChatRequest Response} (otherMember : other ∈ jobs.deliveries)
      (tag : other.tag = delivery.tag) : other.phase = .processing job := by
    rw [List.inj_on_of_nodup_map tagsOnce otherMember member tag, phase]
  rw [← Bool.not_eq_true]
  intro ending
  cases taken with
  | complete other before after now held response reported running completing stepped =>
      have tag : other.tag = delivery.tag := by simpa [WorkerEvent.ends] using ending
      cases completing.symm.trans (only (by simp [running]) tag)
  | fail other before after now held failure status reported running failing stepped =>
      have tag : other.tag = delivery.tag := by simpa [WorkerEvent.ends] using ending
      cases failing.symm.trans (only (by simp [running]) tag)
  | _ => cases ending

theorem RecoversInTime.mono {clock later : Timestamp} (timely : RecoversInTime clock event)
    (forward : clock ≤ later) : RecoversInTime later event := by
  unfold RecoversInTime at timely ⊢
  split at timely
  · exact le_trans timely forward
  · trivial

end Rows

/-! ### Workers that are late -/

/-- `since` is when a pass has stopped where it is. -/
structure TimedState (Response Failure Digest : Type) where
  system : InferenceState Response Failure Digest
  since : Nat × Nat → Timestamp

def TimedState.clock (state : TimedState Response Failure Digest) : Timestamp :=
  state.system.jobs.clock

def touched (system : InferenceState Response Failure Digest) :
    InferenceEvent Response Failure → Option (Nat × Nat)
  | .claim worker _ => some (worker, (system.routers worker).passes.length)
  | .provide worker event => if moves event.input then some (worker, event.pass) else none
  | _ => none

def touch (state : TimedState Response Failure Digest) (event : InferenceEvent Response Failure) :
    Nat × Nat → Timestamp :=
  match touched state.system event with
  | none => state.since
  | some key => Function.update state.since key state.clock

/-- The processor of a delivery waits for a pass that has not finished. -/
structure Asking (system : InferenceState Response Failure Digest)
    (delivery : Delivery ChatRequest Response) (worker id : Nat) (pass : Pass Response Failure) :
    Prop where
  phase : ∃ job, delivery.phase = .processing job
  called : system.calls delivery.tag = some (worker, id)
  present : (system.routers worker).passes[id]? = some pass
  unfinished : ∀ outcome, pass.phase ≠ .finished outcome

section Timed

variable (timing : Timing)

def Punctual (state : TimedState Response Failure Digest) : Prop :=
  ∀ delivery ∈ state.system.jobs.deliveries, ∀ worker id pass,
    Asking state.system delivery worker id pass →
      state.clock ≤ state.since (worker, id) + timing.patience pass.phase

def ClaimsInTime (clock : Timestamp) : WorkerEvent ChatRequest Response → Prop
  | .claim _ _ (.claim options now _, .claimed (some _)) true =>
      options.leaseMs = timing.leaseMs ∧ clock ≤ now + timing.statementMs
  | _ => True

/-- A step of the workers.  No pass that a processor waits for is overdue after it, a claim
returns in time, and a recovery of leases does not read a time that is still to come. -/
structure TimedStep [DecidableEq Digest] (hashing : Hashing ChatRequest Digest)
    (collation : JobId → JobId → Bool) (queue : JsString) (router : ProviderRouter)
    (isResponseError : Failure → Bool) (state : TimedState Response Failure Digest)
    (event : InferenceEvent Response Failure) (next : TimedState Response Failure Digest) :
    Prop where
  taken : InferenceStep hashing collation queue router isResponseError state.system event
    next.system
  since : next.since = touch state event
  claims : ∀ worker ∈ event.workerEvents, ClaimsInTime timing state.clock worker
  recovers : ∀ worker ∈ event.workerEvents, RecoversInTime state.clock worker
  punctual : Punctual timing next

/-- The row is leased to the attempt for at least as long as its pass may take. -/
def Owned (state : TimedState Response Failure Digest) : Prop :=
  ∀ delivery ∈ state.system.jobs.deliveries, ∀ worker id pass,
    Asking state.system delivery worker id pass →
      ∃ leaseUntil row, state.system.jobs.store.table.lookup delivery.message.id = some row ∧
        Leased ⟨delivery.tag, delivery.message, leaseUntil⟩ row ∧
        state.since (worker, id) + timing.remaining pass.phase < leaseUntil

end Timed

section Steps

variable [DecidableEq Digest] {hashing : Hashing ChatRequest Digest}
  {collation : JobId → JobId → Bool} {queue : JsString} {router : ProviderRouter}
  {isResponseError : Failure → Bool} {timing : Timing}
  {state next : TimedState Response Failure Digest} {event : InferenceEvent Response Failure}

theorem routerStep_pass {system later : RouterSystem Response Failure}
    {event : RouterEvent Response Failure} (taken : RouterStep router system event later) {id : Nat}
    {pass : Pass Response Failure} (present : system.passes[id]? = some pass) :
    (event.pass ≠ id ∧ later.passes[id]? = some pass) ∨
      (event.pass = id ∧ ∃ next circuits, later.passes[id]? = some next ∧
        PassStep router event.now pass system.circuits event.input next circuits) := by
  obtain ⟨inside, _⟩ := List.getElem?_eq_some_iff.mp present
  cases taken with
  | start clock started =>
      apply Or.inl
      constructor
      · exact (Nat.ne_of_lt inside).symm
      · rw [List.getElem?_append_left inside, present]
  | @step now index old next input circuits clock found taken =>
      by_cases same : index = id
      · subst same
        cases found.symm.trans present
        exact Or.inr ⟨rfl, next, circuits, by simp [inside], taken⟩
      · exact Or.inl ⟨same, by rw [List.getElem?_set_ne same, present]⟩

theorem routers_pass {routers : Nat → RouterSystem Response Failure} {worker : Nat}
    {later : RouterSystem Response Failure} {event : RouterEvent Response Failure}
    (taken : RouterStep router (routers worker) event later) {other id : Nat}
    {old pass : Pass Response Failure} (before : (routers other).passes[id]? = some old)
    (after : (Function.update routers worker later other).passes[id]? = some pass) :
    ((other, id) ≠ (worker, event.pass) ∧ pass = old) ∨
      ((other, id) = (worker, event.pass) ∧ ∃ circuits circuits',
        PassStep router event.now old circuits event.input pass circuits') := by
  by_cases same : other = worker
  · subst same
    rw [Function.update_self] at after
    rcases routerStep_pass taken before with ⟨different, kept⟩ | ⟨here, next, circuits, found, step⟩
    · cases kept.symm.trans after
      apply Or.inl
      simp [Ne.symm different]
    · cases found.symm.trans after
      exact Or.inr ⟨by rw [here], _, circuits, step⟩
  · rw [Function.update_of_ne same] at after
    cases before.symm.trans after
    apply Or.inl
    simp [same]

omit [DecidableEq Digest] in
theorem Owned.alive (owned : Owned timing state) (punctual : Punctual timing state)
    {delivery : Delivery ChatRequest Response} (member : delivery ∈ state.system.jobs.deliveries)
    {worker id : Nat} {pass : Pass Response Failure}
    (asking : Asking state.system delivery worker id pass) :
    ∃ leaseUntil row, state.system.jobs.store.table.lookup delivery.message.id = some row ∧
      Leased ⟨delivery.tag, delivery.message, leaseUntil⟩ row ∧
      state.since (worker, id) + timing.remaining pass.phase < leaseUntil ∧
      state.clock < leaseUntil := by
  obtain ⟨leaseUntil, row, found, leased, fits⟩ := owned delivery member worker id pass asking
  have due := punctual delivery member worker id pass asking
  have wait := timing.patience_le asking.unfinished
  exact ⟨leaseUntil, row, found, leased, fits, by linarith⟩

theorem Owned.kept (owned : Owned timing state) (punctual : Punctual timing state)
    {clock : Timestamp} {events : List (WorkerEvent ChatRequest Response)}
    (run : Run (WorkerStep hashing collation queue) (SystemState.initial clock) events
      state.system.jobs)
    {jobEvent : WorkerEvent ChatRequest Response} {jobs : SystemState ChatRequest Response Digest}
    (taken : WorkerStep hashing collation queue state.system.jobs jobEvent jobs)
    (recovers : RecoversInTime state.clock jobEvent)
    {delivery : Delivery ChatRequest Response} (member : delivery ∈ state.system.jobs.deliveries)
    {worker id : Nat} {pass : Pass Response Failure}
    (asking : Asking state.system delivery worker id pass) :
    ∃ leaseUntil row, jobs.store.table.lookup delivery.message.id = some row ∧
      Leased ⟨delivery.tag, delivery.message, leaseUntil⟩ row ∧
      state.since (worker, id) + timing.remaining pass.phase < leaseUntil := by
  obtain ⟨leaseUntil, row, found, leased, fits, alive⟩ := owned.alive punctual member asking
  obtain ⟨job, phase⟩ := asking.phase
  have continues := continues_of_processing (run_deliveriesHistory run).tagsOnce taken member phase
  obtain ⟨later, kept, still⟩ := leased_kept run taken member (by rw [phase]; rfl) continues found
    leased (recovers.mono alive.le)
  exact ⟨leaseUntil, later, kept, still, fits⟩

theorem Owned.job (owned : Owned timing state) (punctual : Punctual timing state)
    {clock : Timestamp} {events : List (WorkerEvent ChatRequest Response)}
    (run : Run (WorkerStep hashing collation queue) (SystemState.initial clock) events
      state.system.jobs)
    {jobEvent : WorkerEvent ChatRequest Response} {jobs : SystemState ChatRequest Response Digest}
    (plain : callsProcessor jobEvent = false)
    (taken : WorkerStep hashing collation queue state.system.jobs jobEvent jobs)
    (recovers : RecoversInTime state.clock jobEvent) :
    Owned timing ⟨{ state.system with jobs := jobs }, state.since⟩ := by
  intro delivery member worker id pass asking
  obtain ⟨job, processing⟩ := asking.phase
  have claimed : job? delivery.phase = some job := by
    rw [processing]
    rfl
  obtain ⟨old, present, tag, message, phase⟩ := plain_delivery (workerStep_deliveries taken) plain
    member claimed
  have before : Asking state.system old worker id pass :=
    ⟨⟨job, phase.trans processing⟩, by rw [tag]; exact asking.called, asking.present,
      asking.unfinished⟩
  have kept := owned.kept punctual run taken recovers present before
  rw [tag, message] at kept
  exact kept

theorem Owned.claim (owned : Owned timing state) (punctual : Punctual timing state)
    (invariant : InferenceInvariant queue router isResponseError state.system) {clock : Timestamp}
    {events : List (WorkerEvent ChatRequest Response)}
    (run : Run (WorkerStep hashing collation queue) (SystemState.initial clock) events
      state.system.jobs)
    {worker tag id : Nat} {message : JobEnvelope} {op : StoreOp ChatRequest Response}
    {job : ProcessingJob ChatRequest} {now : ℚ} {jobs : SystemState ChatRequest Response Digest}
    {system : RouterSystem Response Failure}
    (taken : WorkerStep hashing collation queue state.system.jobs
      (.claim tag message (op, .claimed (some job)) true) jobs)
    (started : RouterStep router (state.system.routers worker)
      ⟨now, id, .start .chat job.data false⟩ system)
    (claims : ClaimsInTime timing state.clock
      (.claim tag message (op, .claimed (some job)) true : WorkerEvent ChatRequest Response)) :
    Owned timing
      ⟨{ jobs := jobs
         routers := Function.update state.system.routers worker system
         calls := Function.update state.system.calls tag (some (worker, id)) },
        Function.update state.since (worker, (state.system.routers worker).passes.length)
          state.clock⟩ := by
  have fresh : id = (state.system.routers worker).passes.length := by
    cases started with
    | start later begun => rfl
    | step later present taken => cases taken
  intro delivery member other index pass asking
  rcases claimed_delivery invariant.history taken member with
    ⟨sameTag, sameMessage, _⟩ | ⟨present, different⟩
  · obtain ⟨options, statement, rfl⟩ := workerStep_claimOp taken
    obtain ⟨lease, prompt⟩ := claims
    obtain ⟨_, row, found, leased⟩ := workerStep_lease taken rfl
    have key : (other, index) = (worker, id) := by
      have called := asking.called
      simp only [sameTag, Function.update_self, Option.some.injEq] at called
      exact called.symm
    refine ⟨statement + options.leaseMs, row, by rw [sameMessage]; exact found, ?_, ?_⟩
    · rw [sameTag, sameMessage]
      exact leased
    · have enough := timing.enough
      have whole := timing.remaining_le pass.phase
      simp only [key, fresh, Function.update_self]
      rw [lease]
      linarith
  · obtain ⟨held, phase⟩ := asking.phase
    obtain ⟨oldWorker, oldId, old, attempt⟩ :=
      (invariant.attempts delivery present held (by rw [phase]; rfl)).pass
    have called := asking.called
    simp only [Function.update_of_ne different] at called
    cases attempt.called.symm.trans called
    rcases routers_pass started attempt.present asking.present with
      ⟨elsewhere, same⟩ | ⟨_, _, _, step⟩
    · subst same
      have before : Asking state.system delivery other index pass :=
        ⟨⟨held, phase⟩, called, attempt.present, asking.unfinished⟩
      obtain ⟨leaseUntil, row, found, leased, fits⟩ :=
        owned.kept punctual run taken trivial present before
      refine ⟨leaseUntil, row, found, leased, ?_⟩
      simp only [Function.update_of_ne (fresh ▸ elsewhere)]
      exact fits
    · cases step

omit [DecidableEq Digest] in
theorem Owned.provide (owned : Owned timing state) (punctual : Punctual timing state)
    (invariant : InferenceInvariant queue router isResponseError state.system) {worker : Nat}
    {event : RouterEvent Response Failure} {system : RouterSystem Response Failure}
    (taken : RouterStep router (state.system.routers worker) event system) :
    Owned timing
      ⟨{ state.system with routers := Function.update state.system.routers worker system },
        touch state (.provide worker event)⟩ := by
  intro delivery member other index pass asking
  obtain ⟨job, phase⟩ := asking.phase
  obtain ⟨oldWorker, oldId, old, attempt⟩ :=
    (invariant.attempts delivery member job (by rw [phase]; rfl)).pass
  cases attempt.called.symm.trans asking.called
  have before (unfinished : ∀ outcome, old.phase ≠ .finished outcome) :
      Asking state.system delivery other index old :=
    ⟨⟨job, phase⟩, asking.called, attempt.present, unfinished⟩
  rcases routers_pass taken attempt.present asking.present with
    ⟨elsewhere, rfl⟩ | ⟨here, _, _, step⟩
  · obtain ⟨leaseUntil, row, found, leased, fits⟩ :=
      owned delivery member other index pass (before asking.unfinished)
    refine ⟨leaseUntil, row, found, leased, ?_⟩
    simp only [touch, touched]
    split_ifs
    · simp only [Function.update_of_ne elsewhere]
      exact fits
    · exact fits
  · have unfinished : ∀ outcome, old.phase ≠ .finished outcome := by
      intro outcome finished
      exact asking.unfinished outcome ((passStep_kept step).2 outcome finished)
    obtain ⟨leaseUntil, row, found, leased, fits⟩ :=
      owned delivery member other index old (before unfinished)
    have due := punctual delivery member other index old (before unfinished)
    refine ⟨leaseUntil, row, found, leased, ?_⟩
    simp only [touch, touched]
    rcases passStep_remaining timing step with ⟨moving, shorter⟩ | ⟨still, same⟩
    · -- What the pass has waited for is taken from what it may still need.
      simp only [moving, if_true, here, Function.update_self]
      rw [here] at due fits
      linarith
    · simp only [still, Bool.false_eq_true, if_false]
      rw [same]
      exact fits

omit [DecidableEq Digest] in
theorem Owned.process (owned : Owned timing state)
    {delivery : Delivery ChatRequest Response} {before after : List (Delivery ChatRequest Response)}
    {job : ProcessingJob ChatRequest} {outcome : Except (Thrown Failure) Response}
    (running : state.system.jobs.deliveries = before ++ delivery :: after) :
    Owned timing
      ⟨{ state.system with
          jobs := { state.system.jobs with
            deliveries := before ++
              { delivery with
                phase := afterProcessor job (createInferenceProcessor isResponseError outcome) } ::
                  after } }, state.since⟩ := by
  intro other member worker id pass asking
  have old : other ∈ state.system.jobs.deliveries := by
    rw [running]
    simp only [List.mem_append, List.mem_cons] at member ⊢
    rcases member with inBefore | rfl | inAfter
    · exact Or.inl inBefore
    · obtain ⟨held, processing⟩ := asking.phase
      cases outcome <;> cases processing
    · exact Or.inr (Or.inr inAfter)
  exact owned other old worker id pass
    ⟨asking.phase, asking.called, asking.present, asking.unfinished⟩

theorem Owned.step (owned : Owned timing state) (punctual : Punctual timing state)
    (invariant : InferenceInvariant queue router isResponseError state.system) {clock : Timestamp}
    {events : List (WorkerEvent ChatRequest Response)}
    (run : Run (WorkerStep hashing collation queue) (SystemState.initial clock) events
      state.system.jobs)
    (step : TimedStep timing hashing collation queue router isResponseError state event next) :
    Owned timing next := by
  obtain ⟨system, since⟩ := next
  obtain ⟨taken, rfl, claims, recovers, _⟩ := step
  dsimp only at taken
  cases taken with
  | job plain taken =>
      exact owned.job punctual run plain taken (recovers _ (List.mem_singleton.mpr rfl))
  | claim worker tag id message op job now taken started =>
      exact owned.claim punctual invariant run taken started (claims _ (List.mem_singleton.mpr rfl))
  | provide worker unsignalled taken => exact owned.provide punctual invariant taken
  | process delivery before after job worker id pass outcome running phase called present
      finished => exact owned.process running

/-! ### One attempt at a time -/

def TimedState.initial (clock : Timestamp) (clocks : Nat → ℚ) (circuits : Nat → Circuits)
    (since : Nat × Nat → Timestamp) : TimedState Response Failure Digest :=
  ⟨.initial clock clocks circuits, since⟩

structure TimedInvariant (timing : Timing) (hashing : Hashing ChatRequest Digest)
    (collation : JobId → JobId → Bool) (queue : JsString) (router : ProviderRouter)
    (isResponseError : Failure → Bool) (state : TimedState Response Failure Digest) : Prop where
  system : InferenceInvariant queue router isResponseError state.system
  workers : ∃ clock events, Run (WorkerStep hashing collation queue) (SystemState.initial clock)
    events state.system.jobs
  punctual : Punctual timing state
  owned : Owned timing state

theorem run_timedInvariant {clock : Timestamp} {clocks : Nat → ℚ} {circuits : Nat → Circuits}
    {since : Nat × Nat → Timestamp} {events : List (InferenceEvent Response Failure)}
    (run : Run (TimedStep timing hashing collation queue router isResponseError)
      (.initial clock clocks circuits since) events state) :
    TimedInvariant timing hashing collation queue router isResponseError state := by
  apply run.invariant (TimedInvariant timing hashing collation queue router isResponseError)
  · exact
      { system := InferenceInvariant.initial queue router clock clocks circuits
        workers := ⟨clock, [], .refl _⟩
        punctual := by intro delivery impossible; cases impossible
        owned := by intro delivery impossible; cases impossible }
  · intro state event next held step
    obtain ⟨clock, events, workers⟩ := held.workers
    exact
      { system := held.system.step step.taken
        workers := ⟨clock, _, workers.append (inferenceStep_worker step.taken)⟩
        punctual := step.punctual
        owned := held.owned.step held.punctual held.system workers step }

theorem TimedInvariant.asksAlone
    (held : TimedInvariant timing hashing collation queue router isResponseError state)
    {delivery other : Delivery ChatRequest Response}
    (member : delivery ∈ state.system.jobs.deliveries)
    (otherMember : other ∈ state.system.jobs.deliveries) {worker id worker' id' : Nat}
    {pass pass' : Pass Response Failure} (asking : Asking state.system delivery worker id pass)
    (otherAsking : Asking state.system other worker' id' pass')
    (sameId : delivery.message.id = other.message.id) : delivery = other := by
  obtain ⟨_, row, found, leased, _⟩ := held.owned delivery member worker id pass asking
  obtain ⟨_, row', found', leased', _⟩ := held.owned other otherMember worker' id' pass' otherAsking
  rw [sameId, found'] at found
  cases found
  obtain ⟨job, phase⟩ := asking.phase
  obtain ⟨job', phase'⟩ := otherAsking.phase
  obtain ⟨clock, events, workers⟩ := held.workers
  have tag : delivery.tag = other.tag := by
    apply working_unique workers member otherMember (by rw [phase]; rfl) (by rw [phase']; rfl)
    exact envelope_eq sameId (leased.attempt.symm.trans leased'.attempt)
  exact List.inj_on_of_nodup_map (run_deliveriesHistory workers).tagsOnce member otherMember tag

end Steps

/-! ### The configured lease -/

def requestTimeoutMs (config : Config) : TargetRole → ℚ
  | .primary => config.ollamaRequestTimeoutMs
  | .fallback => (config.openai.elim 0 OpenAIConfig.requestTimeoutMs : ℕ)

theorem requestTimeoutMs_nonneg (config : Config) (role : TargetRole) :
    0 ≤ requestTimeoutMs config role := by
  cases role <;> exact Nat.cast_nonneg _

theorem leaseMs_enough (config : Config) {lateness statementMs : ℚ}
    (slack : statementMs + 7 * lateness < 30000) :
    statementMs + requestTimeoutMs config .primary + requestTimeoutMs config .fallback +
      7 * lateness < (Config.jobStoreOptions config).leaseMs := by
  simp only [Config.jobStoreOptions, Config.providerExecutionTimeoutMs, requestTimeoutMs]
  push_cast
  linarith

/-- Workers with this configuration, as late as the thirty seconds allow. -/
def workerTiming (config : Config) {lateness statementMs : ℚ} (late : 0 ≤ lateness)
    (slack : statementMs + 7 * lateness < 30000) : Timing :=
  { requestTimeoutMs := requestTimeoutMs config
    lateness := lateness
    statementMs := statementMs
    leaseMs := (Config.jobStoreOptions config).leaseMs
    deadlines := requestTimeoutMs_nonneg config
    late := late
    enough := leaseMs_enough config slack }

/-- The lease that the configuration gives outlasts the providers: while an attempt asks
them its row is its own, and no other attempt of the job asks. -/
theorem one_attempt_asks [DecidableEq Digest] {hashing : Hashing ChatRequest Digest}
    {collation : JobId → JobId → Bool} {queue : JsString} {router : ProviderRouter}
    {isResponseError : Failure → Bool} (config : Config) {lateness statementMs : ℚ}
    (late : 0 ≤ lateness) (slack : statementMs + 7 * lateness < 30000) {clock : Timestamp}
    {clocks : Nat → ℚ} {circuits : Nat → Circuits} {since : Nat × Nat → Timestamp}
    {events : List (InferenceEvent Response Failure)} {state : TimedState Response Failure Digest}
    (run : Run (TimedStep (workerTiming config late slack) hashing collation queue router
      isResponseError) (.initial clock clocks circuits since) events state) :
    (∀ delivery ∈ state.system.jobs.deliveries, ∀ worker id pass,
        Asking state.system delivery worker id pass →
          ∃ row leaseUntil,
            state.system.jobs.store.table.lookup delivery.message.id = some row ∧
            row.status = .active ∧ row.attemptsMade = delivery.message.attempt ∧
            row.leaseUntil = some leaseUntil ∧ state.clock < leaseUntil) ∧
      ∀ delivery ∈ state.system.jobs.deliveries, ∀ other ∈ state.system.jobs.deliveries,
        (∃ worker id pass, Asking state.system delivery worker id pass) →
        (∃ worker id pass, Asking state.system other worker id pass) →
        delivery.message.id = other.message.id → delivery = other := by
  have held := run_timedInvariant run
  constructor
  · intro delivery member worker id pass asking
    obtain ⟨leaseUntil, row, found, leased, _, alive⟩ :=
      held.owned.alive held.punctual member asking
    exact ⟨row, leaseUntil, found, leased.active, leased.attempt, leased.until', alive⟩
  · intro delivery member other otherMember asking otherAsking sameId
    obtain ⟨worker, id, pass, asks⟩ := asking
    obtain ⟨worker', id', pass', otherAsks⟩ := otherAsking
    exact held.asksAlone member otherMember asks otherAsks sameId

/-! ### A worker in time -/

theorem claimsInTime_of_plain (timing : Timing) (clock : Timestamp)
    {event : WorkerEvent ChatRequest Response} (plain : callsProcessor event = false) :
    ClaimsInTime timing clock event := by
  unfold ClaimsInTime
  split
  · cases plain
  · trivial

theorem timed_jobs_run [DecidableEq Digest] {hashing : Hashing ChatRequest Digest}
    {collation : JobId → JobId → Bool} {queue : JsString} {router : ProviderRouter}
    {isResponseError : Failure → Bool} (timing : Timing)
    {first last : SystemState ChatRequest Response Digest}
    {events : List (WorkerEvent ChatRequest Response)}
    (run : Run (WorkerStep hashing collation queue) first events last)
    (plain : ∀ event ∈ events, callsProcessor event = false)
    (recovers : ∀ event ∈ events, ∀ clock, RecoversInTime clock event)
    (routers : Nat → RouterSystem Response Failure) (since : Nat × Nat → Timestamp) :
    Run (TimedStep timing hashing collation queue router isResponseError)
      ⟨⟨first, routers, fun _ => none⟩, since⟩ (events.map .job)
      ⟨⟨last, routers, fun _ => none⟩, since⟩ := by
  induction run with
  | refl => exact .refl _
  | @snoc middle last events event before taken ih =>
      rw [List.map_append]
      have here : event ∈ events ++ [event] := by simp
      have stepped : TimedStep timing hashing collation queue router isResponseError
          ⟨⟨middle, routers, fun _ => none⟩, since⟩ (.job event)
          ⟨⟨last, routers, fun _ => none⟩, since⟩ :=
        { taken := .job ⟨middle, routers, fun _ => none⟩ (plain event here) taken
          since := rfl
          claims := by
            intro worker member
            rw [List.mem_singleton.mp member]
            exact claimsInTime_of_plain timing _ (plain event here)
          recovers := by
            intro worker member
            rw [List.mem_singleton.mp member]
            exact recovers event here _
          punctual := by
            intro delivery member worker id pass asking
            cases asking.called }
      exact .snoc (ih (fun event member => plain event (List.mem_append_left _ member))
        (fun event member => recovers event (List.mem_append_left _ member))) stepped

def promptConfig : Config :=
  { Cache.sampleConfig 3000 [] with ollamaRequestTimeoutMs := 30000, openai := none }

theorem prompt_late : (0 : ℚ) ≤ 2000 := by
  norm_num

theorem prompt_slack : (10000 : ℚ) + 7 * 2000 < 30000 := by
  norm_num

/-- Steps that are up to two seconds late, and claims of up to ten seconds. -/
def promptTiming : Timing := workerTiming promptConfig prompt_late prompt_slack

def promptState : TimedState Unit Unit JsString :=
  { system :=
      { jobs := conversationSystem conversationClaimed [] []
          [conversationDelivery (.processing conversationJob)]
        routers := conversationRouters ⟨0, sampleCircuits,
          [conversationPass true (.operating .primary sampleRouter.primary 0) 3]⟩
        calls := Function.update (fun _ => none) 0 (some (0, 0)) }
    since := fun _ => 0 }

theorem promptState_run :
    ∃ events, Run (TimedStep promptTiming conversationHashing JsString.le sampleOptions.name
      sampleRouter (fun _ => false)) (.initial 0 (fun _ => 0) (fun _ _ => .initial) (fun _ => 0))
      events promptState := by
  have recovers : ∀ event ∈ conversationEvents, ∀ clock, RecoversInTime clock event := by
    simp [conversationEvents, RecoversInTime]
  have claimed : TimedStep promptTiming conversationHashing JsString.le sampleOptions.name
      sampleRouter (fun _ => false)
      ⟨⟨conversationSystem conversationDispatched [] [] [conversationDelivery .claiming],
        fun _ => RouterSystem.initial 0 (fun _ => .initial), fun _ => none⟩, fun _ => 0⟩ _
      promptState :=
    { taken := .claim _ 0 0 0 _ _ conversationJob 0 conversation_claimed
        (conversation_started true)
      since := (Function.update_eq_self (0, 0) (fun _ : Nat × Nat => (0 : Timestamp))).symm
      claims := by
        intro event member
        rw [List.mem_singleton.mp member]
        exact ⟨by decide +kernel, by decide +kernel⟩
      recovers := by
        intro event member
        rw [List.mem_singleton.mp member]
        trivial
      punctual := by
        intro delivery member worker id pass asking
        have patience := promptTiming.patience_nonneg pass.phase
        exact (zero_add (promptTiming.patience pass.phase)).symm ▸ patience }
  exact ⟨_, (timed_jobs_run promptTiming conversation_dispatched conversationEvents_plain recovers
    (fun _ => RouterSystem.initial 0 (fun _ => .initial)) (fun _ => 0)).snoc claimed⟩

theorem one_attempt_asks_conversation :
    ∃ row leaseUntil,
      conversationClaimed.table.lookup (dispatchMessage conversationRow).id = some row ∧
        row.status = .active ∧ row.attemptsMade = (dispatchMessage conversationRow).attempt ∧
        row.leaseUntil = some leaseUntil ∧ 0 < leaseUntil := by
  obtain ⟨events, run⟩ := promptState_run
  have asking : Asking promptState.system (conversationDelivery (.processing conversationJob)) 0 0
      (conversationPass true (.operating .primary sampleRouter.primary 0) 3) :=
    ⟨⟨_, rfl⟩, rfl, rfl, by intro outcome impossible; cases impossible⟩
  exact (one_attempt_asks promptConfig prompt_late prompt_slack run).1 _ (List.mem_singleton.mpr rfl) 0 0 _ asking

end ModelMux.Jobs
