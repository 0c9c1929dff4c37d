/-
Metrics of job attempts.

`execute` records a start when a claim has returned a job and an end, from its
`finally`, with the outcome that the attempt had by then.  The gauge of attempts
counts the deliveries of the process that hold a claim, each delivery records a
start at most once and an end only after it, and the outcome tells what the
store and the broker were told.
-/

import ModelMux.Queue.AttemptFencing

namespace ModelMux.Queue

variable {Data Result Digest : Type}

inductive JobOutcome where
  | success
  | retrying
  | failed
  | obsolete
  | infrastructureError
deriving Repr, DecidableEq

inductive JobMetric where
  | jobStart (retry : Bool) (queueWaitTimeMs : ℚ)
  | jobEnd (outcome : JobOutcome)
deriving DecidableEq

def failOutcome : Option FailStatus → JobOutcome
  | none => .obsolete
  | some .retrying => .retrying
  | some .failed => .failed

def startMetrics : StoreOutcome Data Result → List JobMetric
  | .claimed (some job) => [.jobStart (1 < job.attempt) job.queueWaitTimeMs]
  | _ => []

def failedOutcome : StoreOutcome Data Result → JobOutcome
  | .failed status => failOutcome status
  | _ => .infrastructureError

/-- What `execute` records when the awaited call of the event settles.  The
outcome is still the initial one if a statement of the attempt has thrown. -/
def WorkerEvent.jobMetrics : WorkerEvent Data Result → List JobMetric
  | .claim _ _ event reported => if reported then startMetrics event.2 else []
  | .complete _ _ _ _ reported => [.jobEnd (if reported then .success else .infrastructureError)]
  | .fail _ _ event reported =>
      [.jobEnd (if reported then failedOutcome event.2 else .infrastructureError)]
  | .statementError _ phase => if phase.working then [.jobEnd .infrastructureError] else []
  | _ => []

def JobMetric.change : JobMetric → ℤ
  | .jobStart _ _ => 1
  | .jobEnd _ => -1

/-- The gauge of a process that has received the deliveries picked out. -/
def jobsActive (mine : Nat → Bool) (events : List (WorkerEvent Data Result)) : ℤ :=
  ((events.filter (fun event => event.tag?.any mine)).flatMap
    (fun event => event.jobMetrics.map JobMetric.change)).sum

def metricsOf (tag : Nat) (events : List (WorkerEvent Data Result)) : List JobMetric :=
  (events.filter (fun event => event.tag? = some tag)).flatMap WorkerEvent.jobMetrics

theorem metricsOf_snoc (tag : Nat) (events : List (WorkerEvent Data Result))
    (event : WorkerEvent Data Result) :
    metricsOf tag (events ++ [event]) =
      metricsOf tag events ++ if event.tag? = some tag then event.jobMetrics else [] := by
  unfold metricsOf
  rw [List.filter_append, List.flatMap_append, List.filter_singleton]
  split <;> simp_all

theorem jobsActive_snoc (mine : Nat → Bool) (events : List (WorkerEvent Data Result))
    (event : WorkerEvent Data Result) :
    jobsActive mine (events ++ [event]) =
      jobsActive mine events +
        if event.tag?.any mine then (event.jobMetrics.map JobMetric.change).sum else 0 := by
  unfold jobsActive
  rw [List.filter_append, List.flatMap_append, List.sum_append, List.filter_singleton]
  split <;> simp_all

/-! ### The gauge -/

def ExecutePhase.load (phase : ExecutePhase Data Result) : ℤ := if phase.working then 1 else 0

/-- A step of a delivery moves the gauge by what it changes of the claim held. -/
theorem PhaseStep.change {tag : Nat} {message : JobEnvelope} {event : WorkerEvent Data Result}
    {phase later : ExecutePhase Data Result} (step : PhaseStep tag message event phase later) :
    phase.load + (event.jobMetrics.map JobMetric.change).sum = later.load := by
  cases step with
  | claimed op job => cases job <;> rfl
  | processed job outcome => cases outcome <;> rfl
  | errored phase =>
      cases working : phase.working <;>
        simp [ExecutePhase.load, WorkerEvent.jobMetrics, working, JobMetric.change] <;> rfl
  | detached phase => simp [WorkerEvent.jobMetrics]
  | claimLost | completed | completeLost | failed | failLost => rfl

def loadOf (mine : Nat → Bool) (delivery : Delivery Data Result) : ℤ :=
  if mine delivery.tag then delivery.phase.load else 0

def loadsOf (mine : Nat → Bool) (deliveries : List (Delivery Data Result)) : ℤ :=
  (deliveries.map (loadOf mine)).sum

theorem loadsOf_eq_countP (mine : Nat → Bool) (deliveries : List (Delivery Data Result)) :
    loadsOf mine deliveries =
      deliveries.countP (fun delivery => mine delivery.tag && delivery.phase.working) := by
  induction deliveries with
  | nil => rfl
  | cons delivery rest ih =>
      have first : loadsOf mine (delivery :: rest) = loadOf mine delivery + loadsOf mine rest := rfl
      rw [first, ih, List.countP_cons, loadOf, ExecutePhase.load]
      cases mine delivery.tag <;> cases delivery.phase.working <;> simp [add_comm]

theorem loadsOf_split (mine : Nat → Bool) (before after : List (Delivery Data Result))
    (delivery : Delivery Data Result) :
    loadsOf mine (before ++ delivery :: after) =
      loadOf mine delivery + loadsOf mine (before ++ after) := by
  simp only [loadsOf, List.map_append, List.map_cons, List.sum_append, List.sum_cons]
  ring

variable {state next : SystemState Data Result Digest} {event : WorkerEvent Data Result}

theorem DeliveryChange.load {mine : Nat → Bool} (change : DeliveryChange state event next)
    (alive : ∀ tag, event = .crash tag → mine tag = false) :
    loadsOf mine state.deliveries +
        (if event.tag?.any mine then (event.jobMetrics.map JobMetric.change).sum else 0) =
      loadsOf mine next.deliveries := by
  cases change with
  | same silent deliveries nextTag => simp [silent, deliveries]
  | received delivery tag phase deliveries nextTag =>
      have idle : loadOf mine delivery = 0 := by simp [loadOf, ExecutePhase.load, phase,
        ExecutePhase.working]
      have first := loadsOf_split mine [] state.deliveries delivery
      rw [List.nil_append, List.nil_append, idle] at first
      rw [deliveries, first]
      simp [WorkerEvent.tag?]
  | moved before after delivery later running deliveries nextTag tag message step =>
      rw [running, deliveries, loadsOf_split, loadsOf_split, loadOf, loadOf, tag, step.tag_eq,
        ← step.change, Option.any_some]
      split
      · ring
      · rw [add_zero]
  | settled before after delivery action running deliveries nextTag phase =>
      rw [running, deliveries, loadsOf_split]
      simp [loadOf, ExecutePhase.load, phase, ExecutePhase.working, WorkerEvent.jobMetrics]
  | crashed before after delivery running deliveries nextTag =>
      rw [running, deliveries, loadsOf_split, loadOf, alive delivery.tag rfl]
      simp [WorkerEvent.jobMetrics]

/-! ### The events of one delivery -/

inductive Recorded : ExecutePhase Data Result → List JobMetric → Prop
  | claiming : Recorded .claiming []
  | unclaimed : Recorded (.returned .ack) []
  | claimThrown : Recorded .thrown []
  | working {phase : ExecutePhase Data Result} (holds : phase.working = true) (retry : Bool)
      (wait : ℚ) : Recorded phase [.jobStart retry wait]
  | completed (retry : Bool) (wait : ℚ) :
      Recorded afterComplete [.jobStart retry wait, .jobEnd .success]
  | failed (retry : Bool) (wait : ℚ) (status : Option FailStatus) :
      Recorded (afterFail status) [.jobStart retry wait, .jobEnd (failOutcome status)]
  | thrown (retry : Bool) (wait : ℚ) :
      Recorded .thrown [.jobStart retry wait, .jobEnd .infrastructureError]

theorem Recorded.of_working {phase : ExecutePhase Data Result} {metrics : List JobMetric}
    (recorded : Recorded phase metrics) (holds : phase.working = true) :
    ∃ retry wait, metrics = [.jobStart retry wait] := by
  cases recorded with
  | working _ retry wait => exact ⟨retry, wait, rfl⟩
  | claiming | unclaimed | claimThrown | completed | failed | thrown => cases holds

theorem Recorded.of_claiming {metrics : List JobMetric}
    (recorded : Recorded (.claiming : ExecutePhase Data Result) metrics) : metrics = [] := by
  generalize phase : (.claiming : ExecutePhase Data Result) = before at recorded
  cases recorded with
  | claiming => rfl
  | working holds => rw [← phase] at holds; cases holds
  | unclaimed | claimThrown | completed | failed | thrown => cases phase

theorem Recorded.step {tag : Nat} {message : JobEnvelope} {phase later : ExecutePhase Data Result}
    {metrics : List JobMetric} (recorded : Recorded phase metrics)
    (step : PhaseStep tag message event phase later)
    (awaiting : event = .statementError tag phase → phase.unanswered = true) :
    Recorded later (metrics ++ event.jobMetrics) := by
  cases step with
  | claimed op job =>
      rw [recorded.of_claiming]
      cases job with
      | none => exact .unclaimed
      | some job => exact .working rfl _ _
  | claimLost event =>
      rw [recorded.of_claiming]
      exact .claimThrown
  | processed job outcome =>
      obtain ⟨retry, wait, rfl⟩ := recorded.of_working rfl
      exact .working (by cases outcome <;> rfl) retry wait
  | completed job response event =>
      obtain ⟨retry, wait, rfl⟩ := recorded.of_working rfl
      exact .completed retry wait
  | completeLost job response event =>
      obtain ⟨retry, wait, rfl⟩ := recorded.of_working rfl
      exact .thrown retry wait
  | failed job failure op status =>
      obtain ⟨retry, wait, rfl⟩ := recorded.of_working rfl
      exact .failed retry wait status
  | failLost job failure event =>
      obtain ⟨retry, wait, rfl⟩ := recorded.of_working rfl
      exact .thrown retry wait
  | errored =>
      have unanswered := awaiting rfl
      cases working : phase.working with
      | true =>
          obtain ⟨retry, wait, rfl⟩ := recorded.of_working working
          simp only [WorkerEvent.jobMetrics, working, if_true]
          exact .thrown retry wait
      | false =>
          cases phase with
          | claiming =>
              rw [recorded.of_claiming]
              exact .claimThrown
          | processing | failing | completing => cases working
          | returned | thrown => cases unanswered
  | detached phase =>
      simp only [WorkerEvent.jobMetrics, List.append_nil]
      exact recorded

/-- The deliveries have recorded what their phases say, and those that were
answered what their answers say. -/
structure AttemptsMeasured (events : List (WorkerEvent Data Result))
    (state : SystemState Data Result Digest) : Prop where
  each : ∀ delivery ∈ state.deliveries, Recorded delivery.phase (metricsOf delivery.tag events)
  every : ∀ tag, ∃ phase : ExecutePhase Data Result, Recorded phase (metricsOf tag events)
  settled : ∀ tag message action, .settle tag message action ∈ events →
    (∀ delivery ∈ state.deliveries, delivery.tag ≠ tag) ∧
      Recorded (.returned action : ExecutePhase Data Result) (metricsOf tag events)

theorem metricsOf_foreign {tag : Nat} {events : List (WorkerEvent Data Result)}
    (foreign : event.tag? ≠ some tag) :
    metricsOf tag (events ++ [event]) = metricsOf tag events := by
  rw [metricsOf_snoc, if_neg foreign, List.append_nil]

theorem metricsOf_silent (tag : Nat) {events : List (WorkerEvent Data Result)}
    (silent : event.jobMetrics = []) :
    metricsOf tag (events ++ [event]) = metricsOf tag events := by
  rw [metricsOf_snoc, silent, ite_self, List.append_nil]

theorem metricsOf_unissued {events : List (WorkerEvent Data Result)} {tag : Nat}
    (history : DeliveriesHistory events state) (unissued : state.nextTag ≤ tag) :
    metricsOf tag events = [] := by
  have none : events.filter (fun event => event.tag? = some tag) = [] := by
    rw [List.filter_eq_nil_iff]
    intro event member tagged
    have issued := history.eventsIssued event member tag (of_decide_eq_true tagged)
    omega
  rw [metricsOf, none, List.flatMap_nil]

theorem AttemptsMeasured.initial (clock : Timestamp) :
    AttemptsMeasured [] (SystemState.initial clock : SystemState Data Result Digest) :=
  { each := by intro delivery impossible; cases impossible
    every := fun tag => ⟨.claiming, .claiming⟩
    settled := by intro tag message action impossible; cases impossible }

theorem jobMetrics_of_tag (silent : event.tag? = none) : event.jobMetrics = [] := by
  cases event <;> first | rfl | cases silent

/-- A delivery that leaves takes the record of its phase with it. -/
theorem AttemptsMeasured.remove {events : List (WorkerEvent Data Result)}
    (measured : AttemptsMeasured events state) (history : DeliveriesHistory events state)
    {before after : List (Delivery Data Result)} {delivery : Delivery Data Result}
    (running : state.deliveries = before ++ delivery :: after)
    (deliveries : next.deliveries = before ++ after) (silent : event.jobMetrics = [])
    (answered : ∀ tag message action, event = .settle tag message action →
      delivery.tag = tag ∧ delivery.phase = .returned action) :
    AttemptsMeasured (events ++ [event]) next := by
  have kept : ∀ other ∈ next.deliveries, other ∈ state.deliveries := by
    intro other member
    rw [deliveries] at member
    rw [running]
    exact (List.Sublist.append_left (List.sublist_cons_self delivery after) before).subset member
  have tagsOnce := history.tagsOnce
  rw [running] at tagsOnce
  refine { each := ?_, every := ?_, settled := ?_ }
  · intro other member
    rw [metricsOf_silent _ silent]
    exact measured.each other (kept other member)
  · intro tag
    rw [metricsOf_silent _ silent]
    exact measured.every tag
  · intro tag message action member
    rw [metricsOf_silent _ silent]
    rcases List.mem_append.mp member with old | new
    · obtain ⟨absent, recorded⟩ := measured.settled tag message action old
      exact ⟨fun other present => absent other (kept other present), recorded⟩
    · obtain ⟨rfl, phase⟩ := answered tag message action (List.mem_singleton.mp new).symm
      refine ⟨?_, phase ▸ measured.each delivery (by simp [running])⟩
      intro other present
      rw [deliveries] at present
      exact tag_ne_of_nodup tagsOnce present

theorem AttemptsMeasured.step {events : List (WorkerEvent Data Result)}
    (measured : AttemptsMeasured events state) (history : DeliveriesHistory events state)
    (change : DeliveryChange state event next)
    (awaiting : ∀ tag phase, event = .statementError tag phase → phase.unanswered = true) :
    AttemptsMeasured (events ++ [event]) next := by
  cases change with
  | same silent deliveries nextTag =>
      have quiet := jobMetrics_of_tag silent
      refine { each := ?_, every := ?_, settled := ?_ }
      · intro delivery member
        rw [metricsOf_silent _ quiet]
        exact measured.each delivery (deliveries ▸ member)
      · intro tag
        rw [metricsOf_silent _ quiet]
        exact measured.every tag
      · intro tag message action member
        rw [metricsOf_silent _ quiet, deliveries]
        rcases List.mem_append.mp member with old | new
        · exact measured.settled tag message action old
        · rw [← List.mem_singleton.mp new] at silent
          cases silent
  | received delivery tag phase deliveries nextTag =>
      refine { each := ?_, every := ?_, settled := ?_ }
      · intro other member
        rw [metricsOf_silent _ rfl]
        rw [deliveries, List.mem_cons] at member
        rcases member with rfl | old
        · rw [phase, metricsOf_unissued history tag.ge]
          exact .claiming
        · exact measured.each other old
      · intro tag
        rw [metricsOf_silent _ rfl]
        exact measured.every tag
      · intro settledTag message action member
        rw [metricsOf_silent _ rfl, deliveries]
        rcases List.mem_append.mp member with old | new
        · obtain ⟨absent, recorded⟩ := measured.settled settledTag message action old
          refine ⟨?_, recorded⟩
          intro other present
          rcases List.mem_cons.mp present with rfl | earlier
          · have issued := history.eventsIssued _ old settledTag rfl
            omega
          · exact absent other earlier
        · cases List.mem_singleton.mp new
  | moved before after delivery later running deliveries nextTag tag message step =>
      have tagsOnce := history.tagsOnce
      rw [running] at tagsOnce
      have self := (measured.each delivery (by simp [running])).step step (awaiting _ _)
      have own : metricsOf delivery.tag (events ++ [event]) =
          metricsOf delivery.tag events ++ event.jobMetrics := by
        rw [metricsOf_snoc, if_pos step.tag_eq]
      have foreign : ∀ other, other ≠ delivery.tag →
          metricsOf other (events ++ [event]) = metricsOf other events := by
        intro other different
        apply metricsOf_foreign
        rw [step.tag_eq]
        exact fun same => different (Option.some.inj same).symm
      refine { each := ?_, every := ?_, settled := ?_ }
      · intro other member
        rw [deliveries, List.mem_append, List.mem_cons] at member
        have elsewhere : other ∈ before ++ after →
            Recorded other.phase (metricsOf other.tag (events ++ [event])) := by
          intro present
          rw [foreign _ (tag_ne_of_nodup tagsOnce present)]
          refine measured.each other ?_
          rw [running]
          exact (List.Sublist.append_left (List.sublist_cons_self delivery after) before).subset
            present
        rcases member with inBefore | rfl | inAfter
        · exact elsewhere (List.mem_append_left _ inBefore)
        · rw [tag, own]
          exact self
        · exact elsewhere (List.mem_append_right _ inAfter)
      · intro other
        by_cases same : other = delivery.tag
        · rw [same, own]
          exact ⟨_, self⟩
        · rw [foreign other same]
          exact measured.every other
      · intro settledTag message action member
        rcases List.mem_append.mp member with old | new
        · obtain ⟨absent, recorded⟩ := measured.settled settledTag message action old
          have different : settledTag ≠ delivery.tag :=
            fun same => absent delivery (by simp [running]) same.symm
          rw [foreign _ different]
          refine ⟨?_, recorded⟩
          intro other present
          rw [deliveries, List.mem_append, List.mem_cons] at present
          rcases present with inBefore | rfl | inAfter
          · exact absent other (by simp [running, inBefore])
          · rw [tag]
            exact different.symm
          · exact absent other (by simp [running, inAfter])
        · rw [← List.mem_singleton.mp new] at step
          cases step
  | settled before after delivery action running deliveries nextTag phase =>
      refine measured.remove history running deliveries rfl ?_
      intro tag message other same
      cases same
      exact ⟨rfl, phase⟩
  | crashed before after delivery running deliveries nextTag =>
      refine measured.remove history running deliveries rfl ?_
      intro tag message action same
      cases same

/-! ### What an outcome tells -/

def RowAt (status : JobState) (message : JobEnvelope) (table : JobTable Data Result Digest) :
    Prop :=
  ∃ row, table.lookup message.id = some row ∧ row.status = status ∧
    row.attemptsMade = message.attempt

/-- The statement has found no row that is active at its attempt, and changed none. -/
structure Fenced (options : JobStoreOptions) (message : JobEnvelope)
    (before after : JobTable Data Result Digest) : Prop where
  unmatched : ∀ row ∈ before.rows, outcomeWhere options message row = false
  same : ∀ id, after.lookup id = before.lookup id

/-- When an event records a metric, and what the rows around its statement say then. -/
inductive Told (before after : JobTable Data Result Digest) :
    WorkerEvent Data Result → JobMetric → Prop
  | started {tag : Nat} {options : JobStoreOptions} {now : Timestamp} {message : JobEnvelope}
      {job : ProcessingJob Data} {row : JobRow Data Result Digest}
      (found : before.lookup message.id = some row) (waiting : row.status.waiting = true)
      (claimed : RowAt .active message after)
      (wait : job.queueWaitTimeMs = max 0 (now - row.availableAt)) :
      Told before after
        (.claim tag message (.claim options now message, .claimed (some job)) true)
        (.jobStart (1 < message.attempt) job.queueWaitTimeMs)
  | success {tag : Nat} {options : JobStoreOptions} {now : Timestamp} {message : JobEnvelope}
      {response : Result}
      (stored : OutcomeStored before after (.complete options now message response, .done)) :
      Told before after
        (.complete tag message response (.complete options now message response, .done) true)
        (.jobEnd .success)
  | staleSuccess {tag : Nat} {options : JobStoreOptions} {now : Timestamp} {message : JobEnvelope}
      {response : Result} (fenced : Fenced options message before after) :
      Told before after
        (.complete tag message response (.complete options now message response, .done) true)
        (.jobEnd .success)
  | retrying {tag : Nat} {options : JobStoreOptions} {now : Timestamp} {message : JobEnvelope}
      {failure : JobProcessingError} (claimed : RowAt .retrying message after)
      (stored : OutcomeStored before after
        (.fail options now message failure, .failed (some .retrying))) :
      Told before after
        (.fail tag message (.fail options now message failure, .failed (some .retrying)) true)
        (.jobEnd .retrying)
  | failed {tag : Nat} {options : JobStoreOptions} {now : Timestamp} {message : JobEnvelope}
      {failure : JobProcessingError} (given : RowAt .failed message after)
      (stored : OutcomeStored before after
        (.fail options now message failure, .failed (some .failed))) :
      Told before after
        (.fail tag message (.fail options now message failure, .failed (some .failed)) true)
        (.jobEnd .failed)
  | obsolete {tag : Nat} {options : JobStoreOptions} {now : Timestamp} {message : JobEnvelope}
      {failure : JobProcessingError} (fenced : Fenced options message before after) :
      Told before after
        (.fail tag message (.fail options now message failure, .failed none) true)
        (.jobEnd .obsolete)
  | completeThrew {tag : Nat} {message : JobEnvelope} {response : Result}
      {event : StoreEvent Data Result} :
      Told before after (.complete tag message response event false) (.jobEnd .infrastructureError)
  | failThrew {tag : Nat} {message : JobEnvelope} {event : StoreEvent Data Result} :
      Told before after (.fail tag message event false) (.jobEnd .infrastructureError)
  | statementThrew {tag : Nat} {phase : ExecutePhase Data Result} (working : phase.working = true) :
      Told before after (.statementError tag phase) (.jobEnd .infrastructureError)

section Runs

variable [DecidableEq Digest] {hashing : Hashing Data Digest} {collation : JobId → JobId → Bool}
  {queue : JsString}

theorem claim_told {tag : Nat} {message : JobEnvelope} {options : JobStoreOptions}
    {now : Timestamp} {job : Option (ProcessingJob Data)}
    {before after : StoreState Data Result Digest}
    (taken : storeStep hashing collation before (.claim options now message, .claimed job) after) :
    ∀ metric ∈ startMetrics (.claimed job : StoreOutcome Data Result),
      Told before.table after.table
        (.claim tag message (.claim options now message, .claimed job) true) metric := by
  have executed := taken.2
  simp only [exec, Prod.mk.injEq, StoreOutcome.claimed.injEq] at executed
  obtain ⟨answered, stored⟩ := executed
  rcases claim_cases options now message before.table with
    ⟨missing, _⟩ | ⟨row, found, holds, returned, updated, _⟩
  · rw [missing] at answered
    subst answered
    intro metric impossible
    cases impossible
  · rw [returned] at answered
    subst answered
    intro metric member
    rw [List.mem_singleton.mp member, ← stored]
    simp only [claimWhere, Bool.and_eq_true] at holds
    exact .started found holds.1.1.1.2 ⟨_, updated, rfl, rfl⟩ rfl

theorem complete_told {tag : Nat} {message : JobEnvelope} {options : JobStoreOptions}
    {now : Timestamp} {response : Result} {before after : StoreState Data Result Digest}
    (taken : storeStep hashing collation before (.complete options now message response, .done)
      after) :
    Told before.table after.table
      (.complete tag message response (.complete options now message response, .done) true)
      (.jobEnd .success) := by
  rcases storeStep_complete taken with stored | ⟨unmatched, same⟩
  · exact .success stored
  · exact .staleSuccess ⟨unmatched, same⟩

theorem fail_told {tag : Nat} {message : JobEnvelope} {options : JobStoreOptions} {now : Timestamp}
    {failure : JobProcessingError} {status : Option FailStatus}
    {before after : StoreState Data Result Digest}
    (taken : storeStep hashing collation before
      (.fail options now message failure, .failed status) after) :
    Told before.table after.table
      (.fail tag message (.fail options now message failure, .failed status) true)
      (.jobEnd (failOutcome status)) := by
  rcases storeStep_fail taken with stored | ⟨rfl, unmatched, same⟩
  · have kept := stored
    cases stored with
    | fail _ _ _ _ row later found active attempt present written =>
        cases again : retries failure row with
        | true =>
            rw [again] at kept
            refine .retrying ⟨later, present, ?_, ?_⟩ kept
            · simp [written, failSet, again]
            · simp [written, failSet, attempt]
        | false =>
            rw [again] at kept
            refine .failed ⟨later, present, ?_, ?_⟩ kept
            · simp [written, failSet, again]
            · simp [written, failSet, attempt]
  · exact .obsolete ⟨unmatched, same⟩

theorem workerStep_told (taken : WorkerStep hashing collation queue state event next) :
    ∀ metric ∈ event.jobMetrics, Told state.store.table next.store.table event metric := by
  cases taken with
  | claim delivery before after now job reported running phase received started unlocked taken =>
      cases reported with
      | true => exact claim_told taken
      | false => intro metric impossible; cases impossible
  | complete delivery before after now job response reported running phase taken =>
      intro metric member
      rw [List.mem_singleton.mp member]
      cases reported with
      | true => exact complete_told taken
      | false => exact .completeThrew
  | fail delivery before after now job failure status reported running phase taken =>
      intro metric member
      rw [List.mem_singleton.mp member]
      cases reported with
      | true => exact fail_told taken
      | false => exact .failThrew
  | statementError delivery before after running awaiting =>
      intro metric member
      simp only [WorkerEvent.jobMetrics] at member
      split at member
      · rename_i working
        rw [List.mem_singleton.mp member]
        exact .statementThrew working
      · cases member
  | tick | gateway | maintain | begin | publish | mark | rollback | commit | inject | deliver
  | rejectMalformed | process | settle | detach | crash =>
      intro metric impossible
      cases impossible

theorem workerStep_awaiting {tag : Nat} {phase : ExecutePhase Data Result}
    (taken : WorkerStep hashing collation queue state (.statementError tag phase) next) :
    phase.unanswered = true := by
  cases taken with
  | statementError delivery before after running awaiting =>
      rcases awaiting with claiming | ⟨job, failure, failing⟩ | ⟨job, response, completing⟩
      · rw [claiming]
        rfl
      · rw [failing]
        rfl
      · rw [completing]
        rfl

theorem run_attemptsMeasured {clock : Timestamp} {events : List (WorkerEvent Data Result)}
    (run : Run (WorkerStep hashing collation queue) (SystemState.initial clock) events state) :
    AttemptsMeasured events state := by
  have both := run.historyInvariant
    (fun events state => DeliveriesHistory events state ∧ AttemptsMeasured events state)
    ⟨DeliveriesHistory.initial clock, AttemptsMeasured.initial clock⟩
    (by
      intro events state event next holds taken
      have change := workerStep_deliveries taken
      refine ⟨holds.1.step change, holds.2.step holds.1 change ?_⟩
      rintro tag phase rfl
      exact workerStep_awaiting taken)
  exact both.2

theorem run_jobsActive {clock : Timestamp} {events : List (WorkerEvent Data Result)}
    (run : Run (WorkerStep hashing collation queue) (SystemState.initial clock) events state)
    {mine : Nat → Bool} (alive : ∀ event ∈ events, ∀ tag, event = .crash tag → mine tag = false) :
    jobsActive mine events = loadsOf mine state.deliveries := by
  apply (run.restrict _ alive).historyInvariant
    (fun events state => jobsActive mine events = loadsOf mine state.deliveries)
  · rfl
  · intro events state event next gauge taken
    rw [jobsActive_snoc, gauge]
    exact (workerStep_deliveries taken.1).load taken.2

omit [DecidableEq Digest] in
theorem Recorded.answer {action : Action} {metrics : List JobMetric}
    (recorded : Recorded (.returned action : ExecutePhase Data Result) metrics) :
    (action = .deadLetter ↔ .jobEnd .failed ∈ metrics) ∧
      .jobEnd .infrastructureError ∉ metrics := by
  generalize phase : (.returned action : ExecutePhase Data Result) = answered at recorded
  cases recorded with
  | unclaimed =>
      cases phase
      simp
  | completed retry wait =>
      cases phase
      simp
  | failed retry wait status =>
      cases phase
      rcases status with _ | _ | _ <;> simp [failOutcome]
  | working holds => rw [← phase] at holds; cases holds
  | claiming | claimThrown | thrown => cases phase

omit [DecidableEq Digest] in
theorem Recorded.shape {phase : ExecutePhase Data Result} {metrics : List JobMetric}
    (recorded : Recorded phase metrics) :
    metrics = [] ∨ ∃ retry wait, metrics = [.jobStart retry wait] ∨
      ∃ outcome, metrics = [.jobStart retry wait, .jobEnd outcome] := by
  cases recorded with
  | claiming | unclaimed | claimThrown => exact Or.inl rfl
  | working holds retry wait => exact Or.inr ⟨retry, wait, Or.inl rfl⟩
  | completed retry wait => exact Or.inr ⟨retry, wait, Or.inr ⟨_, rfl⟩⟩
  | failed retry wait status => exact Or.inr ⟨retry, wait, Or.inr ⟨_, rfl⟩⟩
  | thrown retry wait => exact Or.inr ⟨retry, wait, Or.inr ⟨_, rfl⟩⟩

theorem attempts_measured {clock : Timestamp} {events : List (WorkerEvent Data Result)}
    (run : Run (WorkerStep hashing collation queue) (SystemState.initial clock) events state) :
    (∀ mine : Nat → Bool,
        (∀ event ∈ events, ∀ tag, event = .crash tag → mine tag = false) →
        jobsActive mine events =
          state.deliveries.countP (fun delivery => mine delivery.tag && delivery.phase.working)) ∧
      (∀ tag, metricsOf tag events = [] ∨
        ∃ retry wait, metricsOf tag events = [.jobStart retry wait] ∨
          ∃ outcome, metricsOf tag events = [.jobStart retry wait, .jobEnd outcome]) ∧
      (∀ tag message action, .settle tag message action ∈ events →
        (action = .deadLetter ↔ .jobEnd .failed ∈ metricsOf tag events) ∧
          .jobEnd .infrastructureError ∉ metricsOf tag events) ∧
      ∀ event next, WorkerStep hashing collation queue state event next →
        ∀ metric ∈ event.jobMetrics, Told state.store.table next.store.table event metric := by
  have measured := run_attemptsMeasured run
  refine ⟨?_, ?_, ?_, ?_⟩
  · intro mine alive
    rw [run_jobsActive run alive, loadsOf_eq_countP]
  · intro tag
    obtain ⟨phase, recorded⟩ := measured.every tag
    exact recorded.shape
  · intro tag message action member
    exact (measured.settled tag message action member).2.answer
  · intro event next taken
    exact workerStep_told taken

end Runs

/-- A claimed attempt is counted until its completion is stored, which ends it. -/
theorem attempts_measured_completed :
    jobsActive (fun _ => true) (sampleClaimedEvents ++ [.process 0]) = 1 ∧
      metricsOf 0 (sampleClaimedEvents ++ [.process 0] ++ [sampleCompleteEvent]) =
        [.jobStart false 0, .jobEnd .success] ∧
      Told sampleClaimed.table sampleCompleted.store.table sampleCompleteEvent
        (.jobEnd .success) := by
  obtain ⟨gauge, _, _, told⟩ := attempts_measured sampleCompleting_steps
  refine ⟨?_, by decide +kernel, told _ _ sampleCompleted_step _ (by simp [sampleCompleteEvent,
    WorkerEvent.jobMetrics])⟩
  refine (gauge (fun _ => true) ?_).trans (by rfl)
  simp [sampleClaimedEvents, sampleDispatchedEvents]

end ModelMux.Queue
