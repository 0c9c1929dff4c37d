/-
Order and accounting of the limiter.

The log of a limiter records when an acquisition enters the wait queue and how
its promise settles.  The queue is the entered acquisitions that have not
settled, in the order of their entry; from this follow that no waiter is
overtaken, that every acquisition settles at most once and that the counters
and metrics agree with the settlements.
-/

import ModelMux.Concurrency.LimiterInvariant

namespace ModelMux.Concurrency

/-! ### Reading the log -/

def resultOutcome : Except AcquireError ℕ → AdmissionOutcome
  | .ok _ => .admitted
  | .error error => error.outcome

namespace LimiterEntry

def enteredId : LimiterEntry → Option ℕ
  | .queued id => some id
  | _ => none

def settledId : LimiterEntry → Option ℕ
  | .settled id _ => some id
  | _ => none

def settledWith (outcome : AdmissionOutcome) : LimiterEntry → Bool
  | .settled _ result => resultOutcome result = outcome
  | _ => false

def measuredWith (outcome : AdmissionOutcome) : LimiterEntry → Bool
  | .metric measured _ => measured = outcome
  | _ => false

end LimiterEntry

/-- The acquisitions that have entered the wait queue, oldest first. -/
def enteredIds (log : List LimiterEntry) : List ℕ := log.filterMap LimiterEntry.enteredId

def settledIds (log : List LimiterEntry) : List ℕ := log.filterMap LimiterEntry.settledId

def LimiterSystem.counter (system : LimiterSystem) : AdmissionOutcome → ℕ
  | .admitted => system.admitted
  | .queueFull => system.rejected
  | .timeout => system.timedOut
  | .cancelled => system.aborted

/-- When an acquisition is admitted, every other one that entered the wait queue
before it, or at all if it did not enter, has settled, and not for a full queue. -/
def NotOvertaken (before : List LimiterEntry) : LimiterEntry → Prop
  | .settled id (.ok _) => ∀ earlier other later, before = earlier ++ .queued other :: later →
      other ≠ id → .queued id ∉ earlier →
        ∃ result, .settled other result ∈ before ∧ resultOutcome result ≠ .queueFull
  | _ => True

theorem mem_enteredIds {id : ℕ} {log : List LimiterEntry} :
    id ∈ enteredIds log ↔ .queued id ∈ log := by
  unfold enteredIds
  rw [List.mem_filterMap]
  constructor
  · rintro ⟨entry, member, found⟩
    cases entry <;> simp_all [LimiterEntry.enteredId]
  · intro member
    exact ⟨_, member, rfl⟩

theorem mem_settledIds {id : ℕ} {log : List LimiterEntry} :
    id ∈ settledIds log ↔ ∃ result, .settled id result ∈ log := by
  unfold settledIds
  rw [List.mem_filterMap]
  constructor
  · rintro ⟨entry, member, found⟩
    cases entry <;> simp_all [LimiterEntry.settledId]
    exact ⟨_, member⟩
  · rintro ⟨result, member⟩
    exact ⟨_, member, rfl⟩

def settlementEntries (id : ℕ) (durationMs : ℚ) (result : Except AcquireError ℕ) :
    List LimiterEntry :=
  [.metric (resultOutcome result) durationMs, .settled id result]

/-! ### The invariant -/

structure LimiterHistory (system : LimiterSystem) : Prop where
  waiting : system.queue.map PendingAcquire.id =
    (enteredIds system.log).filter (fun id => id ∉ settledIds system.log)
  once : (settledIds system.log).Nodup
  calls : ∀ id, id < system.acquires ↔
    id ∈ settledIds system.log ∨ id ∈ system.queue.map PendingAcquire.id
  total : system.acquires =
    system.admitted + system.rejected + system.timedOut + system.aborted + system.queue.length
  settled : ∀ outcome, system.counter outcome =
    system.log.countP (LimiterEntry.settledWith outcome)
  measured : ∀ outcome, system.counter outcome =
    system.log.countP (LimiterEntry.measuredWith outcome)
  refused : ∀ id result, .settled id result ∈ system.log → resultOutcome result = .queueFull →
    id ∉ enteredIds system.log
  fair : Throughout NotOvertaken system.log

variable {options : InMemoryConcurrencyLimiterOptions} {system next : LimiterSystem}

theorem LimiterHistory.entered_lt (history : LimiterHistory system) {id : ℕ}
    (entered : id ∈ enteredIds system.log) : id < system.acquires := by
  rw [history.calls]
  by_cases settled : id ∈ settledIds system.log
  · exact .inl settled
  · right
    rw [history.waiting]
    exact List.mem_filter.mpr ⟨entered, by simpa using settled⟩

theorem LimiterHistory.settle (history : LimiterHistory system) (id : ℕ) (durationMs : ℚ)
    (result : Except AcquireError ℕ)
    (log : next.log = system.log ++ settlementEntries id durationMs result)
    (queue : next.queue.map PendingAcquire.id =
      (system.queue.map PendingAcquire.id).filter (fun other => other ≠ id))
    (unsettled : id ∉ settledIds system.log)
    (calls : ∀ other, other < next.acquires ↔ other < system.acquires ∨ other = id)
    (total : next.acquires =
      next.admitted + next.rejected + next.timedOut + next.aborted + next.queue.length)
    (counters : ∀ outcome, next.counter outcome =
      system.counter outcome + if resultOutcome result = outcome then 1 else 0)
    (refused : resultOutcome result = .queueFull → id ∉ enteredIds system.log)
    (fair : NotOvertaken (system.log ++ [.metric (resultOutcome result) durationMs])
      (.settled id result)) : LimiterHistory next := by
  have entered : enteredIds next.log = enteredIds system.log := by
    simp [log, enteredIds, settlementEntries, LimiterEntry.enteredId]
  have settled : settledIds next.log = settledIds system.log ++ [id] := by
    rw [log, settledIds, List.filterMap_append]
    rfl
  constructor
  · rw [queue, entered, settled, history.waiting, List.filter_filter]
    apply List.filter_congr
    intro other _
    simp [and_comm]
  · rw [settled, List.nodup_append]
    refine ⟨history.once, by simp, ?_⟩
    intro other member other' new
    rw [List.mem_singleton.mp new]
    rintro rfl
    exact unsettled member
  · intro other
    rw [calls, history.calls, settled, queue, List.mem_append, List.mem_singleton, List.mem_filter]
    by_cases same : other = id
    · simp [same]
    · simp [same]
  · exact total
  · intro outcome
    rw [counters, history.settled, log, List.countP_append]
    congr 1
    by_cases same : resultOutcome result = outcome <;>
      simp [settlementEntries, LimiterEntry.settledWith, same]
  · intro outcome
    rw [counters, history.measured, log, List.countP_append]
    congr 1
    by_cases same : resultOutcome result = outcome <;>
      simp [settlementEntries, LimiterEntry.measuredWith, same]
  · intro other result' member full
    rw [entered]
    rw [log, List.mem_append] at member
    rcases member with old | new
    · exact history.refused other result' old full
    · simp only [settlementEntries, List.mem_cons, reduceCtorEq, LimiterEntry.settled.injEq,
        List.not_mem_nil, or_false, false_or] at new
      obtain ⟨rfl, rfl⟩ := new
      exact refused full
  · have split : next.log =
        (system.log ++ [.metric (resultOutcome result) durationMs]) ++ [.settled id result] := by
      simp [log, settlementEntries]
    rw [split]
    exact throughout_snoc.mpr ⟨throughout_snoc.mpr ⟨history.fair, trivial⟩, fair⟩

theorem LimiterHistory.same (history : LimiterHistory system) (queue : next.queue = system.queue)
    (log : next.log = system.log) (acquires : next.acquires = system.acquires)
    (counters : ∀ outcome, next.counter outcome = system.counter outcome) :
    LimiterHistory next := by
  obtain ⟨waiting, once, calls, total, settled, measured, refused, fair⟩ := history
  have admitted := counters .admitted
  have rejected := counters .queueFull
  have timedOut := counters .timeout
  have aborted := counters .cancelled
  simp only [LimiterSystem.counter] at admitted rejected timedOut aborted
  constructor
  · rw [queue, log, waiting]
  · rw [log]
    exact once
  · rw [acquires, queue, log]
    exact calls
  · rw [acquires, queue, admitted, rejected, timedOut, aborted]
    exact total
  · intro outcome
    rw [counters, log, settled]
  · intro outcome
    rw [counters, log, measured]
  · rw [log]
    exact refused
  · rw [log]
    exact fair

theorem LimiterHistory.fresh (history : LimiterHistory system) :
    system.acquires ∉ settledIds system.log ∧ system.acquires ∉ enteredIds system.log ∧
      (system.queue.map PendingAcquire.id).filter (fun other => other ≠ system.acquires) =
        system.queue.map PendingAcquire.id := by
  have absent : ∀ id, id < system.acquires → id ≠ system.acquires := fun id => Nat.ne_of_lt
  refine ⟨?_, ?_, ?_⟩
  · intro settled
    exact absent _ ((history.calls _).mpr (.inl settled)) rfl
  · intro entered
    exact absent _ (history.entered_lt entered) rfl
  · rw [List.filter_eq_self]
    intro id member
    simpa using absent id ((history.calls id).mpr (.inr member))

theorem LimiterHistory.waiter (history : LimiterHistory system) (tracked : WaitersTracked system)
    {before after : List PendingAcquire} {pending : PendingAcquire}
    (split : system.queue = before ++ pending :: after) :
    pending.id ∉ settledIds system.log ∧ pending.id ∈ enteredIds system.log ∧
      pending.id < system.acquires ∧
      (before ++ after).map PendingAcquire.id =
        (system.queue.map PendingAcquire.id).filter (fun other => other ≠ pending.id) := by
  have member : pending.id ∈ system.queue.map PendingAcquire.id := by simp [split]
  have called := (history.calls _).mpr (.inr member)
  have distinct := tracked.distinct
  rw [history.waiting, List.mem_filter] at member
  refine ⟨by simpa using member.2, member.1, called, ?_⟩
  rw [split, List.map_append, List.map_cons, List.nodup_middle, List.nodup_cons,
    ← List.map_append] at distinct
  have others : ∀ id ∈ (before ++ after).map PendingAcquire.id, id ≠ pending.id := by
    rintro id present rfl
    exact distinct.1 present
  have removed : ((before ++ pending :: after).map PendingAcquire.id).filter
      (fun other => other ≠ pending.id) =
        ((before ++ after).map PendingAcquire.id).filter (fun other => other ≠ pending.id) := by
    simp
  rw [split, removed]
  exact (List.filter_eq_self.mpr (fun id present => by simpa using others id present)).symm

theorem counter_reject (id : ℕ) (durationMs : ℚ) (error : AcquireError)
    (outcome : AdmissionOutcome) :
    (system.reject id durationMs error).counter outcome =
      system.counter outcome + if error.outcome = outcome then 1 else 0 := by
  cases error <;> cases outcome <;> rfl

theorem counter_grant (id : ℕ) (waitTimeMs : ℚ) (outcome : AdmissionOutcome) :
    (system.grant id waitTimeMs).counter outcome =
      system.counter outcome + if .admitted = outcome then 1 else 0 := by
  cases outcome <;> rfl

theorem total_reject (system : LimiterSystem) (id : ℕ) (durationMs : ℚ) (error : AcquireError) :
    (system.reject id durationMs error).admitted + (system.reject id durationMs error).rejected +
        (system.reject id durationMs error).timedOut +
        (system.reject id durationMs error).aborted =
      system.admitted + system.rejected + system.timedOut + system.aborted + 1 := by
  cases error <;> simp [LimiterSystem.reject, AcquireError.outcome] <;> omega

/-! ### No overtaking -/

theorem mem_settled_of_waiting {id : ℕ} (history : LimiterHistory system)
    (entered : .queued id ∈ system.log) (gone : id ∉ system.queue.map PendingAcquire.id) :
    ∃ result, .settled id result ∈ system.log ∧ resultOutcome result ≠ .queueFull := by
  rw [history.waiting, List.mem_filter, not_and] at gone
  have settled := gone (mem_enteredIds.mpr entered)
  simp only [decide_eq_true_eq, not_not] at settled
  obtain ⟨result, member⟩ := mem_settledIds.mp settled
  exact ⟨result, member, fun full =>
    history.refused id result member full (mem_enteredIds.mpr entered)⟩

/-- Whoever entered before the oldest waiter has left the queue. -/
theorem LimiterHistory.oldest_first (history : LimiterHistory system) {oldest : PendingAcquire}
    {rest : List PendingAcquire} (front : system.queue = oldest :: rest)
    {earlier later : List LimiterEntry} {other : ℕ}
    (split : system.log = earlier ++ .queued other :: later) (different : other ≠ oldest.id)
    (before : .queued oldest.id ∉ earlier) :
    other ∉ system.queue.map PendingAcquire.id := by
  intro waiting
  have order := history.waiting
  rw [order, List.mem_filter] at waiting
  have entered : enteredIds system.log = enteredIds earlier ++ other :: enteredIds later := by
    simp [split, enteredIds, LimiterEntry.enteredId]
  rw [front, List.map_cons, entered, List.filter_append,
    List.filter_cons_of_pos (p := fun id => decide (id ∉ settledIds system.log)) waiting.2] at order
  cases ahead : (enteredIds earlier).filter (fun id => decide (id ∉ settledIds system.log)) with
  | nil =>
      rw [ahead, List.nil_append, List.cons.injEq] at order
      exact different order.1.symm
  | cons first others =>
      rw [ahead, List.cons_append, List.cons.injEq] at order
      have kept : first ∈
          (enteredIds earlier).filter (fun id => decide (id ∉ settledIds system.log)) := by
        rw [ahead]
        exact List.mem_cons_self
      rw [← order.1] at kept
      exact before (mem_enteredIds.mp (List.mem_filter.mp kept).1)

theorem notOvertaken_metric {log : List LimiterEntry} {id permit : ℕ} {durationMs : ℚ}
    {outcome : AdmissionOutcome}
    (overtaken : ∀ earlier other later, log = earlier ++ .queued other :: later → other ≠ id →
      .queued id ∉ earlier →
        ∃ result, .settled other result ∈ log ∧ resultOutcome result ≠ .queueFull) :
    NotOvertaken (log ++ [.metric outcome durationMs]) (.settled id (.ok permit)) := by
  intro earlier other later split different before
  have member : .queued other ∈ log := by
    have present : LimiterEntry.queued other ∈ log ++ [.metric outcome durationMs] := by
      simp [split]
    simpa using present
  rcases split_snoc split with ⟨_, impossible, _⟩ | ⟨rest, rfl, rfl⟩
  · cases impossible
  · obtain ⟨result, settled, kind⟩ := overtaken earlier other rest rfl different before
    exact ⟨result, List.mem_append_left _ settled, kind⟩

theorem LimiterHistory.refuse (history : LimiterHistory system) (error : AcquireError) :
    LimiterHistory
      ({ system with acquires := system.acquires + 1 }.reject system.acquires 0 error) := by
  obtain ⟨unsettled, unentered, same⟩ := history.fresh
  apply history.settle system.acquires 0 (.error error)
  · rfl
  · exact same.symm
  · exact unsettled
  · intro other
    exact Nat.lt_succ_iff_lt_or_eq
  · have sum := total_reject { system with acquires := system.acquires + 1 } system.acquires 0
      error
    have total := history.total
    simp only [LimiterSystem.reject] at sum ⊢
    omega
  · exact counter_reject _ _ _
  · exact fun _ => unentered
  · trivial

/-- A request that is granted a slot at once finds nobody waiting. -/
theorem LimiterHistory.grant (history : LimiterHistory system) (idle : system.queue = []) :
    LimiterHistory
      ({ system with
        acquires := system.acquires + 1
        active := system.active + 1 }.grant system.acquires 0) := by
  obtain ⟨unsettled, _, same⟩ := history.fresh
  apply history.settle system.acquires 0 (.ok system.permits.length)
  · rfl
  · exact same.symm
  · exact unsettled
  · intro other
    exact Nat.lt_succ_iff_lt_or_eq
  · have total := history.total
    simp only [LimiterSystem.grant]
    omega
  · exact counter_grant _ _
  · intro impossible
    cases impossible
  · apply notOvertaken_metric
    intro earlier other later split _ _
    apply mem_settled_of_waiting history
    · simp [split]
    · simp [idle]

theorem LimiterHistory.wait (history : LimiterHistory system) (pending : PendingAcquire)
    (timers : List ℕ) (listeners : List (ℕ × ℕ)) (called : pending.id = system.acquires) :
    LimiterHistory
      { system with
        acquires := system.acquires + 1
        timers := timers
        queue := system.queue ++ [pending]
        listeners := listeners
        log := system.log ++ [.queued system.acquires] } := by
  obtain ⟨unsettled, unentered, _⟩ := history.fresh
  obtain ⟨waiting, once, calls, total, settled, measured, refused, fair⟩ := history
  have entered : enteredIds (system.log ++ [.queued system.acquires]) =
      enteredIds system.log ++ [system.acquires] := by
    simp [enteredIds, LimiterEntry.enteredId]
  have kept : settledIds (system.log ++ [.queued system.acquires]) = settledIds system.log := by
    simp [settledIds, LimiterEntry.settledId]
  constructor
  · simp only [entered, kept, List.map_append, waiting, List.filter_append]
    simp [called, unsettled]
  · simpa only [kept] using once
  · intro id
    simp only [kept, List.map_append, List.mem_append, List.map_cons, List.map_nil,
      List.mem_singleton, called, Nat.lt_succ_iff_lt_or_eq, calls id, or_assoc]
  · simp only [List.length_append, List.length_singleton]
    omega
  · intro outcome
    rw [List.countP_append, ← settled outcome]
    rfl
  · intro outcome
    rw [List.countP_append, ← measured outcome]
    rfl
  · intro id result member full
    simp only [entered, List.mem_append, List.mem_singleton, not_or]
    have old : .settled id result ∈ system.log := by simpa using member
    refine ⟨refused id result old full, ?_⟩
    rintro rfl
    exact unsettled (mem_settledIds.mpr ⟨result, old⟩)
  · exact throughout_snoc.mpr ⟨fair, trivial⟩

theorem LimiterHistory.withdraw (history : LimiterHistory system) (tracked : WaitersTracked system)
    {before after : List PendingAcquire} {pending : PendingAcquire} {durationMs : ℚ}
    {error : AcquireError} (kind : error.outcome ≠ .queueFull)
    (split : system.queue = before ++ pending :: after) :
    LimiterHistory
      (({ system with queue := before ++ after }.cleanup pending.id).reject pending.id durationMs
        error) := by
  obtain ⟨unsettled, entered, called, left⟩ := history.waiter tracked split
  apply history.settle pending.id durationMs (.error error)
  · rfl
  · exact left
  · exact unsettled
  · intro other
    constructor
    · exact .inl
    · rintro (earlier | rfl)
      · exact earlier
      · exact called
  · have sum := total_reject ({ system with queue := before ++ after }.cleanup pending.id)
      pending.id durationMs error
    have total := history.total
    rw [split, List.length_append, List.length_cons] at total
    simp only [LimiterSystem.reject, LimiterSystem.cleanup, List.length_append] at sum ⊢
    omega
  · exact counter_reject _ _ _
  · exact fun full => absurd full kind
  · trivial

theorem LimiterHistory.handOver (history : LimiterHistory system) (tracked : WaitersTracked system)
    {oldest : PendingAcquire} {rest : List PendingAcquire} (front : system.queue = oldest :: rest)
    (permits : List ConcurrencyPermit) (waitTimeMs : ℚ) :
    LimiterHistory
      (({ system with permits := permits, queue := rest }.cleanup oldest.id).grant oldest.id
        waitTimeMs) := by
  have split : system.queue = [] ++ oldest :: rest := front
  obtain ⟨unsettled, entered, called, left⟩ := history.waiter tracked split
  apply history.settle oldest.id waitTimeMs (.ok permits.length)
  · rfl
  · exact left
  · exact unsettled
  · intro other
    constructor
    · exact .inl
    · rintro (earlier | rfl)
      · exact earlier
      · exact called
  · have total := history.total
    rw [front, List.length_cons] at total
    simp only [LimiterSystem.grant, LimiterSystem.cleanup]
    omega
  · exact counter_grant _ _
  · intro impossible
    cases impossible
  · apply notOvertaken_metric
    intro earlier other later position different before
    apply mem_settled_of_waiting history
    · simp [position]
    · exact history.oldest_first front position different before

theorem LimiterHistory.move (history : LimiterHistory system) (tracked : WaitersTracked system)
    (capacity : CapacityInvariant options system) (moved : LimiterMove options system next) :
    LimiterHistory next := by
  cases moved with
  | refuse error kind => exact history.refuse error
  | grant free =>
      apply history.grant
      by_contra waiting
      exact absurd (capacity.full waiting) (ne_of_lt free)
  | wait now signal busy room => exact history.wait _ _ _ rfl
  | withdraw durationMs error kind split => exact history.withdraw tracked kind split
  | vacate present held empty =>
      exact history.same rfl rfl rfl (fun outcome => by cases outcome <;> rfl)
  | handOver now present held front => exact history.handOver tracked front _ _
  | flag signal => exact history.same rfl rfl rfl (fun outcome => by cases outcome <;> rfl)

theorem LimiterHistory.moves (history : LimiterHistory system) (tracked : WaitersTracked system)
    (capacity : CapacityInvariant options system) (moved : LimiterMoves options system next) :
    LimiterHistory next := by
  induction moved with
  | refl => exact history
  | tail before last ih =>
      exact ih.move (tracked.moves before) (capacity.moves before) last

/-! ### Whole runs -/

def LimiterEvent.isAcquire : LimiterEvent → Bool
  | .acquire _ _ => true
  | _ => false

theorem acquires_withdraw (now : ℚ) (id : ℕ) (error : AcquireError) :
    (system.withdraw now id error).acquires = system.acquires := by
  unfold LimiterSystem.withdraw
  cases found : system.remove id with
  | none => rfl
  | some result =>
      obtain ⟨before, after, _, _, removed⟩ := remove_eq_some found
      simp [removed, LimiterSystem.reject, LimiterSystem.cleanup]

theorem acquires_abort (now : ℚ) (signal : ℕ) :
    (system.abort now signal).acquires = system.acquires := by
  have dispatch : ∀ (listeners : List (ℕ × ℕ)) (current : LimiterSystem),
      (listeners.foldl (fun current listener => current.notify now listener) current).acquires =
        current.acquires := by
    intro listeners
    induction listeners with
    | nil => exact fun current => rfl
    | cons listener rest ih =>
        intro current
        rw [List.foldl_cons, ih]
        unfold LimiterSystem.notify
        split_ifs
        · exact acquires_withdraw _ _ _
        · rfl
  unfold LimiterSystem.abort
  split_ifs
  · rfl
  · rw [dispatch]

theorem acquires_releasePermit (now : ℚ) (permit : ℕ) :
    (system.releasePermit now permit).acquires = system.acquires := by
  unfold LimiterSystem.releasePermit LimiterSystem.release
  split
  · rfl
  · split_ifs
    · rfl
    · split <;> rfl

theorem acquires_step {event : LimiterEvent} (taken : LimiterStep options system event next) :
    next.acquires = system.acquires + if event.isAcquire then 1 else 0 := by
  cases taken with
  | acquire now signal =>
      rw [LimiterEvent.isAcquire, if_pos rfl]
      simp only [LimiterSystem.acquire]
      split_ifs <;> rfl
  | release now granted => exact acquires_releasePermit now _
  | abort now signal => exact acquires_abort now signal
  | expire now armed => exact acquires_withdraw _ _ _

structure LimiterContract (options : InMemoryConcurrencyLimiterOptions)
    (events : List LimiterEvent) (system : LimiterSystem) : Prop where
  /-- Whoever entered the queue before an admitted request had settled by then. -/
  ordered : ∀ before id permit after, system.log = before ++ .settled id (.ok permit) :: after →
    ∀ earlier other later, before = earlier ++ .queued other :: later → other ≠ id →
      .queued id ∉ earlier →
        ∃ result, .settled other result ∈ before ∧ resultOutcome result ≠ .queueFull
  /-- A slot is taken at once only if nobody waits. -/
  immediate : ∀ now signal next permit, LimiterStep options system (.acquire now signal) next →
    .settled system.acquires (.ok permit) ∈ next.log → system.queue = []
  once : ∀ id, (settledIds system.log).count id ≤ 1
  /-- Every call has settled or waits. -/
  settledOrWaiting : ∀ id, id < events.countP LimiterEvent.isAcquire ↔
    id ∈ settledIds system.log ∨ ∃ pending ∈ system.queue, pending.id = id
  accounted : events.countP LimiterEvent.isAcquire =
    system.snapshot.admitted + system.snapshot.rejected + system.snapshot.timedOut +
      system.snapshot.aborted + system.snapshot.queued
  counted : ∀ outcome,
    system.counter outcome = system.log.countP (LimiterEntry.settledWith outcome) ∧
      system.counter outcome = system.log.countP (LimiterEntry.measuredWith outcome)
  /-- Nothing is left that could act for a settled request. -/
  silent : ∀ id result, .settled id result ∈ system.log →
    id ∉ system.timers ∧ (∀ signal, (signal, id) ∉ system.listeners) ∧
      ∀ pending ∈ system.queue, pending.id ≠ id

theorem LimiterHistory.immediate (history : LimiterHistory system)
    (capacity : CapacityInvariant options system) {now : ℚ} {signal : Option ℕ} {permit : ℕ}
    (settled : .settled system.acquires (.ok permit) ∈ (system.acquire options now signal).log) :
    system.queue = [] := by
  have unsettled : LimiterEntry.settled system.acquires (.ok permit) ∉ system.log :=
    fun member => history.fresh.1 (mem_settledIds.mpr ⟨_, member⟩)
  simp only [LimiterSystem.acquire] at settled
  split_ifs at settled with aborted free full
  · simp [LimiterSystem.reject, unsettled] at settled
  · by_contra waiting
    exact absurd (capacity.full waiting) (ne_of_lt free)
  · simp [LimiterSystem.reject, unsettled] at settled
  · simp [unsettled] at settled

theorem limiterHistory_initial : LimiterHistory .initial where
  waiting := rfl
  once := List.nodup_nil
  calls := by simp [LimiterSystem.initial, settledIds]
  total := rfl
  settled := by
    intro outcome
    cases outcome <;> rfl
  measured := by
    intro outcome
    cases outcome <;> rfl
  refused := by simp [LimiterSystem.initial]
  fair := throughout_nil _

/-- The limiter serves requests in the order of their arrival, settles each of them
at most once and accounts for all of them, in every state of every run. -/
theorem limiter_fair (options : InMemoryConcurrencyLimiterOptions) {events : List LimiterEvent}
    {system : LimiterSystem} (run : Run (LimiterStep options) .initial events system) :
    LimiterContract options events system := by
  obtain ⟨tracked, capacity, _⟩ := limiterInvariant_of_run run
  have recorded := run.historyInvariant
    (fun history state => LimiterInvariant options history state ∧ LimiterHistory state ∧
      state.acquires = history.countP LimiterEvent.isAcquire)
    ⟨limiterInvariant_initial options, limiterHistory_initial, rfl⟩
    (by
      rintro events state event next ⟨invariant, history, calls⟩ taken
      refine ⟨invariant.step taken, ?_, ?_⟩
      · exact history.moves invariant.tracked invariant.capacity (invariant.tracked.step taken)
      · rw [acquires_step taken, calls, List.countP_append]
        cases event <;> rfl)
  obtain ⟨_, history, calls⟩ := recorded
  constructor
  · intro before id permit after split
    exact history.fair before _ after split
  · intro now signal next permit taken settled
    cases taken with
    | acquire now signal => exact history.immediate capacity settled
  · exact fun id => List.nodup_iff_count_le_one.mp history.once id
  · intro id
    rw [← calls, history.calls]
    simp
  · rw [← calls]
    exact history.total
  · exact fun outcome => ⟨history.settled outcome, history.measured outcome⟩
  · intro id result settled
    have gone : ∀ pending ∈ system.queue, pending.id ≠ id := by
      rintro pending member rfl
      have waiting : pending.id ∈ system.queue.map PendingAcquire.id := List.mem_map_of_mem member
      rw [history.waiting, List.mem_filter] at waiting
      have unsettled : pending.id ∉ settledIds system.log := by simpa using waiting.2
      exact unsettled (mem_settledIds.mpr ⟨result, settled⟩)
    refine ⟨?_, ?_, gone⟩
    · intro armed
      obtain ⟨pending, member, same⟩ := (tracked.timers id).mp armed
      exact gone pending member same
    · intro signal registered
      obtain ⟨pending, member, same, _⟩ := (tracked.listeners signal id).mp registered
      exact gone pending member same

theorem limiter_fair_handedOver :
    settledIds sampleHandedOver.log = [0, 1] ∧ (settledIds sampleHandedOver.log).count 1 ≤ 1 ∧
      1 ∉ sampleHandedOver.timers := by
  have contract := limiter_fair sampleLimiterOptions sample_run_handedOver
  have settled : settledIds sampleHandedOver.log = [0, 1] := by decide
  obtain ⟨result, member⟩ : ∃ result, .settled 1 result ∈ sampleHandedOver.log :=
    mem_settledIds.mp (by simp [settled])
  exact ⟨settled, contract.once 1, (contract.silent 1 result member).1⟩

end ModelMux.Concurrency
