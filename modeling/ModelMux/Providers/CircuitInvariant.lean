/-
The circuit against its history.

A trace, kept beside the breaker and computed from the circuit states and the
events alone, holds the calls admitted since the circuit last opened or its
last probe resolved, and how those calls have settled.  The generation
counter is an implementation of this trace: a call in flight is of the current
generation exactly when the trace holds it.  The single probe and the meaning
of the failure counter follow.
-/

import ModelMux.Providers.CircuitBreaker

namespace ModelMux.Providers

structure CircuitTrace where
  admitted : List ℕ
  outcomes : List Settlement

def CircuitTrace.empty : CircuitTrace := ⟨[], []⟩

/-- The circuit opens or its probe resolves. -/
def PeriodEnds (before after : CircuitState) : Prop :=
  (before ≠ .opened ∧ after = .opened) ∨ (before = .halfOpen ∧ after ≠ .halfOpen)

instance (before after : CircuitState) : Decidable (PeriodEnds before after) :=
  inferInstanceAs (Decidable (_ ∨ _))

def CircuitTrace.extend (trace : CircuitTrace) : CircuitEvent → CircuitTrace
  | .admitted _ call => { trace with admitted := call :: trace.admitted }
  | .settled _ call outcome =>
      if call ∈ trace.admitted then { trace with outcomes := trace.outcomes ++ [outcome] }
      else trace
  | .rejected _ _ _ => trace
  | .observed _ _ => trace

def CircuitTrace.observe (trace : CircuitTrace) (before : CircuitSystem) (event : CircuitEvent)
    (after : CircuitSystem) : CircuitTrace :=
  if PeriodEnds before.breaker.state after.breaker.state then .empty else trace.extend event

def TracedStep (options : CircuitBreakerOptions) :
    CircuitSystem × CircuitTrace → CircuitEvent → CircuitSystem × CircuitTrace → Prop :=
  Run.Instrumented (CircuitStep options) CircuitTrace.observe

/-- The transient failures after the last success or permanent error, where
ignored settlements do not count either way. -/
def trailingFailures (outcomes : List Settlement) : ℕ :=
  ((outcomes.filter (fun outcome => outcome ≠ .ignored)).reverse.takeWhile
    (fun outcome => outcome = .transient)).length

@[simp]
theorem trailingFailures_snoc (outcomes : List Settlement) (outcome : Settlement) :
    trailingFailures (outcomes ++ [outcome]) =
      match outcome with
      | .success => 0
      | .permanent => 0
      | .transient => trailingFailures outcomes + 1
      | .ignored => trailingFailures outcomes := by
  cases outcome <;> simp [trailingFailures]

theorem not_periodEnds_self (state : CircuitState) : ¬PeriodEnds state state := by
  rintro (⟨before, after⟩ | ⟨before, after⟩)
  · exact before after
  · exact after before

/-! ### The invariant -/

/-- The generations of the calls in flight agree with the trace. -/
structure CallsTracked (system : CircuitSystem) (trace : CircuitTrace) : Prop where
  distinct : (system.inFlight.map CircuitCall.id).Nodup
  known : ∀ pending ∈ system.inFlight, pending.id ∈ system.calls
  admittedKnown : ∀ call ∈ trace.admitted, call ∈ system.calls
  bounded : ∀ pending ∈ system.inFlight, pending.generation ≤ system.breaker.generation
  current : ∀ pending ∈ system.inFlight,
    pending.generation = system.breaker.generation ↔ pending.id ∈ trace.admitted

def CircuitSystem.recent (system : CircuitSystem) (trace : CircuitTrace) : List CircuitCall :=
  system.inFlight.filter (fun pending => pending.id ∈ trace.admitted)

structure CircuitInvariant (options : CircuitBreakerOptions) (system : CircuitSystem)
    (trace : CircuitTrace) : Prop where
  tracked : CallsTracked system trace
  closedIff : system.breaker.state = .closed ↔
    system.breaker.consecutiveFailures < options.failureThreshold
  probe : system.breaker.state = .halfOpen → ∃ probe, system.recent trace = [probe]
  vacant : system.breaker.state = .opened → system.recent trace = []
  openedBefore : system.breaker.state = .opened → system.breaker.openedAt ≤ system.clock
  counted : system.breaker.state = .closed →
    system.breaker.consecutiveFailures = trailingFailures trace.outcomes

variable {options : CircuitBreakerOptions} {system next : CircuitSystem} {trace : CircuitTrace}
  {event : CircuitEvent}

theorem mem_recent {pending : CircuitCall} :
    pending ∈ system.recent trace ↔
      pending ∈ system.inFlight ∧ pending.id ∈ trace.admitted := by
  simp [CircuitSystem.recent]

theorem circuitInvariant_initial (options : CircuitBreakerOptions) (clock : ℚ) :
    CircuitInvariant options (.initial clock) .empty where
  tracked :=
    { distinct := List.nodup_nil
      known := by simp [CircuitSystem.initial]
      admittedKnown := by simp [CircuitTrace.empty]
      bounded := by simp [CircuitSystem.initial]
      current := by simp [CircuitSystem.initial] }
  closedIff := by
    have positive := options.thresholdPositive
    simp [CircuitSystem.initial, CircuitBreaker.initial, positive]
  probe := by simp [CircuitSystem.initial, CircuitBreaker.initial]
  vacant := by simp [CircuitSystem.initial, CircuitBreaker.initial]
  openedBefore := by simp [CircuitSystem.initial, CircuitBreaker.initial]
  counted := by
    intro _
    rfl

theorem CircuitInvariant.advance (invariant : CircuitInvariant options system trace)
    {now : ℚ} {calls : List ℕ} (later : system.clock ≤ now)
    (kept : ∀ call ∈ system.calls, call ∈ calls) :
    CircuitInvariant options { system with clock := now, calls := calls } trace where
  tracked :=
    { distinct := invariant.tracked.distinct
      known := fun pending member => kept _ (invariant.tracked.known pending member)
      admittedKnown := fun call member => kept _ (invariant.tracked.admittedKnown call member)
      bounded := invariant.tracked.bounded
      current := invariant.tracked.current }
  closedIff := invariant.closedIff
  probe := invariant.probe
  vacant := invariant.vacant
  openedBefore := fun isOpen => (invariant.openedBefore isOpen).trans later
  counted := invariant.counted

/-! ### Admission -/

theorem CallsTracked.start (tracked : CallsTracked system trace) {now : ℚ} {call : ℕ}
    {breaker : CircuitBreaker} (fresh : call ∉ system.calls)
    (generation : breaker.generation = system.breaker.generation) :
    CallsTracked (system.start now call breaker)
      { trace with admitted := call :: trace.admitted } where
  distinct := by
    rw [CircuitSystem.start, List.map_cons, List.nodup_cons]
    constructor
    · intro member
      obtain ⟨pending, present, same⟩ := List.mem_map.mp member
      have known := tracked.known pending present
      rw [same] at known
      exact fresh known
    · exact tracked.distinct
  known := by
    intro pending member
    rcases List.mem_cons.mp member with rfl | present
    · exact List.mem_cons_self
    · exact List.mem_cons_of_mem _ (tracked.known pending present)
  admittedKnown := by
    intro other member
    rcases List.mem_cons.mp member with rfl | present
    · exact List.mem_cons_self
    · exact List.mem_cons_of_mem _ (tracked.admittedKnown other present)
  bounded := by
    intro pending member
    rcases List.mem_cons.mp member with rfl | present
    · exact le_rfl
    · exact (tracked.bounded pending present).trans_eq generation.symm
  current := by
    intro pending member
    rcases List.mem_cons.mp member with rfl | present
    · simp [CircuitSystem.start]
    · have other : pending.id ≠ call := by
        rintro rfl
        exact fresh (tracked.known pending present)
      simpa [CircuitSystem.start, generation, other] using tracked.current pending present

theorem recent_start (tracked : CallsTracked system trace) {now : ℚ} {call : ℕ}
    {breaker : CircuitBreaker} (fresh : call ∉ system.calls) :
    (system.start now call breaker).recent { trace with admitted := call :: trace.admitted } =
      ⟨call, breaker.generation⟩ :: system.recent trace := by
  have others : ∀ pending ∈ system.inFlight,
      decide (pending.id ∈ call :: trace.admitted) = decide (pending.id ∈ trace.admitted) := by
    intro pending member
    have other : pending.id ≠ call := by
      rintro rfl
      exact fresh (tracked.known pending member)
    simp [other]
  simp only [CircuitSystem.recent, CircuitSystem.start]
  rw [List.filter_cons_of_pos (by simp), List.filter_congr others]

theorem CircuitInvariant.start (invariant : CircuitInvariant options system trace) {now : ℚ}
    {call : ℕ} {breaker : CircuitBreaker} (fresh : call ∉ system.calls)
    (accepted : system.breaker.enter options now = .ok breaker) :
    CircuitInvariant options (system.start now call breaker)
      { trace with admitted := call :: trace.admitted } := by
  rcases CircuitBreaker.enter_ok_iff.mp accepted with ⟨closed, rfl⟩ | ⟨isOpen, _, rfl⟩
  · exact
      { tracked := invariant.tracked.start fresh rfl
        closedIff := invariant.closedIff
        probe := by simp [CircuitSystem.start, closed]
        vacant := by simp [CircuitSystem.start, closed]
        openedBefore := by simp [CircuitSystem.start, closed]
        counted := invariant.counted }
  · have full : ¬system.breaker.consecutiveFailures < options.failureThreshold := by
      rw [← invariant.closedIff, isOpen]
      simp
    exact
      { tracked := invariant.tracked.start fresh rfl
        closedIff := by simp [CircuitSystem.start, full]
        probe := by
          intro _
          rw [recent_start invariant.tracked fresh, invariant.vacant isOpen]
          exact ⟨_, rfl⟩
        vacant := by simp [CircuitSystem.start]
        openedBefore := by simp [CircuitSystem.start]
        counted := by simp [CircuitSystem.start] }

/-! ### Settlement -/

theorem mem_finish {pending : CircuitCall} {now : ℚ} {call : ℕ} {breaker : CircuitBreaker} :
    pending ∈ (system.finish now call breaker).inFlight ↔
      pending ∈ system.inFlight ∧ pending.id ≠ call := by
  simp [CircuitSystem.finish]

theorem distinct_finish (distinct : (system.inFlight.map CircuitCall.id).Nodup) (now : ℚ)
    (call : ℕ) (breaker : CircuitBreaker) :
    ((system.finish now call breaker).inFlight.map CircuitCall.id).Nodup :=
  distinct.sublist (List.filter_sublist.map _)

theorem CallsTracked.finish (tracked : CallsTracked system trace) (now : ℚ) (call : ℕ)
    {breaker : CircuitBreaker} (outcomes : List Settlement)
    (generation : breaker.generation = system.breaker.generation) :
    CallsTracked (system.finish now call breaker) { trace with outcomes := outcomes } where
  distinct := distinct_finish tracked.distinct now call breaker
  known := fun pending member => tracked.known pending (mem_finish.mp member).1
  admittedKnown := tracked.admittedKnown
  bounded := fun pending member =>
    (tracked.bounded pending (mem_finish.mp member).1).trans_eq generation.symm
  current := by
    intro pending member
    have current := tracked.current pending (mem_finish.mp member).1
    rw [← generation] at current
    exact current

/-- A settlement has ended the period: all calls left are of older generations. -/
theorem CallsTracked.renew (tracked : CallsTracked system trace) (now : ℚ) (call : ℕ)
    {breaker : CircuitBreaker} (generation : breaker.generation = system.breaker.generation + 1) :
    CallsTracked (system.finish now call breaker) .empty where
  distinct := distinct_finish tracked.distinct now call breaker
  known := fun pending member => tracked.known pending (mem_finish.mp member).1
  admittedKnown := by simp [CircuitTrace.empty]
  bounded := by
    intro pending member
    have older := tracked.bounded pending (mem_finish.mp member).1
    change pending.generation ≤ breaker.generation
    omega
  current := by
    intro pending member
    have older := tracked.bounded pending (mem_finish.mp member).1
    change pending.generation = breaker.generation ↔ pending.id ∈ []
    simp only [List.not_mem_nil, iff_false]
    omega

theorem recent_finish_stale {now : ℚ} {call : ℕ} {breaker : CircuitBreaker}
    (stale : call ∉ trace.admitted) :
    (system.finish now call breaker).recent trace = system.recent trace := by
  simp only [CircuitSystem.recent, CircuitSystem.finish, List.filter_filter]
  apply List.filter_congr
  intro pending _
  by_cases admitted : pending.id ∈ trace.admitted
  · have other : pending.id ≠ call := by
      rintro rfl
      exact stale admitted
    simp [admitted, other]
  · simp [admitted]

theorem CircuitInvariant.settle_stale (invariant : CircuitInvariant options system trace) {now : ℚ}
    {call : ℕ} (later : system.clock ≤ now) (stale : call ∉ trace.admitted) :
    CircuitInvariant options (system.finish now call system.breaker) trace where
  tracked := invariant.tracked.finish now call trace.outcomes rfl
  closedIff := invariant.closedIff
  probe := by
    intro half
    rw [recent_finish_stale stale]
    exact invariant.probe half
  vacant := by
    intro isOpen
    rw [recent_finish_stale stale]
    exact invariant.vacant isOpen
  openedBefore := fun isOpen => (invariant.openedBefore isOpen).trans later
  counted := invariant.counted

theorem CircuitInvariant.settle_within (invariant : CircuitInvariant options system trace)
    {now : ℚ} {call : ℕ} {failures : ℕ} {outcome : Settlement}
    (closed : system.breaker.state = .closed) (below : failures < options.failureThreshold)
    (counted : failures = trailingFailures (trace.outcomes ++ [outcome])) :
    CircuitInvariant options
      (system.finish now call { system.breaker with consecutiveFailures := failures })
      { trace with outcomes := trace.outcomes ++ [outcome] } where
  tracked := invariant.tracked.finish now call _ rfl
  closedIff := by simp [CircuitSystem.finish, closed, below]
  probe := by simp [CircuitSystem.finish, closed]
  vacant := by simp [CircuitSystem.finish, closed]
  openedBefore := by simp [CircuitSystem.finish, closed]
  counted := fun _ => counted

def Renewed (options : CircuitBreakerOptions) (now : ℚ) (breaker : CircuitBreaker) : Prop :=
  (breaker.state = .closed ∧ breaker.consecutiveFailures = 0) ∨
    (breaker.state = .opened ∧ options.failureThreshold ≤ breaker.consecutiveFailures ∧
      breaker.openedAt ≤ now)

theorem CircuitInvariant.settle_renew (invariant : CircuitInvariant options system trace) {now : ℚ}
    {call : ℕ} {breaker : CircuitBreaker}
    (generation : breaker.generation = system.breaker.generation + 1)
    (renewed : Renewed options now breaker) :
    CircuitInvariant options (system.finish now call breaker) .empty := by
  rcases renewed with ⟨closed, zero⟩ | ⟨isOpen, full, before⟩
  · have positive := options.thresholdPositive
    exact
      { tracked := invariant.tracked.renew now call generation
        closedIff := by simp [CircuitSystem.finish, closed, zero, positive]
        probe := by simp [CircuitSystem.finish, closed]
        vacant := by simp [CircuitSystem.finish, closed]
        openedBefore := by simp [CircuitSystem.finish, closed]
        counted := fun _ => zero }
  · exact
      { tracked := invariant.tracked.renew now call generation
        closedIff := by simp [CircuitSystem.finish, isOpen, not_lt.mpr full]
        probe := by simp [CircuitSystem.finish, isOpen]
        vacant := by simp [CircuitSystem.recent, CircuitTrace.empty]
        openedBefore := fun _ => before
        counted := by simp [CircuitSystem.finish, isOpen] }

/-- A call of the current period settles only while the circuit is not open. -/
theorem CircuitInvariant.not_opened (invariant : CircuitInvariant options system trace)
    {pending : CircuitCall} (member : pending ∈ system.inFlight)
    (admitted : pending.id ∈ trace.admitted) : system.breaker.state ≠ .opened := by
  intro isOpen
  have recent := mem_recent.mpr ⟨member, admitted⟩
  rw [invariant.vacant isOpen] at recent
  cases recent

theorem observe_ends (ends : PeriodEnds system.breaker.state next.breaker.state) :
    trace.observe system event next = .empty :=
  if_pos ends

theorem observe_same (same : next.breaker.state = system.breaker.state) :
    trace.observe system event next = trace.extend event := by
  rw [CircuitTrace.observe, same, if_neg (not_periodEnds_self _)]

section Settle

variable {now : ℚ} {call : ℕ} {outcome : Settlement}

theorem CircuitInvariant.settle_closed (invariant : CircuitInvariant options system trace)
    (closed : system.breaker.state = .closed) (admitted : call ∈ trace.admitted)
    (settled : next = system.finish now call
      (system.breaker.settle options system.breaker.generation now outcome)) :
    CircuitInvariant options next (trace.observe system (.settled now call outcome) next) := by
  have counted := invariant.counted closed
  have below := invariant.closedIff.mp closed
  have positive := options.thresholdPositive
  have within : ∀ failures, failures < options.failureThreshold →
      failures = trailingFailures (trace.outcomes ++ [outcome]) →
      next = system.finish now call { system.breaker with consecutiveFailures := failures } →
      CircuitInvariant options next (trace.observe system (.settled now call outcome) next) := by
    intro failures bounded trailing settled
    have same : next.breaker.state = system.breaker.state := by
      rw [settled]
      rfl
    rw [observe_same same, CircuitTrace.extend, if_pos admitted, settled]
    exact invariant.settle_within closed bounded trailing
  rw [CircuitBreaker.settle_closed closed] at settled
  cases outcome with
  | success => exact within 0 positive (by simp) settled
  | permanent => exact within 0 positive (by simp) settled
  | ignored => exact within _ below (by simp [counted]) settled
  | transient =>
      by_cases trips : options.failureThreshold ≤ system.breaker.consecutiveFailures + 1
      · rw [if_pos trips] at settled
        subst settled
        rw [observe_ends (.inl ⟨by simp [closed], rfl⟩)]
        exact invariant.settle_renew rfl (.inr ⟨rfl, trips, le_rfl⟩)
      · rw [if_neg trips] at settled
        exact within _ (not_le.mp trips) (by simp [counted]) settled

theorem CircuitInvariant.settle_halfOpen (invariant : CircuitInvariant options system trace)
    (half : system.breaker.state = .halfOpen)
    (settled : next = system.finish now call
      (system.breaker.settle options system.breaker.generation now outcome)) :
    CircuitInvariant options next (trace.observe system (.settled now call outcome) next) := by
  have full : options.failureThreshold ≤ system.breaker.consecutiveFailures := by
    by_contra below
    have closed := invariant.closedIff.mpr (not_le.mp below)
    rw [half] at closed
    cases closed
  have renew : ∀ breaker : CircuitBreaker, breaker.state ≠ .halfOpen →
      breaker.generation = system.breaker.generation + 1 → Renewed options now breaker →
      next = system.finish now call breaker →
      CircuitInvariant options next (trace.observe system (.settled now call outcome) next) := by
    rintro breaker resolved generation renewed rfl
    rw [observe_ends (.inr ⟨half, resolved⟩)]
    exact invariant.settle_renew generation renewed
  rw [CircuitBreaker.settle_halfOpen half] at settled
  cases outcome with
  | success => exact renew _ (by simp) rfl (.inl ⟨rfl, rfl⟩) settled
  | permanent => exact renew _ (by simp) rfl (.inl ⟨rfl, rfl⟩) settled
  | transient => exact renew _ (by simp) rfl (.inr ⟨rfl, by simp; omega, le_rfl⟩) settled
  | ignored =>
      have past : now - options.resetTimeoutMs ≤ now := sub_le_self _ (Nat.cast_nonneg _)
      exact renew ⟨.opened, _, _, _⟩ (by simp) rfl (.inr ⟨rfl, full, past⟩) settled

theorem CircuitInvariant.settle (invariant : CircuitInvariant options system trace)
    {generation : ℕ} (later : system.clock ≤ now)
    (pending : ⟨call, generation⟩ ∈ system.inFlight)
    (settled : next = system.finish now call
      (system.breaker.settle options generation now outcome)) :
    CircuitInvariant options next (trace.observe system (.settled now call outcome) next) := by
  have currentIff := invariant.tracked.current _ pending
  simp only at currentIff
  by_cases current : generation = system.breaker.generation
  · have admitted := currentIff.mp current
    subst current
    cases phase : system.breaker.state with
    | closed => exact invariant.settle_closed phase admitted settled
    | opened => exact absurd phase (invariant.not_opened pending admitted)
    | halfOpen => exact invariant.settle_halfOpen phase settled
  · have stale := mt currentIff.mpr current
    rw [CircuitBreaker.settle_stale current] at settled
    have same : next.breaker.state = system.breaker.state := by
      rw [settled]
      rfl
    rw [observe_same same, CircuitTrace.extend, if_neg stale, settled]
    exact invariant.settle_stale later stale

end Settle

/-! ### Whole runs -/

theorem CircuitInvariant.step (invariant : CircuitInvariant options system trace)
    (taken : CircuitStep options system event next) :
    CircuitInvariant options next (trace.observe system event next) := by
  cases taken with
  | @rejected now call error later fresh refused =>
      rw [@observe_same system { system with clock := now, calls := call :: system.calls } _ _ rfl]
      exact invariant.advance later (fun _ member => List.mem_cons_of_mem _ member)
  | @admitted now call breaker later fresh accepted =>
      have goesOn : ¬PeriodEnds system.breaker.state breaker.state := by
        rcases CircuitBreaker.enter_ok_iff.mp accepted with ⟨_, rfl⟩ | ⟨isOpen, _, rfl⟩
        · exact not_periodEnds_self _
        · simp [PeriodEnds, isOpen]
      have extended : trace.observe system (.admitted now call) (system.start now call breaker) =
          trace.extend (.admitted now call) := if_neg goesOn
      rw [extended]
      exact invariant.start fresh accepted
  | settled later pending => exact invariant.settle later pending rfl
  | @observed now later =>
      rw [@observe_same system { system with clock := now } _ _ rfl]
      exact invariant.advance later (fun _ member => member)

theorem circuitInvariant_of_run {clock : ℚ} {events : List CircuitEvent}
    (run : Run (TracedStep options) (.initial clock, .empty) events (system, trace)) :
    CircuitInvariant options system trace :=
  run.invariant (fun state => CircuitInvariant options state.1 state.2)
    (circuitInvariant_initial options clock) (by
      rintro ⟨system, trace⟩ event ⟨next, trace'⟩ invariant ⟨taken, observed⟩
      simp only at observed
      subst observed
      exact invariant.step taken)

/-- Every run has a trace, and the invariant holds with it. -/
theorem exists_trace {clock : ℚ} {events : List CircuitEvent}
    (run : Run (CircuitStep options) (.initial clock) events system) :
    ∃ trace, Run (TracedStep options) (.initial clock, .empty) events (system, trace) ∧
      CircuitInvariant options system trace := by
  obtain ⟨trace, traced⟩ := run.instrument CircuitTrace.observe .empty
  exact ⟨trace, traced, circuitInvariant_of_run traced⟩

/-! ### The probe -/

/-- The probe is the only call of the current generation. -/
theorem CircuitInvariant.probe_unique (invariant : CircuitInvariant options system trace)
    (half : system.breaker.state = .halfOpen) :
    ∃ probe ∈ system.inFlight, probe.generation = system.breaker.generation ∧
      ∀ pending ∈ system.inFlight, pending.generation = system.breaker.generation →
        pending = probe := by
  obtain ⟨probe, only⟩ := invariant.probe half
  have recent : probe ∈ system.recent trace := by simp [only]
  obtain ⟨member, admitted⟩ := mem_recent.mp recent
  refine ⟨probe, member, (invariant.tracked.current probe member).mpr admitted, ?_⟩
  intro pending present current
  have found := mem_recent.mpr ⟨present, (invariant.tracked.current pending present).mp current⟩
  rw [only] at found
  exact List.mem_singleton.mp found

theorem CircuitInvariant.probe_resolves (invariant : CircuitInvariant options system trace)
    {now : ℚ} {call : ℕ} {outcome : Settlement} (half : system.breaker.state = .halfOpen)
    (admitted : call ∈ trace.admitted)
    (taken : CircuitStep options system (.settled now call outcome) next) :
    next.breaker.state ≠ .halfOpen := by
  cases taken with
  | settled later pending =>
      have current := (invariant.tracked.current _ pending).mpr admitted
      simp only at current
      subst current
      change (system.breaker.settle options _ now outcome).state ≠ .halfOpen
      rw [CircuitBreaker.settle_halfOpen half]
      cases outcome <;> simp

/-- A half-open circuit has exactly one call in flight that was admitted since it
last opened or its last probe resolved, and any settlement of that call leaves
the half-open state; an open circuit has no call of the current generation in
flight; a circuit is closed exactly below the threshold. -/
theorem single_probe (options : CircuitBreakerOptions) {clock : ℚ} {events : List CircuitEvent}
    {system : CircuitSystem} (run : Run (CircuitStep options) (.initial clock) events system) :
    ∃ trace, Run (TracedStep options) (.initial clock, .empty) events (system, trace) ∧
      (system.breaker.state = .halfOpen →
        ∃ probe, system.recent trace = [probe] ∧
          ∀ now outcome, system.clock ≤ now →
            (∃ next, CircuitStep options system (.settled now probe.id outcome) next) ∧
            ∀ next, CircuitStep options system (.settled now probe.id outcome) next →
              next.breaker.state ≠ .halfOpen) ∧
      (system.breaker.state = .opened →
        ∀ pending ∈ system.inFlight, pending.generation ≠ system.breaker.generation) ∧
      (system.breaker.state = .closed ↔
        system.breaker.consecutiveFailures < options.failureThreshold) := by
  obtain ⟨trace, traced, invariant⟩ := exists_trace run
  refine ⟨trace, traced, ?_, ?_, invariant.closedIff⟩
  · intro half
    obtain ⟨probe, only⟩ := invariant.probe half
    have recent : probe ∈ system.recent trace := by simp [only]
    obtain ⟨pending, admitted⟩ := mem_recent.mp recent
    refine ⟨probe, only, ?_⟩
    intro now outcome later
    exact ⟨⟨_, .settled later pending⟩,
      fun next taken => invariant.probe_resolves half admitted taken⟩
  · intro isOpen pending member current
    have admitted := (invariant.tracked.current pending member).mp current
    exact invariant.not_opened member admitted isOpen

def sampleOptions : CircuitBreakerOptions := ⟨1, 1000, by decide, by decide⟩

def sampleStarted : CircuitSystem := ⟨0, .initial, [⟨0, 0⟩], [0]⟩

def sampleClosed : CircuitSystem := ⟨1, .initial, [⟨1, 0⟩, ⟨0, 0⟩], [1, 0]⟩

/-- One of them has failed and opened the circuit. -/
def sampleOpened : CircuitSystem := ⟨2, ⟨.opened, 1, 2, 1⟩, [⟨1, 0⟩], [1, 0]⟩

def sampleHalfOpen : CircuitSystem := ⟨1002, ⟨.halfOpen, 1, 2, 1⟩, [⟨2, 1⟩, ⟨1, 0⟩], [2, 1, 0]⟩

theorem sample_run_started :
    Run (CircuitStep sampleOptions) (.initial 0) [.admitted 0 0] sampleStarted :=
  Run.single (.admitted (by decide) (by decide) rfl)

theorem sample_admits : CircuitStep sampleOptions sampleStarted (.admitted 1 1) sampleClosed :=
  .admitted (by decide) (by decide) rfl

theorem sample_run_closed :
    Run (CircuitStep sampleOptions) (.initial 0) [.admitted 0 0, .admitted 1 1] sampleClosed :=
  sample_run_started.snoc sample_admits

theorem sample_opens :
    CircuitStep sampleOptions sampleClosed (.settled 2 0 .transient) sampleOpened := by
  have taken := @CircuitStep.settled sampleOptions sampleClosed 2 0 0 .transient
    (by decide) (by decide)
  exact taken

theorem sample_run_opened :
    Run (CircuitStep sampleOptions) (.initial 0)
      [.admitted 0 0, .admitted 1 1, .settled 2 0 .transient] sampleOpened :=
  sample_run_closed.snoc sample_opens

theorem sample_cooled :
    sampleOpened.breaker.enter sampleOptions 1002 = .ok sampleHalfOpen.breaker := by
  apply CircuitBreaker.enter_ok_iff.mpr
  right
  refine ⟨rfl, ?_, rfl⟩
  norm_num [sampleOpened, sampleOptions]

theorem sample_probes :
    CircuitStep sampleOptions sampleOpened (.admitted 1002 2) sampleHalfOpen :=
  .admitted (by decide) (by decide) sample_cooled

theorem single_probe_sample :
    ∃ trace, Run (TracedStep sampleOptions) (.initial 0, .empty)
      [.admitted 0 0, .admitted 1 1, .settled 2 0 .transient, .admitted 1002 2]
      (sampleHalfOpen, trace) ∧ ∃ probe, sampleHalfOpen.recent trace = [probe] := by
  have run := sample_run_opened.snoc sample_probes
  obtain ⟨trace, traced, probed, _⟩ := single_probe sampleOptions run
  obtain ⟨probe, only, _⟩ := probed rfl
  exact ⟨trace, traced, probe, only⟩

/-! ### The failure counter -/

theorem CircuitInvariant.opens_iff (invariant : CircuitInvariant options system trace)
    (closed : system.breaker.state = .closed) (taken : CircuitStep options system event next) :
    next.breaker.state = .opened ↔
      ∃ now call outcome, event = .settled now call outcome ∧ call ∈ trace.admitted ∧
        trailingFailures (trace.outcomes ++ [outcome]) = options.failureThreshold := by
  have counted := invariant.counted closed
  have below := invariant.closedIff.mp closed
  have positive := options.thresholdPositive
  cases taken with
  | rejected later fresh refused => simp [closed]
  | admitted later fresh accepted =>
      rcases CircuitBreaker.enter_ok_iff.mp accepted with ⟨_, rfl⟩ | ⟨isOpen, _, _⟩
      · simp [CircuitSystem.start, closed]
      · rw [closed] at isOpen
        cases isOpen
  | observed later => simp [closed]
  | @settled now call generation outcome later pending =>
      have currentIff := invariant.tracked.current _ pending
      simp only at currentIff
      by_cases current : generation = system.breaker.generation
      · have admitted := currentIff.mp current
        subst current
        have event : (∃ now' call' outcome', CircuitEvent.settled now call outcome =
            .settled now' call' outcome' ∧ call' ∈ trace.admitted ∧
              trailingFailures (trace.outcomes ++ [outcome']) = options.failureThreshold) ↔
            trailingFailures (trace.outcomes ++ [outcome]) = options.failureThreshold := by
          simp [admitted]
        rw [event, trailingFailures_snoc, CircuitBreaker.settle_closed closed]
        cases outcome with
        | success => simp [CircuitSystem.finish, closed, positive.ne]
        | permanent => simp [CircuitSystem.finish, closed, positive.ne]
        | ignored =>
            rw [← counted]
            simp [CircuitSystem.finish, closed, below.ne]
        | transient =>
            rw [← counted]
            by_cases trips : options.failureThreshold ≤ system.breaker.consecutiveFailures + 1
            · have reached : system.breaker.consecutiveFailures + 1 = options.failureThreshold := by
                omega
              simp [CircuitSystem.finish, reached]
            · have short : system.breaker.consecutiveFailures + 1 ≠ options.failureThreshold := by
                omega
              simp [CircuitSystem.finish, closed, trips, short]
      · have stale := mt currentIff.mpr current
        rw [CircuitBreaker.settle_stale current]
        simp [CircuitSystem.finish, closed, stale]

theorem not_halfOpen_of_closed (closed : system.breaker.state = .closed)
    (taken : CircuitStep options system event next) : next.breaker.state ≠ .halfOpen := by
  rcases breaker_cases taken with
    same | ⟨_, _, _, isOpen, _⟩ | ⟨now, call, outcome, _, settled⟩
  · rw [same, closed]
    simp
  · rw [closed] at isOpen
    cases isOpen
  · rw [settled, CircuitBreaker.settle_closed closed]
    cases outcome with
    | success => simp [closed]
    | permanent => simp [closed]
    | ignored => simp [closed]
    | transient =>
        dsimp only
        split_ifs <;> simp [closed]

/-- In a closed circuit the counter is the number of trailing transient failures
among the settlements of the calls admitted in the closed period, and the
circuit opens exactly when a settlement makes that number reach the threshold. -/
theorem opens_at_threshold (options : CircuitBreakerOptions) {clock : ℚ}
    {events : List CircuitEvent} {system : CircuitSystem}
    (run : Run (CircuitStep options) (.initial clock) events system)
    (closed : system.breaker.state = .closed) :
    ∃ trace, Run (TracedStep options) (.initial clock, .empty) events (system, trace) ∧
      system.breaker.consecutiveFailures = trailingFailures trace.outcomes ∧
      ∀ event next, CircuitStep options system event next →
        next.breaker.state ≠ .halfOpen ∧
        (next.breaker.state = .opened ↔
          ∃ now call outcome, event = .settled now call outcome ∧ call ∈ trace.admitted ∧
            trailingFailures (trace.outcomes ++ [outcome]) = options.failureThreshold) := by
  obtain ⟨trace, traced, invariant⟩ := exists_trace run
  refine ⟨trace, traced, invariant.counted closed, ?_⟩
  intro event next taken
  exact ⟨not_halfOpen_of_closed closed taken, invariant.opens_iff closed taken⟩

theorem opens_at_threshold_sample :
    ∃ trace, Run (TracedStep sampleOptions) (.initial 0, .empty)
      [.admitted 0 0, .admitted 1 1] (sampleClosed, trace) ∧ trailingFailures trace.outcomes = 0 ∧
      ∃ outcome, trailingFailures (trace.outcomes ++ [outcome]) = 1 := by
  obtain ⟨trace, traced, counted, moves⟩ := opens_at_threshold sampleOptions sample_run_closed rfl
  obtain ⟨_, _, outcome, _, _, reached⟩ := (moves _ _ sample_opens).2.mp rfl
  exact ⟨trace, traced, counted.symm, outcome, reached⟩

end ModelMux.Providers
