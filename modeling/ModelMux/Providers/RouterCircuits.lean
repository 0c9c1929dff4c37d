/-
The circuits of a router are circuits.

Seen from one target, a router run is a run of that target's breaker: a pass is
a call, its identity is the number of the pass, and it is in flight from its
admission until `execute` has recorded its settlement.  So all that holds of
every run of a breaker holds of both circuits of a router, whatever its passes
do.
-/

import ModelMux.Providers.CircuitInvariant
import ModelMux.Providers.RoutingPass

namespace ModelMux.Providers

variable {Response Failure : Type}

/-- The generation that a pass has captured from the circuit of a target, while
its settlement there is outstanding. -/
def PassPhase.captured (role : TargetRole) : PassPhase Response Failure → Option ℕ
  | .operating other _ generation => if other = role then some generation else none
  | .executing other _ generation _ => if other = role then some generation else none
  | .calling _ _ _ => none
  | .routing _ => none
  | .finished _ => none

/-- A breaker and its calls, as the passes of a router use them. -/
structure CircuitView (role : TargetRole) (system : RouterSystem Response Failure)
    (circuit : CircuitSystem) : Prop where
  breaker : circuit.breaker = system.circuits role
  clock : circuit.clock ≤ system.clock
  calls : ∀ id ∈ circuit.calls, ∃ pass, system.passes[id]? = some pass ∧ ¬Untouched role pass.log
  inFlight : ∀ id generation, ⟨id, generation⟩ ∈ circuit.inFlight ↔
    ∃ pass, system.passes[id]? = some pass ∧ pass.phase.captured role = some generation

inductive RoleEffect (options : CircuitBreakerOptions) (role : TargetRole) (now : ℚ)
    (pass next : Pass Response Failure) (breaker breaker' : CircuitBreaker) : Prop
  | idle (same : breaker' = breaker)
      (held : next.phase.captured role = pass.phase.captured role)
  | refused {error : CircuitOpenError} (fresh : Untouched role pass.log)
      (touched : ¬Untouched role next.log) (free : pass.phase.captured role = none)
      (refusal : breaker.enter options now = .error error) (same : breaker' = breaker)
      (held : next.phase.captured role = none)
  | admitted (fresh : Untouched role pass.log) (touched : ¬Untouched role next.log)
      (free : pass.phase.captured role = none)
      (acceptance : breaker.enter options now = .ok breaker')
      (held : next.phase.captured role = some breaker'.generation)
  | settled {generation : ℕ} {outcome : Settlement}
      (holding : pass.phase.captured role = some generation)
      (same : breaker' = breaker.settle options generation now outcome)
      (held : next.phase.captured role = none)

/-! ### The effect of a step -/

variable {router : ProviderRouter} {pass next : Pass Response Failure} {role other : TargetRole}
  {target : ProviderTarget} {circuits circuits' : Circuits} {now : ℚ}

theorem log_call (pass : Pass Response Failure) (role : TargetRole) (target : ProviderTarget)
    (data : ChatRequest) (circuits : Circuits) (now : ℚ) :
    ∃ events, (pass.call role target data circuits now).1.log =
      pass.log ++ .tried role data :: events := by
  unfold Pass.call
  cases (circuits role).enter target.circuit now with
  | error error => exact ⟨[.skipped role error], by simp [Pass.record, Pass.stop]⟩
  | ok breaker =>
      simp only [Pass.operate]
      split_ifs
      · exact ⟨[], by simp [Pass.record, Pass.stop]⟩
      · exact ⟨[.metric (.providerStart target.name pass.mode)],
          by simp [Pass.record, Pass.stop]⟩
      · exact ⟨[.metric (.providerStart target.name pass.mode), .invoked role data],
          by simp [Pass.record, Pass.stop]⟩

theorem captured_operate (pass : Pass Response Failure) (role other : TargetRole)
    (target : ProviderTarget) (data : ChatRequest) (generation : ℕ) :
    (pass.operate role target data generation).phase.captured other =
      if role = other then some generation else none := by
  simp only [Pass.operate]
  split_ifs <;> simp_all [Pass.stop, PassPhase.captured]

theorem touched_call (pass : Pass Response Failure) (role : TargetRole) (target : ProviderTarget)
    (data : ChatRequest) (circuits : Circuits) (now : ℚ) :
    ¬Untouched role (pass.call role target data circuits now).1.log := by
  obtain ⟨events, log⟩ := log_call pass role target data circuits now
  intro untouched
  have begun := untouched (.tried role data) (by simp [log])
  simp [PassEvent.begins] at begun

theorem call_own (pass : Pass Response Failure) (role : TargetRole) (target : ProviderTarget)
    (data : ChatRequest) (circuits : Circuits) (now : ℚ) :
    (∃ error, (circuits role).enter target.circuit now = .error error ∧
      (pass.call role target data circuits now).2 role = circuits role ∧
      (pass.call role target data circuits now).1.phase.captured role = none) ∨
    ((circuits role).enter target.circuit now =
        .ok ((pass.call role target data circuits now).2 role) ∧
      (pass.call role target data circuits now).1.phase.captured role =
        some ((pass.call role target data circuits now).2 role).generation) := by
  unfold Pass.call
  cases (circuits role).enter target.circuit now with
  | error error => exact .inl ⟨error, rfl, rfl, rfl⟩
  | ok breaker => exact .inr (by simp [captured_operate])

theorem call_other (pass : Pass Response Failure) {role other : TargetRole}
    (different : role ≠ other) (target : ProviderTarget) (data : ChatRequest)
    (circuits : Circuits) (now : ℚ) :
    (pass.call role target data circuits now).2 other = circuits other ∧
      (pass.call role target data circuits now).1.phase.captured other = none := by
  unfold Pass.call
  cases (circuits role).enter target.circuit now with
  | error error => exact ⟨rfl, rfl⟩
  | ok breaker =>
      exact ⟨Function.update_of_ne different.symm _ _, by simp [captured_operate, different]⟩

/-- The call of a target, for a pass that differs from the calling one at most in
its log. -/
theorem roleEffect_call {data : ChatRequest} {caller : Pass Response Failure}
    (fresh : Untouched role pass.log) (free : pass.phase.captured role = none) :
    RoleEffect target.circuit role now pass (caller.call role target data circuits now).1
      (circuits role) ((caller.call role target data circuits now).2 role) := by
  have touched := touched_call caller role target data circuits now
  rcases call_own caller role target data circuits now with
    ⟨error, refusal, same, held⟩ | ⟨acceptance, held⟩
  · exact .refused fresh touched free refusal same held
  · exact .admitted fresh touched free acceptance held

theorem Serves.unique {target target' : ProviderTarget} (left : Serves router target role)
    (right : Serves router target' role) : target = target' := by
  cases role with
  | primary => exact Eq.trans left right.symm
  | fallback =>
      obtain ⟨fallback, configured, rfl⟩ := left
      obtain ⟨fallback', configured', rfl⟩ := right
      rw [configured] at configured'
      cases configured'
      rfl

theorem log_recordMetrics (pass : Pass Response Failure) (target : ProviderTarget)
    (outcome : Except (Thrown Failure) Response) :
    pass.log <+: (pass.recordMetrics target outcome).log := by
  simp only [Pass.recordMetrics]
  split_ifs <;> simp [Pass.record]

theorem log_step {input : PassInput Response Failure}
    (taken : PassStep router now pass circuits input next circuits') : pass.log <+: next.log := by
  cases taken with
  | abort => exact List.prefix_append _ _
  | consume allowed =>
      unfold Pass.consume
      cases (throwIfCancelled pass.aborted : Except (Thrown Failure) Unit) with
      | error error => exact List.prefix_append _ _
      | ok done =>
          dsimp only
          split_ifs <;> exact List.prefix_append _ _
  | deliver writing => exact List.prefix_append _ _
  | answer stopped => exact List.prefix_append _ _
  | execute stopped => exact List.prefix_rfl
  | call stopped => exact (log_recordMetrics _ _ _).trans (List.prefix_append _ _)
  | @route outcome stopped =>
      cases outcome with
      | ok response => exact List.prefix_rfl
      | error error =>
          simp only [Pass.route]
          split_ifs
          · exact List.prefix_rfl
          · cases pass.fallbackFor router error with
            | none => exact List.prefix_rfl
            | some choice =>
                obtain ⟨events, log⟩ := log_call
                  (pass.record (.metric (.fallback router.primary.name choice.1.name))) .fallback
                  choice.1.toProviderTarget { pass.request with model := choice.2 } circuits now
                dsimp only
                rw [log]
                exact (List.prefix_append _ _).trans (List.prefix_append _ _)

theorem roleEffect_step {input : PassInput Response Failure}
    (invariant : PassInvariant router pass) (serves : Serves router target role)
    (taken : PassStep router now pass circuits input next circuits') :
    RoleEffect target.circuit role now pass next (circuits role) (circuits' role) := by
  have held := invariant.stopped
  cases taken with
  | abort => exact .idle rfl rfl
  | consume allowed =>
      refine .idle rfl ?_
      unfold Pass.consume
      cases (throwIfCancelled pass.aborted : Except (Thrown Failure) Unit) with
      | error error => rfl
      | ok done =>
          dsimp only
          split_ifs <;> rfl
  | deliver writing => exact .idle rfl rfl
  | answer stopped =>
      refine .idle rfl ?_
      rw [stopped]
      rfl
  | @execute executing target' generation outcome stopped =>
      rw [stopped] at held
      by_cases same : executing = role
      · subst same
        obtain rfl := held.1.serves.unique serves
        refine .settled ?_ (Function.update_self _ _ _) rfl
        rw [stopped]
        simp [PassPhase.captured]
      · refine .idle (Function.update_of_ne (Ne.symm same) _ _) ?_
        rw [stopped]
        simp [PassPhase.captured, Pass.stop, same]
  | @call calling target' outcome stopped =>
      refine .idle rfl ?_
      rw [stopped]
      cases calling <;> rfl
  | @route outcome stopped =>
      rw [stopped] at held
      have free : pass.phase.captured role = none := by
        rw [stopped]
        rfl
      cases outcome with
      | ok response => exact .idle rfl free.symm
      | error error =>
          simp only [Pass.route]
          split_ifs
          · exact .idle rfl free.symm
          · cases chosen : pass.fallbackFor router error with
            | none => exact .idle rfl free.symm
            | some choice =>
                obtain ⟨_, _, configured, _⟩ := fallbackFor_eq_some chosen
                dsimp only
                cases role with
                | primary =>
                    obtain ⟨same, heldNext⟩ := call_other
                      (pass.record (.metric (.fallback router.primary.name choice.1.name)))
                      (show TargetRole.fallback ≠ .primary by decide) choice.1.toProviderTarget
                      { pass.request with model := choice.2 } circuits now
                    exact .idle same (heldNext.trans free.symm)
                | fallback =>
                    obtain rfl := serves.unique ⟨choice.1, configured, rfl⟩
                    exact roleEffect_call held.2.1 free

/-! ### The view of a run -/

variable {system : RouterSystem Response Failure} {circuit : CircuitSystem}
  {options : CircuitBreakerOptions} {id : ℕ}

theorem getElem?_set_present (present : system.passes[id]? = some pass)
    (next : Pass Response Failure) (index : ℕ) :
    (system.passes.set id next)[index]? =
      if index = id then some next else system.passes[index]? := by
  obtain ⟨inside, _⟩ := List.getElem?_eq_some_iff.mp present
  rw [List.getElem?_set]
  split_ifs with same other
  · rfl
  · exact absurd same.symm other
  · rename_i other
    exact absurd other.symm same
  · rfl

theorem CircuitView.calls_set (view : CircuitView role system circuit)
    (present : system.passes[id]? = some pass) (grows : pass.log <+: next.log) :
    ∀ index ∈ circuit.calls, ∃ pass', (system.passes.set id next)[index]? = some pass' ∧
      ¬Untouched role pass'.log := by
  intro index member
  obtain ⟨pass', found, touched⟩ := view.calls index member
  rw [getElem?_set_present present]
  by_cases same : index = id
  · subst same
    rw [present] at found
    cases found
    rw [if_pos rfl]
    refine ⟨next, rfl, ?_⟩
    intro untouched
    exact touched (fun event old => untouched event (grows.subset old))
  · rw [if_neg same]
    exact ⟨pass', found, touched⟩

theorem CircuitView.inFlight_set (view : CircuitView role system circuit)
    (present : system.passes[id]? = some pass) (next : Pass Response Failure)
    (index generation : ℕ) :
    (∃ pass', (system.passes.set id next)[index]? = some pass' ∧
        pass'.phase.captured role = some generation) ↔
      if index = id then next.phase.captured role = some generation
      else ⟨index, generation⟩ ∈ circuit.inFlight := by
  rw [getElem?_set_present present]
  split_ifs with same
  · simp
  · exact (view.inFlight index generation).symm

theorem CircuitView.captured_iff (view : CircuitView role system circuit)
    (present : system.passes[id]? = some pass) (generation : ℕ) :
    pass.phase.captured role = some generation ↔ ⟨id, generation⟩ ∈ circuit.inFlight := by
  rw [view.inFlight]
  simp [present]

theorem CircuitView.fresh (view : CircuitView role system circuit)
    (present : system.passes[id]? = some pass) (untouched : Untouched role pass.log) :
    id ∉ circuit.calls := by
  intro member
  obtain ⟨pass', found, touched⟩ := view.calls id member
  rw [present] at found
  cases found
  exact touched untouched

/-- Every effect on the circuit is a step of the breaker, or none. -/
theorem CircuitView.effect (view : CircuitView role system circuit)
    (present : system.passes[id]? = some pass) (later : system.clock ≤ now)
    (grows : pass.log <+: next.log)
    (effect : RoleEffect options role now pass next (system.circuits role) (circuits role)) :
    ∃ events circuit', Run (CircuitStep options) circuit events circuit' ∧
      CircuitView role ⟨now, circuits, system.passes.set id next⟩ circuit' := by
  have calls := view.calls_set present grows
  have inFlight := view.inFlight_set present next
  have reading := view.clock.trans later
  have entered : ¬Untouched role next.log → ∀ index ∈ id :: circuit.calls, ∃ pass',
      (system.passes.set id next)[index]? = some pass' ∧ ¬Untouched role pass'.log := by
    intro touched index member
    rcases List.mem_cons.mp member with rfl | old
    · exact ⟨next, by simp [getElem?_set_present present], touched⟩
    · exact calls index old
  cases effect with
  | idle same held =>
      refine ⟨[], circuit, Run.refl circuit, ⟨view.breaker.trans same.symm, reading, calls, ?_⟩⟩
      intro index generation
      rw [inFlight]
      split_ifs with here
      · rw [held, here]
        exact (view.captured_iff present generation).symm
      · rfl
  | refused fresh touched free refusal same held =>
      rw [← view.breaker] at refusal
      refine ⟨[_], _, Run.single (.rejected reading (view.fresh present fresh) refusal),
        ⟨view.breaker.trans same.symm, le_rfl, entered touched, ?_⟩⟩
      intro index generation
      rw [inFlight]
      split_ifs with here
      · rw [held, here, ← view.captured_iff present generation, free]
      · rfl
  | admitted fresh touched free acceptance held =>
      rw [← view.breaker] at acceptance
      refine ⟨[_], _, Run.single (.admitted reading (view.fresh present fresh) acceptance),
        ⟨rfl, le_rfl, entered touched, ?_⟩⟩
      intro index generation
      rw [inFlight]
      have absent : ⟨id, generation⟩ ∉ circuit.inFlight := by
        rw [← view.captured_iff present generation, free]
        simp
      split_ifs with here
      · subst here
        simp [CircuitSystem.start, held, absent, eq_comm]
      · simp [CircuitSystem.start, here]
  | @settled generation outcome holding same held =>
      rw [← view.breaker] at same
      refine ⟨[_], _, Run.single (.settled reading
        ((view.captured_iff present generation).mp holding)),
        ⟨same.symm, le_rfl, calls, ?_⟩⟩
      intro index generation'
      rw [inFlight, mem_finish]
      split_ifs with here
      · simp [held, here]
      · simp [here]

/-- A pass that has not begun does not show. -/
theorem CircuitView.append (view : CircuitView role system circuit)
    (free : pass.phase.captured role = none) :
    CircuitView role { system with passes := system.passes ++ [pass] } circuit where
  breaker := view.breaker
  clock := view.clock
  calls := by
    intro index member
    obtain ⟨pass', found, touched⟩ := view.calls index member
    obtain ⟨inside, _⟩ := List.getElem?_eq_some_iff.mp found
    refine ⟨pass', ?_, touched⟩
    simp only [List.getElem?_append_left inside, found]
  inFlight := by
    intro index generation
    rw [view.inFlight]
    rcases lt_or_ge index system.passes.length with inside | outside
    · simp only [List.getElem?_append_left inside]
    · have missing : system.passes[index]? = none := List.getElem?_eq_none outside
      simp only [missing, List.getElem?_append_right outside, reduceCtorEq, false_and,
        exists_false, false_iff, not_exists, not_and]
      intro pass' found
      have last := List.mem_of_getElem? found
      rw [List.mem_singleton.mp last, free]
      simp

theorem roleEffect_start (router : ProviderRouter) (mode : PassMode) (request : ChatRequest)
    (aborted : Bool) (circuits : Circuits) (now : ℚ) (serves : Serves router target role) :
    RoleEffect target.circuit role now (.initial mode request aborted : Pass Response Failure)
      (Pass.start router mode request aborted circuits now).1 (circuits role)
      ((Pass.start router mode request aborted circuits now :
        Pass Response Failure × Circuits).2 role) := by
  cases aborted with
  | true => exact .idle rfl rfl
  | false =>
      simp only [Pass.start, Bool.false_eq_true, if_false]
      cases role with
      | primary =>
          obtain rfl : target = router.primary := serves
          exact roleEffect_call (by simp [Untouched, Pass.initial]) rfl
      | fallback =>
          obtain ⟨same, held⟩ := call_other (.initial mode request false)
            (show TargetRole.primary ≠ .fallback by decide) router.primary request circuits now
          exact .idle same held

theorem log_start (router : ProviderRouter) (mode : PassMode) (request : ChatRequest)
    (aborted : Bool) (circuits : Circuits) (now : ℚ) :
    (Pass.initial mode request aborted : Pass Response Failure).log <+:
      (Pass.start router mode request aborted circuits now).1.log := by
  cases aborted with
  | true => exact List.prefix_rfl
  | false => exact List.nil_prefix

theorem circuitView_initial (role : TargetRole) (clock : ℚ) :
    CircuitView role (.initial clock (fun _ => .initial) : RouterSystem Response Failure)
      (.initial clock) where
  breaker := rfl
  clock := le_rfl
  calls := by simp [CircuitSystem.initial]
  inFlight := by simp [CircuitSystem.initial, RouterSystem.initial]

theorem CircuitView.step {next : RouterSystem Response Failure}
    {event : RouterEvent Response Failure} (view : CircuitView role system circuit)
    (held : ∀ pass ∈ system.passes, PassInvariant router pass)
    (serves : Serves router target role) (taken : RouterStep router system event next) :
    ∃ events circuit', Run (CircuitStep target.circuit) circuit events circuit' ∧
      CircuitView role next circuit' := by
  cases taken with
  | @start now mode request aborted pass circuits later started =>
      have effect : RoleEffect target.circuit role now
          (.initial mode request aborted : Pass Response Failure) _ _ _ :=
        roleEffect_start router mode request aborted system.circuits now serves
      have grows : (Pass.initial mode request aborted : Pass Response Failure).log <+: _ :=
        log_start router mode request aborted system.circuits now
      rw [started] at effect grows
      have waiting : CircuitView role
          { system with passes := system.passes ++ [Pass.initial mode request aborted] } circuit :=
        view.append rfl
      have present : (system.passes ++ [Pass.initial mode request aborted])[system.passes.length]? =
          some (Pass.initial mode request aborted) := by simp
      obtain ⟨events, circuit', run, viewed⟩ := waiting.effect present later grows effect
      refine ⟨events, circuit', run, ?_⟩
      simpa using viewed
  | step later present taken =>
      have invariant := held _ (List.mem_of_getElem? present)
      exact view.effect present later (log_step taken) (roleEffect_step invariant serves taken)

/-- A router run is, at each target, a run of that target's breaker. -/
theorem circuit_of_run {clock : ℚ} {events : List (RouterEvent Response Failure)}
    (run : Run (RouterStep router) (.initial clock (fun _ => .initial)) events system)
    (serves : Serves router target role) :
    ∃ history circuit, Run (CircuitStep target.circuit) (.initial clock) history circuit ∧
      CircuitView role system circuit := by
  have viewed := run.invariant
    (fun state => (∀ pass ∈ state.passes, PassInvariant router pass) ∧
      ∃ history circuit, Run (CircuitStep target.circuit) (.initial clock) history circuit ∧
        CircuitView role state circuit)
    ⟨by simp [RouterSystem.initial], [], _, Run.refl _, circuitView_initial role clock⟩
    (by
      rintro state event next ⟨held, history, circuit, before, view⟩ taken
      obtain ⟨events, circuit', after, viewed⟩ := view.step held serves taken
      exact ⟨routerStep_passInvariant held taken, _, circuit', before.append after, viewed⟩)
  exact viewed.2

/-- In every run of a router a half-open circuit is being probed by exactly one
pass, an open one by none, and a circuit is closed exactly below its threshold. -/
theorem router_single_probe {clock : ℚ} {events : List (RouterEvent Response Failure)}
    (run : Run (RouterStep router) (.initial clock (fun _ => .initial)) events system)
    (serves : Serves router target role) :
    ((system.circuits role).state = .halfOpen →
      ∃ id : ℕ, ∀ index : ℕ, (∃ pass, system.passes[index]? = some pass ∧
        pass.phase.captured role = some (system.circuits role).generation) ↔ index = id) ∧
    ((system.circuits role).state = .opened →
      ∀ pass ∈ system.passes,
        pass.phase.captured role ≠ some (system.circuits role).generation) ∧
    ((system.circuits role).state = .closed ↔
      (system.circuits role).consecutiveFailures < target.circuit.failureThreshold) := by
  obtain ⟨history, circuit, circuitRun, view⟩ := circuit_of_run run serves
  obtain ⟨trace, _, invariant⟩ := exists_trace circuitRun
  rw [← view.breaker]
  refine ⟨?_, ?_, invariant.closedIff⟩
  · intro half
    obtain ⟨probe, member, current, only⟩ := invariant.probe_unique half
    refine ⟨probe.id, fun index => ?_⟩
    rw [← view.inFlight]
    constructor
    · intro present
      exact congrArg CircuitCall.id (only _ present rfl)
    · rintro rfl
      rw [← current]
      exact member
  · intro isOpen pass member holding
    obtain ⟨index, inside, rfl⟩ := List.getElem_of_mem member
    have present := (view.inFlight index circuit.breaker.generation).mpr
      ⟨_, List.getElem?_eq_getElem inside, holding⟩
    exact invariant.not_opened present
      ((invariant.tracked.current _ present).mp rfl) isOpen

end ModelMux.Providers
