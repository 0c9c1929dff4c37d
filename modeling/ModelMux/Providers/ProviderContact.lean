/-
Only a contacted provider can prove itself healthy.

For a streaming pass to a target without a `stream` method the router raises an
error of its own inside the operation of the circuit, and the circuit takes
every permanent error for an answer of the provider.  A step of a router proves
a target healthy by contact exactly if it is not the settlement of such a pass
while failures are counted.
-/

import ModelMux.Providers.HealthEvidence

namespace ModelMux.Providers

variable {Response Failure : Type} {router : ProviderRouter} {pass : Pass Response Failure}
  {role : TargetRole} {target : ProviderTarget} {circuits : Circuits} {now : ℚ}
  {system last : RouterSystem Response Failure} {id : ℕ}

/-- The circuit forgets its failures or its probe closes it. -/
def ProvesHealthy (before after : CircuitBreaker) : Prop :=
  (before.consecutiveFailures ≠ 0 ∧ after.consecutiveFailures = 0) ∨
    (before.state = .halfOpen ∧ after.state = .closed)

/-- A step of a router proves a target healthy only by settling a call that has
invoked its provider; a pass that has not invoked it leaves the failures and the
openness of the circuit alone. -/
structure HealthByContact (role : TargetRole) (system : RouterSystem Response Failure)
    (event : RouterEvent Response Failure) (next : RouterSystem Response Failure) : Prop where
  settled : ProvesHealthy (system.circuits role) (next.circuits role) →
    ∃ pass target generation outcome, system.passes[event.pass]? = some pass ∧
      pass.phase = .executing role target generation outcome ∧
      (∃ data, .invoked role data ∈ pass.log) ∧ ∃ answer, .answered role answer ∈ pass.log
  uncontacted : ∀ pass, next.passes[event.pass]? = some pass →
    (∀ data, .invoked role data ∉ pass.log) →
      (next.circuits role).consecutiveFailures = (system.circuits role).consecutiveFailures ∧
        ((next.circuits role).state = .closed ↔ (system.circuits role).state = .closed)

/-- The step settles a streaming pass at a target that does not implement `stream`,
in the generation that the pass has captured, while failures are counted. -/
def SettlesUncontacted (role : TargetRole) (system : RouterSystem Response Failure)
    (event : RouterEvent Response Failure) : Prop :=
  event.input = .resume ∧ ∃ pass target generation outcome,
    system.passes[event.pass]? = some pass ∧
    pass.phase = .executing role target generation outcome ∧ Unsupported pass.mode target ∧
    generation = (system.circuits role).generation ∧
    (system.circuits role).consecutiveFailures ≠ 0

theorem healthByContact_kept {event : RouterEvent Response Failure}
    (failures : (last.circuits role).consecutiveFailures =
      (system.circuits role).consecutiveFailures)
    (closed : (last.circuits role).state = .closed ↔ (system.circuits role).state = .closed) :
    HealthByContact role system event last where
  settled := by
    rintro (⟨counted, reset⟩ | ⟨half, shut⟩)
    · exact absurd (failures ▸ reset) counted
    · rw [closed.mp shut] at half
      cases half
  uncontacted := fun _ _ _ => ⟨failures, closed⟩

theorem enter_kept {options : CircuitBreakerOptions} {breaker breaker' : CircuitBreaker}
    (accepted : breaker.enter options now = .ok breaker') :
    breaker'.consecutiveFailures = breaker.consecutiveFailures ∧
      (breaker'.state = .closed ↔ breaker.state = .closed) := by
  rcases CircuitBreaker.enter_ok_iff.mp accepted with ⟨_, rfl⟩ | ⟨isOpen, _, rfl⟩
  · exact ⟨rfl, Iff.rfl⟩
  · exact ⟨rfl, by simp [isOpen]⟩

theorem call_kept (pass : Pass Response Failure) (called role : TargetRole)
    (target : ProviderTarget) (data : ChatRequest) (circuits : Circuits) (now : ℚ) :
    ((pass.call called target data circuits now).2 role).consecutiveFailures =
        (circuits role).consecutiveFailures ∧
      (((pass.call called target data circuits now).2 role).state = .closed ↔
        (circuits role).state = .closed) := by
  by_cases same : called = role
  · subst same
    rcases call_own pass called target data circuits now with
      ⟨_, _, unchanged, _⟩ | ⟨accepted, _⟩
    · rw [unchanged]
      exact ⟨rfl, Iff.rfl⟩
    · exact enter_kept accepted
  · rw [(call_other pass same target data circuits now).1]
    exact ⟨rfl, Iff.rfl⟩

theorem route_kept (router : ProviderRouter) (pass : Pass Response Failure) (role : TargetRole)
    (outcome : Except (Thrown Failure) Response) (circuits : Circuits) (now : ℚ) :
    ((pass.route router outcome circuits now).2 role).consecutiveFailures =
        (circuits role).consecutiveFailures ∧
      (((pass.route router outcome circuits now).2 role).state = .closed ↔
        (circuits role).state = .closed) := by
  cases outcome with
  | ok response => exact ⟨rfl, Iff.rfl⟩
  | error error =>
      simp only [Pass.route]
      split_ifs
      · exact ⟨rfl, Iff.rfl⟩
      · cases pass.fallbackFor router error with
        | none => exact ⟨rfl, Iff.rfl⟩
        | some choice => exact call_kept _ _ _ _ _ _ _

theorem not_settlesUncontacted {event : RouterEvent Response Failure}
    (present : system.passes[event.pass]? = some pass)
    (elsewhere : ∀ target generation outcome,
      pass.phase ≠ .executing role target generation outcome) :
    ¬SettlesUncontacted role system event := by
  rintro ⟨_, pass', target, generation, outcome, found, stopped, _⟩
  rw [present] at found
  cases found
  exact elsewhere target generation outcome stopped

/-- An uncontacted target that settles in its own generation is taken for healthy. -/
theorem settle_uncontacted {options : CircuitBreakerOptions} {breaker : CircuitBreaker}
    (generation : ℕ) (now : ℚ)
    (closedIff : breaker.state = .closed ↔
      breaker.consecutiveFailures < options.failureThreshold) :
    ((breaker.settle options generation now .permanent).consecutiveFailures =
        breaker.consecutiveFailures ∧
      ((breaker.settle options generation now .permanent).state = .closed ↔
        breaker.state = .closed)) ↔
    ¬(generation = breaker.generation ∧ breaker.consecutiveFailures ≠ 0) := by
  by_cases current : generation = breaker.generation
  · subst current
    have healthy : breaker.settle options breaker.generation now .permanent =
        breaker.recordHealthy := by
      simp [CircuitBreaker.settle]
    rw [healthy]
    simp only [CircuitBreaker.recordHealthy, true_and, not_not, true_iff]
    constructor
    · rintro ⟨reset, _⟩
      exact reset.symm
    · intro none
      refine ⟨none.symm, closedIff.mpr ?_⟩
      rw [none]
      exact options.thresholdPositive
  · rw [CircuitBreaker.settle_stale current]
    simp [current]

theorem healthByContact_execute {generation : ℕ} {outcome : Except (Thrown Failure) Response}
    (held : PassesHeld router system) (present : system.passes[id]? = some pass)
    (stopped : pass.phase = .executing role target generation outcome)
    (closedIff : (system.circuits role).state = .closed ↔
      (system.circuits role).consecutiveFailures < target.circuit.failureThreshold) :
    HealthByContact role system ⟨now, id, .resume⟩
        { clock := now
          circuits := Function.update system.circuits role
            ((system.circuits role).settle target.circuit generation now
              (settlement isRetryableProviderError isIgnoredError outcome))
          passes := system.passes.set id (pass.stop (.calling role target outcome)) } ↔
      ¬SettlesUncontacted role system ⟨now, id, .resume⟩ := by
  have evidence := held.evidence pass (List.mem_of_getElem? present)
  have waiting := evidence.stopped
  rw [stopped] at waiting
  have settles : SettlesUncontacted role system ⟨now, id, .resume⟩ ↔
      Unsupported pass.mode target ∧ generation = (system.circuits role).generation ∧
        (system.circuits role).consecutiveFailures ≠ 0 := by
    constructor
    · rintro ⟨_, pass', target', generation', outcome', found, stopped', settled⟩
      rw [present] at found
      cases found
      rw [stopped] at stopped'
      cases stopped'
      exact settled
    · intro settled
      exact ⟨rfl, pass, target, generation, outcome, present, stopped, settled⟩
  have here : (system.passes.set id (pass.stop (.calling role target outcome)))[id]? =
      some (pass.stop (.calling role target outcome)) := by
    simp [getElem?_set_present present]
  rw [settles]
  rcases waiting.2 with ⟨supported, answer, answered⟩ | ⟨unsupported, uninvoked, rfl⟩
  · obtain ⟨data, invoked⟩ := evidence.log.answered role answer answered
    simp only [supported, false_and, not_false_eq_true, iff_true]
    constructor
    · intro _
      exact ⟨pass, target, generation, outcome, present, stopped, ⟨data, invoked⟩, answer, answered⟩
    · intro pass' found never
      simp only [here, Option.some.injEq] at found
      subst found
      exact absurd invoked (never data)
  · have kept := settle_uncontacted generation now closedIff
    rw [and_iff_right unsupported, ← kept]
    constructor
    · intro contact
      have untouched := contact.uncontacted _ here uninvoked
      simpa [settlement, isRetryableProviderError, isIgnoredError] using untouched
    · intro same
      apply healthByContact_kept
      · simpa [settlement, isRetryableProviderError, isIgnoredError] using same.1
      · simpa [settlement, isRetryableProviderError, isIgnoredError] using same.2

theorem healthByContact_step {clock : ℚ} {events : List (RouterEvent Response Failure)}
    {event : RouterEvent Response Failure}
    (run : Run (RouterStep router) (.initial clock (fun _ => .initial)) events system)
    (taken : RouterStep router system event last) :
    HealthByContact role system event last ↔ ¬SettlesUncontacted role system event := by
  have held := passesHeld_of_run run
  have kept : last.circuits role = system.circuits role → HealthByContact role system event last :=
    fun same => healthByContact_kept (by rw [same]) (by rw [same])
  cases taken with
  | @start now mode request aborted pass circuits later started =>
      refine iff_of_true ?_ (by rintro ⟨impossible, _⟩; cases impossible)
      unfold Pass.start at started
      split_ifs at started
      · cases started
        exact kept rfl
      · have unchanged := call_kept (.initial mode request aborted : Pass Response Failure)
          .primary role router.primary request system.circuits now
        rw [started] at unchanged
        exact healthByContact_kept unchanged.1 unchanged.2
  | @step now id pass next input circuits later present taken =>
      cases taken with
      | abort => exact iff_of_true (kept rfl) (by rintro ⟨impossible, _⟩; cases impossible)
      | consume allowed =>
          exact iff_of_true (kept rfl) (by rintro ⟨impossible, _⟩; cases impossible)
      | deliver writing =>
          exact iff_of_true (kept rfl) (by rintro ⟨impossible, _⟩; cases impossible)
      | answer stopped =>
          exact iff_of_true (kept rfl) (by rintro ⟨impossible, _⟩; cases impossible)
      | call stopped =>
          refine iff_of_true (kept rfl) (not_settlesUncontacted present ?_)
          simp [stopped]
      | @route outcome stopped =>
          have unchanged := route_kept router pass role outcome system.circuits now
          refine iff_of_true (healthByContact_kept unchanged.1 unchanged.2)
            (not_settlesUncontacted present ?_)
          simp [stopped]
      | @execute executing target generation outcome stopped =>
          by_cases same : executing = role
          · subst same
            have place := (held.passes pass (List.mem_of_getElem? present)).stopped
            rw [stopped] at place
            exact healthByContact_execute held present stopped
              (router_single_probe run place.1.serves).2.2
          · refine iff_of_true (kept (Function.update_of_ne (Ne.symm same) _ _))
              (not_settlesUncontacted present ?_)
            simp [stopped, same]

def ContactStep (router : ProviderRouter) (system : RouterSystem Response Failure)
    (event : RouterEvent Response Failure) (next : RouterSystem Response Failure) : Prop :=
  RouterStep router system event next ∧ ∀ role, HealthByContact role system event next

def SupportedStep (router : ProviderRouter) (system : RouterSystem Response Failure)
    (event : RouterEvent Response Failure) (next : RouterSystem Response Failure) : Prop :=
  RouterStep router system event next ∧ ∀ role, ¬SettlesUncontacted role system event

/-- Every step of a run proves targets healthy by contact only if, and only if, none
of them settles a streaming pass at a target without `stream` in its own generation
while failures are counted there; and so does each single step of any run. -/
theorem health_by_contact_iff (router : ProviderRouter) (clock : ℚ)
    (events : List (RouterEvent Response Failure)) (system : RouterSystem Response Failure) :
    (Run (ContactStep router) (.initial clock (fun _ => .initial)) events system ↔
      Run (SupportedStep router) (.initial clock (fun _ => .initial)) events system) ∧
    (Run (RouterStep router) (.initial clock (fun _ => .initial)) events system →
      ∀ event next, RouterStep router system event next → ∀ role,
        HealthByContact role system event next ↔ ¬SettlesUncontacted role system event) := by
  refine ⟨⟨?_, ?_⟩, fun run event next taken role => healthByContact_step run taken⟩
  · intro run
    apply run.strengthen
    rintro history state event next before ⟨taken, contact⟩
    have reached := before.strengthen (fun _ _ _ _ _ step => step.1)
    exact ⟨taken, fun role => (healthByContact_step reached taken).mp (contact role)⟩
  · intro run
    apply run.strengthen
    rintro history state event next before ⟨taken, supported⟩
    have reached := before.strengthen (fun _ _ _ _ _ step => step.1)
    exact ⟨taken, fun role => (healthByContact_step reached taken).mpr (supported role)⟩

def sampleMute : ProviderRouter :=
  { primary := ⟨"ollama", ⟨2, 1000, Nat.two_pos, sampleTimeout_pos⟩, false⟩
    fallback := none }

def sampleFailed : Circuits :=
  Function.update sampleCircuits .primary ⟨.closed, 1, 0, 0⟩

def sampleUncontacted : Pass Unit Unit :=
  { mode := .stream
    request := ⟨[0x61], []⟩
    aborted := false
    emitted := false
    attempted := true
    writes := []
    phase := .executing .primary sampleMute.primary 0 (.error .providerStreamingUnsupportedError)
    log := [.tried .primary ⟨[0x61], []⟩, .metric (.providerStart "ollama" .stream)] }

/-- A chat pass has failed, then a streaming pass begins. -/
def sampleContactEvents : List (RouterEvent Unit Unit) :=
  [⟨0, 0, .start .chat ⟨[0x61], []⟩ false⟩, ⟨0, 0, .answer sampleUnreachable⟩, ⟨0, 0, .resume⟩,
    ⟨0, 1, .start .stream ⟨[0x61], []⟩ false⟩]

def sampleContactSystem : RouterSystem Unit Unit :=
  { clock := 0
    circuits := Function.update sampleFailed .primary ⟨.closed, 1, 0, 0⟩
    passes := [samplePass (.calling .primary sampleMute.primary sampleUnreachable)
      (sampleLog.take 4), sampleUncontacted] }

def sampleAnswered : RouterSystem Unit Unit :=
  { clock := 0
    circuits := sampleCircuits
    passes := [samplePass (.executing .primary sampleMute.primary 0 sampleUnreachable)
      (sampleLog.take 4)] }

theorem sample_run_answered :
    Run (RouterStep sampleMute) (.initial 0 (fun _ => .initial)) (sampleContactEvents.take 2)
      sampleAnswered := by
  have started : RouterStep sampleMute (.initial 0 (fun _ => .initial))
      ⟨0, 0, .start .chat ⟨[0x61], []⟩ false⟩ ⟨0, sampleCircuits,
        [samplePass (.operating .primary sampleMute.primary 0) (sampleLog.take 3)]⟩ :=
    .start le_rfl rfl
  have answered : RouterStep sampleMute
      ⟨0, sampleCircuits, [samplePass (.operating .primary sampleMute.primary 0)
        (sampleLog.take 3)]⟩
      ⟨0, 0, .answer sampleUnreachable⟩ sampleAnswered :=
    .step le_rfl rfl (.answer rfl)
  exact (Run.single started).snoc answered

def sampleCounted : RouterSystem Unit Unit :=
  { clock := 0
    circuits := sampleFailed
    passes := [samplePass (.calling .primary sampleMute.primary sampleUnreachable)
      (sampleLog.take 4)] }

theorem sample_counts : RouterStep sampleMute sampleAnswered ⟨0, 0, .resume⟩ sampleCounted :=
  .step le_rfl rfl (@PassStep.execute _ _ sampleMute 0 _ sampleCircuits .primary
    sampleMute.primary 0 sampleUnreachable rfl)

theorem sample_run_uncontacted :
    Run (RouterStep sampleMute) (.initial 0 (fun _ => .initial)) sampleContactEvents
      sampleContactSystem := by
  have streaming : RouterStep sampleMute sampleCounted
      ⟨0, 1, .start .stream ⟨[0x61], []⟩ false⟩ sampleContactSystem :=
    .start le_rfl rfl
  exact (sample_run_answered.snoc sample_counts).snoc streaming

theorem health_by_contact_iff_counted :
    HealthByContact .primary sampleAnswered ⟨0, 0, .resume⟩ sampleCounted := by
  apply ((health_by_contact_iff sampleMute 0 _ _).2 sample_run_answered _ _ sample_counts
    .primary).mpr
  rintro ⟨_, pass, target, generation, outcome, found, _, unsupported, _⟩
  cases found
  cases unsupported.1

/-- The failure is forgotten although the primary was not contacted again. -/
theorem uncontacted_target_proven_healthy :
    Run (RouterStep sampleMute) (.initial 0 (fun _ => .initial)) sampleContactEvents
        sampleContactSystem ∧
      ∃ next, RouterStep sampleMute sampleContactSystem ⟨0, 1, .resume⟩ next ∧
        (sampleContactSystem.circuits .primary).consecutiveFailures = 1 ∧
        (next.circuits .primary).consecutiveFailures = 0 ∧
        ¬HealthByContact .primary sampleContactSystem ⟨0, 1, .resume⟩ next := by
  refine ⟨sample_run_uncontacted, _, .step le_rfl rfl (.execute rfl), rfl, rfl, ?_⟩
  intro contact
  obtain ⟨same, _⟩ := contact.uncontacted _ rfl (by simp [sampleUncontacted, Pass.stop])
  exact absurd same (by decide)

end ModelMux.Providers
