/-
Provider metrics and operations in flight.

`call` records a start when its operation begins and an end in its `finally`
block, if a local flag says that the operation has begun.  In every
interleaving of passes the starts and the ends pair up: what has been started
and not ended is in flight.
-/

import ModelMux.Providers.RouterCircuits

namespace ModelMux.Providers

variable {Response Failure : Type}

/-! ### Operations in flight -/

def PassEvent.metric? : PassEvent Response Failure → Option MetricEvent
  | .metric event => some event
  | _ => none

def metricsOf (log : List (PassEvent Response Failure)) : List MetricEvent :=
  log.filterMap PassEvent.metric?

def MetricEvent.starts (provider : String) (mode : PassMode) : MetricEvent → Bool
  | .providerStart provider' mode' => provider' = provider && mode' = mode
  | _ => false

def MetricEvent.ends (provider : String) (mode : PassMode) : MetricEvent → Bool
  | .providerEnd provider' mode' _ => provider' = provider && mode' = mode
  | _ => false

def PassPhase.target? : PassPhase Response Failure → Option ProviderTarget
  | .operating _ target _ => some target
  | .executing _ target _ _ => some target
  | .calling _ target _ => some target
  | .routing _ => none
  | .finished _ => none

/-- The operation of a call has begun and the call has not returned. -/
def Pass.inFlight (provider : String) (mode : PassMode) (pass : Pass Response Failure) : Bool :=
  match pass.phase.target? with
  | some target => pass.attempted && target.name = provider && pass.mode = mode
  | none => false

namespace RouterSystem

def metrics (system : RouterSystem Response Failure) : List MetricEvent :=
  system.passes.flatMap (fun pass => metricsOf pass.log)

def inFlight (system : RouterSystem Response Failure) (provider : String) (mode : PassMode) : ℕ :=
  system.passes.countP (Pass.inFlight provider mode)

end RouterSystem

/-- The starts among the metrics less the ends. -/
def outstanding (provider : String) (mode : PassMode) (metrics : List MetricEvent) : ℤ :=
  metrics.countP (MetricEvent.starts provider mode) -
    metrics.countP (MetricEvent.ends provider mode)

theorem outstanding_append (provider : String) (mode : PassMode) (left right : List MetricEvent) :
    outstanding provider mode (left ++ right) =
      outstanding provider mode left + outstanding provider mode right := by
  simp only [outstanding, List.countP_append, Nat.cast_add]
  ring

/-- A pass has recorded an end for every start but that of its operation in flight. -/
def Pass.Paired (pass : Pass Response Failure) : Prop :=
  ∀ provider mode, outstanding provider mode (metricsOf pass.log) =
    if pass.inFlight provider mode then 1 else 0

variable {router : ProviderRouter} {pass next : Pass Response Failure} {role : TargetRole}
  {target : ProviderTarget} {circuits circuits' : Circuits} {now : ℚ}

@[simp]
theorem metricsOf_nil : metricsOf ([] : List (PassEvent Response Failure)) = [] :=
  rfl

@[simp]
theorem metricsOf_cons (event : PassEvent Response Failure)
    (log : List (PassEvent Response Failure)) :
    metricsOf (event :: log) = event.metric?.toList ++ metricsOf log := by
  unfold metricsOf
  cases found : event.metric? <;> simp [found]

@[simp]
theorem metricsOf_append (left right : List (PassEvent Response Failure)) :
    metricsOf (left ++ right) = metricsOf left ++ metricsOf right :=
  List.filterMap_append

theorem Pass.Paired.same (paired : pass.Paired) (metrics : metricsOf next.log = metricsOf pass.log)
    (flight : ∀ provider mode, next.inFlight provider mode = pass.inFlight provider mode) :
    next.Paired := by
  intro provider mode
  rw [metrics, flight]
  exact paired provider mode

def PassEvent.quiet : PassEvent Response Failure → Bool
  | .tried _ _ => false
  | .concluded _ _ => false
  | .metric _ => false
  | _ => true

structure Pass.Noted (pass next : Pass Response Failure) (event : PassEvent Response Failure) :
    Prop where
  quiet : event.quiet = true
  log : next.log = pass.log ++ [event]
  mode : next.mode = pass.mode
  attempted : next.attempted = pass.attempted
  phase : next.phase = pass.phase

theorem noted_consume (pass : Pass Response Failure) (role : TargetRole) (content : JsString) :
    ∃ event, pass.Noted (pass.consume role content) event := by
  unfold Pass.consume
  cases (throwIfCancelled pass.aborted : Except (Thrown Failure) Unit) with
  | error error => exact ⟨_, rfl, rfl, rfl, rfl, rfl⟩
  | ok done =>
      dsimp only
      split_ifs
      · exact ⟨_, rfl, rfl, rfl, rfl, rfl⟩
      · exact ⟨.handed role content, rfl, rfl, rfl, rfl, rfl⟩

theorem Pass.Paired.noted {event : PassEvent Response Failure} (paired : pass.Paired)
    (noted : pass.Noted next event) : next.Paired := by
  have silent : event.metric? = none := by
    have quiet := noted.quiet
    cases event with
    | metric event => cases quiet
    | _ => rfl
  refine paired.same ?_ (fun provider mode => ?_)
  · simp [noted.log, silent]
  · rw [Pass.inFlight, Pass.inFlight, noted.phase, noted.attempted, noted.mode]

theorem Pass.Paired.leave (paired : pass.Paired) {outcome : Except (Thrown Failure) Response}
    (stopped : pass.phase = .calling role target outcome) :
    (pass.leave role target outcome).Paired := by
  intro provider mode
  have before := paired provider mode
  have landed : (pass.leave role target outcome).inFlight provider mode = false := by
    cases role <;> rfl
  have metrics : metricsOf (pass.leave role target outcome).log =
      metricsOf pass.log ++
        (if isCircuitOpenError outcome then [.circuitRejection target.name pass.mode] else []) ++
        (if pass.attempted then
          [.providerEnd target.name pass.mode (providerOutcome outcome)] else []) := by
    simp only [Pass.leave, Pass.recordMetrics]
    split_ifs <;> simp [Pass.record, Pass.stop, PassEvent.metric?]
  have flying : pass.inFlight provider mode =
      (pass.attempted && target.name = provider && pass.mode = mode) := by
    rw [Pass.inFlight, stopped]
    rfl
  rw [flying] at before
  rw [landed, metrics, outstanding_append, outstanding_append, before]
  cases pass.attempted <;>
    by_cases same : target.name = provider <;>
    by_cases sameMode : pass.mode = mode <;>
    cases isCircuitOpenError outcome <;>
    simp [outstanding, MetricEvent.starts, MetricEvent.ends, same, sameMode]

/-- A call up to its first await: what its circuit decides, and how far the
operation gets. -/
inductive Called (caller : Pass Response Failure) (role : TargetRole) (target : ProviderTarget)
    (data : ChatRequest) : Except CircuitOpenError CircuitBreaker → Pass Response Failure → Prop
  | refused {error : CircuitOpenError} : Called caller role target data (.error error)
      { caller with
        attempted := false
        phase := .calling role target (.error (.circuitOpenError error))
        log := caller.log ++ [PassEvent.tried role data, .skipped role error] }
  | cancelled {breaker : CircuitBreaker} (aborted : caller.aborted = true) :
      Called caller role target data (.ok breaker)
        { caller with
          attempted := false
          phase := .executing role target breaker.generation (.error .requestAbortedError)
          log := caller.log ++ [PassEvent.tried role data] }
  | unsupported {breaker : CircuitBreaker} (notAborted : caller.aborted = false) :
      Called caller role target data (.ok breaker)
        { caller with
          attempted := true
          phase := .executing role target breaker.generation
            (.error .providerStreamingUnsupportedError)
          log := caller.log ++
            [PassEvent.tried role data, .metric (.providerStart target.name caller.mode)] }
  | invoked {breaker : CircuitBreaker} (notAborted : caller.aborted = false) :
      Called caller role target data (.ok breaker)
        { caller with
          attempted := true
          phase := .operating role target breaker.generation
          log := caller.log ++
            [PassEvent.tried role data, .metric (.providerStart target.name caller.mode),
              .invoked role data] }

theorem called_call (caller : Pass Response Failure) (role : TargetRole) (target : ProviderTarget)
    (data : ChatRequest) (circuits : Circuits) (now : ℚ) :
    Called caller role target data ((circuits role).enter target.circuit now)
      (caller.call role target data circuits now).1 := by
  unfold Pass.call
  cases (circuits role).enter target.circuit now with
  | error error => simpa [Pass.record, Pass.stop] using Called.refused
  | ok breaker =>
      simp only [Pass.operate, Pass.record, Pass.stop, List.append_assoc, List.cons_append,
        List.nil_append]
      split_ifs with aborted unsupported
      · exact .cancelled aborted
      · exact .unsupported (Bool.eq_false_iff.mpr aborted)
      · exact .invoked (Bool.eq_false_iff.mpr aborted)

theorem Called.paired {caller called : Pass Response Failure} {data : ChatRequest}
    {decision : Except CircuitOpenError CircuitBreaker}
    (entered : Called caller role target data decision called)
    (quiet : ∀ provider mode, outstanding provider mode (metricsOf caller.log) = 0) :
    called.Paired := by
  intro provider mode
  have before := quiet provider mode
  have started : outstanding provider mode
      (metricsOf caller.log ++ [MetricEvent.providerStart target.name caller.mode]) =
        if target.name = provider ∧ caller.mode = mode then 1 else 0 := by
    rw [outstanding_append, before]
    by_cases same : target.name = provider ∧ caller.mode = mode <;>
      simp [outstanding, MetricEvent.starts, MetricEvent.ends, same]
  cases entered with
  | refused => simpa [PassEvent.metric?, Pass.inFlight, PassPhase.target?] using before
  | cancelled aborted =>
      simpa [PassEvent.metric?, Pass.inFlight, PassPhase.target?] using before
  | unsupported notAborted =>
      simpa [PassEvent.metric?, Pass.inFlight, PassPhase.target?] using started
  | invoked notAborted =>
      simpa [PassEvent.metric?, Pass.inFlight, PassPhase.target?] using started

theorem Pass.Paired.route (paired : pass.Paired) {outcome : Except (Thrown Failure) Response}
    (stopped : pass.phase = .routing outcome) (circuits : Circuits) (now : ℚ) :
    (pass.route router outcome circuits now).1.Paired := by
  have grounded : ∀ provider mode, pass.inFlight provider mode = false := by
    intro provider mode
    rw [Pass.inFlight, stopped]
    rfl
  have finish : ∀ outcome, (pass.stop (.finished outcome)).Paired :=
    fun outcome => paired.same rfl (fun provider mode => (grounded provider mode).symm)
  cases outcome with
  | ok response => exact finish _
  | error error =>
      simp only [Pass.route]
      split_ifs
      · exact finish _
      · cases pass.fallbackFor router error with
        | none => exact finish _
        | some choice =>
            apply (called_call _ _ _ _ _ _).paired
            intro provider mode
            have before := paired provider mode
            rw [grounded provider mode] at before
            simpa [Pass.record, outstanding_append, outstanding, PassEvent.metric?,
              MetricEvent.starts, MetricEvent.ends] using before

theorem Pass.Paired.step {input : PassInput Response Failure} (paired : pass.Paired)
    (taken : PassStep router now pass circuits input next circuits') : next.Paired := by
  cases taken with
  | abort => exact paired.noted ⟨rfl, rfl, rfl, rfl, rfl⟩
  | consume allowed =>
      obtain ⟨event, noted⟩ := noted_consume pass _ _
      exact paired.noted noted
  | deliver writing => exact paired.noted ⟨rfl, rfl, rfl, rfl, rfl⟩
  | answer stopped =>
      refine paired.same ?_ (fun provider mode => ?_)
      · simp [Pass.answer, Pass.record, Pass.stop, PassEvent.metric?]
      · simp only [Pass.inFlight, stopped]
        rfl
  | execute stopped =>
      refine paired.same rfl (fun provider mode => ?_)
      simp only [Pass.inFlight, stopped]
      rfl
  | call stopped => exact paired.leave stopped
  | route stopped => exact paired.route stopped circuits now

theorem paired_start (router : ProviderRouter) (mode : PassMode) (request : ChatRequest)
    (aborted : Bool) (circuits : Circuits) (now : ℚ) :
    (Pass.start router mode request aborted circuits now :
      Pass Response Failure × Circuits).1.Paired := by
  cases aborted with
  | true =>
      intro provider mode
      rfl
  | false =>
      apply (called_call _ _ _ _ _ _).paired
      intro provider mode
      rfl

theorem routerStep_paired {system next : RouterSystem Response Failure}
    {event : RouterEvent Response Failure} (held : ∀ pass ∈ system.passes, pass.Paired)
    (taken : RouterStep router system event next) : ∀ pass ∈ next.passes, pass.Paired := by
  intro pass member
  cases taken with
  | @start now mode request aborted _ _ later started =>
      rcases List.mem_append.mp member with old | new
      · exact held pass old
      · have paired : (Pass.start router mode request aborted system.circuits now :
            Pass Response Failure × Circuits).1.Paired :=
          paired_start router mode request aborted system.circuits now
        rw [started] at paired
        rw [List.mem_singleton.mp new]
        exact paired
  | step later present taken =>
      rcases List.mem_or_eq_of_mem_set member with old | rfl
      · exact held pass old
      · exact (held _ (List.mem_of_getElem? present)).step taken

theorem outstanding_passes {passes : List (Pass Response Failure)}
    (paired : ∀ pass ∈ passes, pass.Paired) (provider : String) (mode : PassMode) :
    outstanding provider mode (passes.flatMap (fun pass => metricsOf pass.log)) =
      passes.countP (Pass.inFlight provider mode) := by
  induction passes with
  | nil => rfl
  | cons pass rest ih =>
      have here := paired pass List.mem_cons_self provider mode
      have later := ih (fun other member => paired other (List.mem_cons_of_mem pass member))
      rw [List.flatMap_cons, outstanding_append, here, later, List.countP_cons]
      split_ifs <;> push_cast <;> ring

end ModelMux.Providers
