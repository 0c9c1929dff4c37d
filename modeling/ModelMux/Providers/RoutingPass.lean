/-
What one routing pass may do.

The log of a pass is checked event by event against the events before it: when
a provider may be invoked, when the fallback may be tried and with which
request, and what a target concludes with.  The await at which the pass has
stopped tells which part of the log has been written, which carries the
argument through every interleaving of passes, aborts and stream deliveries.
-/

import ModelMux.Providers.Router

namespace ModelMux.Providers

variable {Response Failure : Type}

/-! ### Reading a log -/

namespace PassEvent

def begins (role : TargetRole) : PassEvent Response Failure → Bool
  | .tried other _ => other = role
  | .skipped other _ => other = role
  | .invoked other _ => other = role
  | _ => false

def triedRole : PassEvent Response Failure → Option TargetRole
  | .tried role _ => some role
  | _ => none

end PassEvent

/-- The call of the target has not begun. -/
def Untouched (role : TargetRole) (log : List (PassEvent Response Failure)) : Prop :=
  ∀ event ∈ log, event.begins role = false

def lastTried (log : List (PassEvent Response Failure)) : Option TargetRole :=
  (log.filterMap PassEvent.triedRole).getLast?

theorem untouched_snoc {role : TargetRole} {log : List (PassEvent Response Failure)}
    {event : PassEvent Response Failure} :
    Untouched role (log ++ [event]) ↔ Untouched role log ∧ event.begins role = false := by
  simp [Untouched, or_imp, forall_and]

theorem lastTried_snoc {log : List (PassEvent Response Failure)}
    {event : PassEvent Response Failure} :
    lastTried (log ++ [event]) = event.triedRole.or (lastTried log) := by
  unfold lastTried
  rw [List.filterMap_append]
  cases tried : event.triedRole <;> simp [tried]

def Serves (router : ProviderRouter) (target : ProviderTarget) : TargetRole → Prop
  | .primary => target = router.primary
  | .fallback => ∃ fallback, router.fallback = some fallback ∧ target = fallback.toProviderTarget

/-- What `execute` settles with for a target. -/
inductive ExecuteOutcome (mode : PassMode) (target : ProviderTarget) (role : TargetRole)
    (log : List (PassEvent Response Failure)) : Except (Thrown Failure) Response → Prop
  | refused {error : CircuitOpenError} (skipped : .skipped role error ∈ log) :
      ExecuteOutcome mode target role log (.error (.circuitOpenError error))
  | answered {outcome : Except (Thrown Failure) Response}
      (admitted : ∀ error, .skipped role error ∉ log) (settled : .answered role outcome ∈ log) :
      ExecuteOutcome mode target role log outcome
  | unsupported (admitted : ∀ error, .skipped role error ∉ log) (streaming : mode = .stream)
      (missing : target.streams = false) :
      ExecuteOutcome mode target role log (.error .providerStreamingUnsupportedError)
  | cancelled (admitted : ∀ error, .skipped role error ∉ log) (found : .aborted ∈ log) :
      ExecuteOutcome mode target role log (.error .requestAbortedError)

/-- The outcome of a target: the circuit refused it and the error names the
target and the hint, or its provider has answered, has no `stream` method, or
the signal was found aborted. -/
def TargetOutcome (router : ProviderRouter) (mode : PassMode) (role : TargetRole)
    (log : List (PassEvent Response Failure)) (outcome : Except (Thrown Failure) Response) : Prop :=
  ∃ target settled, Serves router target role ∧ ExecuteOutcome mode target role log settled ∧
    outcome = settled.mapError (Pass.report target)

/-- When the fallback may be tried, and with which request. -/
structure FallbackDue (router : ProviderRouter) (request : ChatRequest)
    (before : List (PassEvent Response Failure)) (data : ChatRequest) : Prop where
  primaryFailed : (∃ error, .skipped .primary error ∈ before) ∨
    ∃ error, .concluded .primary (.error error) ∈ before ∧ isRetryableProviderError error = true
  mapped : ∃ fallback model, router.fallback = some fallback ∧
    fallback.modelMap request.model = some model ∧ model ≠ [] ∧
      data = { request with model := model }
  silent : ∀ role content, content ≠ [] → .handed role content ∉ before
  notAborted : .aborted ∉ before

def Permitted (router : ProviderRouter) (mode : PassMode) (request : ChatRequest)
    (before : List (PassEvent Response Failure)) : PassEvent Response Failure → Prop
  | .tried .primary data => data = request
  | .tried .fallback data => FallbackDue router request before data
  | .invoked role data =>
      .aborted ∉ before ∧ (∀ data', .invoked role data' ∉ before) ∧ .tried role data ∈ before
  | .concluded role outcome => TargetOutcome router mode role before outcome
  | _ => True

/-! ### The invariant of a pass -/

/-- The call of the target has begun and no other has begun since. -/
structure InCall (router : ProviderRouter) (role : TargetRole) (target : ProviderTarget)
    (log : List (PassEvent Response Failure)) : Prop where
  serves : Serves router target role
  last : lastTried log = some role
  order : role = .primary → Untouched .fallback log

/-- The part of the log that has been written when a pass stops. -/
def Stopped (router : ProviderRouter) (mode : PassMode) (log : List (PassEvent Response Failure)) :
    PassPhase Response Failure → Prop
  | .operating role target _ =>
      InCall router role target log ∧ ∀ error, .skipped role error ∉ log
  | .executing role target _ outcome =>
      InCall router role target log ∧ ExecuteOutcome mode target role log outcome
  | .calling role target outcome =>
      InCall router role target log ∧ ExecuteOutcome mode target role log outcome
  | .routing outcome =>
      lastTried log = some .primary ∧ Untouched .fallback log ∧ .concluded .primary outcome ∈ log
  | .finished outcome =>
      (outcome = .error .requestAbortedError ∧ .aborted ∈ log) ∨
        ∃ role, lastTried log = some role ∧ .concluded role outcome ∈ log

/-- The flags of a pass and every event of its log agree with the log. -/
structure LogInvariant (router : ProviderRouter) (pass : Pass Response Failure) : Prop where
  flagged : pass.aborted = true ↔ .aborted ∈ pass.log
  emitted : ∀ role content, .handed role content ∈ pass.log →
    pass.emitted = true ∧ pass.mode = .stream
  permitted : Throughout (Permitted router pass.mode pass.request) pass.log

structure PassInvariant (router : ProviderRouter) (pass : Pass Response Failure) : Prop
    extends LogInvariant router pass where
  stopped : Stopped router pass.mode pass.log pass.phase

section Quiet

variable {router : ProviderRouter} {mode : PassMode} {role : TargetRole} {target : ProviderTarget}
  {log : List (PassEvent Response Failure)} {event : PassEvent Response Failure}
  {outcome : Except (Thrown Failure) Response}

theorem triedRole_quiet (quiet : ∀ role, event.begins role = false) : event.triedRole = none := by
  cases event with
  | tried role data => simpa [PassEvent.begins] using quiet role
  | _ => rfl

theorem lastTried_quiet (quiet : ∀ role, event.begins role = false) :
    lastTried (log ++ [event]) = lastTried log := by
  rw [lastTried_snoc, triedRole_quiet quiet]
  rfl

theorem not_skipped_quiet (quiet : ∀ role, event.begins role = false)
    (admitted : ∀ error, .skipped role error ∉ log) (error : CircuitOpenError) :
    .skipped role error ∉ log ++ [event] := by
  intro member
  rcases List.mem_append.mp member with old | new
  · exact admitted error old
  · cases List.mem_singleton.mp new
    simpa [PassEvent.begins] using quiet role

theorem InCall.snoc (call : InCall router role target log) (event : PassEvent Response Failure)
    (sameCall : event.triedRole = none) (own : role = .primary → event.begins .fallback = false) :
    InCall router role target (log ++ [event]) where
  serves := call.serves
  last := by
    rw [lastTried_snoc, sameCall]
    exact call.last
  order := fun primary => untouched_snoc.mpr ⟨call.order primary, own primary⟩

theorem InCall.quiet (call : InCall router role target log)
    (quiet : ∀ role, event.begins role = false) : InCall router role target (log ++ [event]) :=
  call.snoc event (triedRole_quiet quiet) (fun _ => quiet _)

theorem ExecuteOutcome.quiet (settled : ExecuteOutcome mode target role log outcome)
    (quiet : ∀ role, event.begins role = false) :
    ExecuteOutcome mode target role (log ++ [event]) outcome := by
  cases settled with
  | refused skipped => exact .refused (List.mem_append_left _ skipped)
  | answered admitted settled =>
      exact .answered (not_skipped_quiet quiet admitted) (List.mem_append_left _ settled)
  | unsupported admitted streaming missing =>
      exact .unsupported (not_skipped_quiet quiet admitted) streaming missing
  | cancelled admitted found =>
      exact .cancelled (not_skipped_quiet quiet admitted) (List.mem_append_left _ found)

theorem Stopped.quiet {phase : PassPhase Response Failure} (stopped : Stopped router mode log phase)
    (quiet : ∀ role, event.begins role = false) : Stopped router mode (log ++ [event]) phase := by
  cases phase with
  | operating role target generation =>
      exact ⟨stopped.1.quiet quiet, not_skipped_quiet quiet stopped.2⟩
  | executing role target generation outcome =>
      exact ⟨stopped.1.quiet quiet, stopped.2.quiet quiet⟩
  | calling role target outcome => exact ⟨stopped.1.quiet quiet, stopped.2.quiet quiet⟩
  | routing outcome =>
      obtain ⟨last, untouched, concluded⟩ := stopped
      refine ⟨?_, untouched_snoc.mpr ⟨untouched, quiet _⟩, List.mem_append_left _ concluded⟩
      rw [lastTried_quiet quiet]
      exact last
  | finished outcome =>
      rcases stopped with ⟨cancelled, found⟩ | ⟨role, last, concluded⟩
      · exact .inl ⟨cancelled, List.mem_append_left _ found⟩
      · refine .inr ⟨role, ?_, List.mem_append_left _ concluded⟩
        rw [lastTried_quiet quiet]
        exact last

end Quiet

/-! ### The steps of a pass -/

variable {router : ProviderRouter} {pass : Pass Response Failure} {role : TargetRole}
  {target : ProviderTarget}

theorem LogInvariant.record (base : LogInvariant router pass)
    (event : PassEvent Response Failure) (notAbort : event ≠ .aborted)
    (notHanded : ∀ role content, event ≠ .handed role content)
    (allowed : Permitted router pass.mode pass.request pass.log event) :
    LogInvariant router (pass.record event) where
  flagged := by
    rw [Pass.record, List.mem_append, List.mem_singleton]
    simp [base.flagged, notAbort.symm]
  emitted := by
    intro role content member
    rcases List.mem_append.mp member with old | new
    · exact base.emitted role content old
    · exact absurd (List.mem_singleton.mp new).symm (notHanded role content)
  permitted := throughout_snoc.mpr ⟨base.permitted, allowed⟩

theorem LogInvariant.not_aborted (base : LogInvariant router pass)
    (notAborted : pass.aborted = false) : .aborted ∉ pass.log := by
  intro found
  rw [base.flagged.mpr found] at notAborted
  cases notAborted

theorem LogInvariant.withoutPhase {other : Pass Response Failure}
    (base : LogInvariant router pass) (mode : other.mode = pass.mode)
    (request : other.request = pass.request) (aborted : other.aborted = pass.aborted)
    (emitted : other.emitted = pass.emitted) (log : other.log = pass.log) :
    LogInvariant router other where
  flagged := by
    rw [aborted, log]
    exact base.flagged
  emitted := by
    rw [emitted, mode, log]
    exact base.emitted
  permitted := by
    rw [mode, request, log]
    exact base.permitted

theorem PassInvariant.abort (invariant : PassInvariant router pass) :
    PassInvariant router pass.abort where
  flagged := by simp [Pass.abort, Pass.record]
  emitted := by
    intro role content member
    rcases List.mem_append.mp member with old | new
    · exact invariant.emitted role content old
    · cases List.mem_singleton.mp new
  permitted := throughout_snoc.mpr ⟨invariant.permitted, trivial⟩
  stopped := invariant.stopped.quiet (fun _ => rfl)

theorem PassInvariant.consume (invariant : PassInvariant router pass)
    (allowed : pass.HasConsumer role) (content : JsString) :
    PassInvariant router (pass.consume role content) := by
  have consumed : ∀ answer, PassInvariant router (pass.record (.consumed role answer)) := by
    intro answer
    exact ⟨invariant.toLogInvariant.record _ (by simp) (by simp) trivial,
      invariant.stopped.quiet (fun _ => rfl)⟩
  unfold Pass.consume
  cases (throwIfCancelled pass.aborted : Except (Thrown Failure) Unit) with
  | error error => exact consumed (.error error)
  | ok done =>
      dsimp only
      split_ifs
      · exact consumed (.ok ())
      · constructor
        · constructor
          · simp [Pass.record, invariant.flagged]
          · intro _ _ _
            exact ⟨rfl, allowed.1⟩
          · exact throughout_snoc.mpr ⟨invariant.permitted, trivial⟩
        · exact invariant.stopped.quiet (fun _ => rfl)

theorem PassInvariant.deliver (invariant : PassInvariant router pass) (role : TargetRole)
    (accepted : Bool) : PassInvariant router (pass.deliver role accepted) := by
  have base : LogInvariant router { pass with writes := pass.writes.erase role } :=
    invariant.toLogInvariant.withoutPhase rfl rfl rfl rfl rfl
  exact ⟨base.record _ (by simp) (by simp) trivial, invariant.stopped.quiet (fun _ => rfl)⟩

theorem PassInvariant.answer (invariant : PassInvariant router pass) {generation : ℕ}
    (stopped : pass.phase = .operating role target generation)
    (outcome : Except (Thrown Failure) Response) :
    PassInvariant router (pass.answer role target generation outcome) := by
  have held := invariant.stopped
  rw [stopped] at held
  obtain ⟨call, admitted⟩ := held
  have quiet : ∀ other, (PassEvent.answered role outcome).begins other = false := fun _ => rfl
  have base := invariant.toLogInvariant.record (.answered role outcome) (by simp) (by simp) trivial
  refine ⟨base.withoutPhase rfl rfl rfl rfl rfl, call.quiet quiet, ?_⟩
  rw [Pass.wrap_eq]
  cases found : pass.aborted with
  | false =>
      exact .answered (not_skipped_quiet quiet admitted)
        (List.mem_append_right _ (List.mem_singleton_self _))
  | true =>
      exact .cancelled (not_skipped_quiet quiet admitted)
        (List.mem_append_left _ (invariant.flagged.mp found))

theorem PassInvariant.execute (invariant : PassInvariant router pass) {generation : ℕ}
    {outcome : Except (Thrown Failure) Response}
    (stopped : pass.phase = .executing role target generation outcome) :
    PassInvariant router (pass.stop (.calling role target outcome)) := by
  have held := invariant.stopped
  rw [stopped] at held
  exact ⟨invariant.toLogInvariant.withoutPhase rfl rfl rfl rfl rfl, held⟩

theorem PassInvariant.recordMetrics (invariant : PassInvariant router pass)
    (target : ProviderTarget) (outcome : Except (Thrown Failure) Response) :
    PassInvariant router (pass.recordMetrics target outcome) := by
  have metric : ∀ (other : Pass Response Failure) (event : MetricEvent),
      PassInvariant router other → PassInvariant router (other.record (.metric event)) := by
    intro other event held
    exact ⟨held.toLogInvariant.record _ (by simp) (by simp) trivial,
      held.stopped.quiet (fun _ => rfl)⟩
  simp only [Pass.recordMetrics]
  split_ifs
  · exact metric _ _ (metric _ _ invariant)
  · exact metric _ _ invariant
  · exact metric _ _ invariant
  · exact invariant

theorem phase_recordMetrics (pass : Pass Response Failure) (target : ProviderTarget)
    (outcome : Except (Thrown Failure) Response) :
    (pass.recordMetrics target outcome).phase = pass.phase := by
  simp only [Pass.recordMetrics]
  split_ifs <;> rfl

theorem PassInvariant.leave (invariant : PassInvariant router pass)
    {outcome : Except (Thrown Failure) Response}
    (stopped : pass.phase = .calling role target outcome) :
    PassInvariant router (pass.leave role target outcome) := by
  have measured := invariant.recordMetrics target outcome
  have held := measured.stopped
  rw [phase_recordMetrics, stopped] at held
  obtain ⟨call, settled⟩ := held
  have base := measured.toLogInvariant.record
    (.concluded role (outcome.mapError (Pass.report target))) (by simp) (by simp)
    ⟨target, outcome, call.serves, settled, rfl⟩
  have called := call.snoc (.concluded role (outcome.mapError (Pass.report target))) rfl
    (fun _ => rfl)
  refine ⟨base.withoutPhase rfl rfl rfl rfl rfl, ?_⟩
  have written : PassEvent.concluded role (outcome.mapError (Pass.report target)) ∈
      (pass.leave role target outcome).log :=
    List.mem_append_right _ (List.mem_singleton_self _)
  cases role with
  | primary => exact ⟨called.last, called.order rfl, written⟩
  | fallback => exact .inr ⟨.fallback, called.last, written⟩

theorem Untouched.not_skipped {log : List (PassEvent Response Failure)}
    (untouched : Untouched role log) (error : CircuitOpenError) : .skipped role error ∉ log := by
  intro member
  simpa [PassEvent.begins] using untouched _ member

theorem Untouched.not_invoked {log : List (PassEvent Response Failure)}
    (untouched : Untouched role log) (data : ChatRequest) : .invoked role data ∉ log := by
  intro member
  simpa [PassEvent.begins] using untouched _ member

theorem LogInvariant.operate (base : LogInvariant router pass) {data : ChatRequest}
    (call : InCall router role target pass.log) (tried : .tried role data ∈ pass.log)
    (admitted : ∀ error, .skipped role error ∉ pass.log)
    (first : ∀ data', .invoked role data' ∉ pass.log) (notAborted : pass.aborted = false)
    (generation : ℕ) : PassInvariant router (pass.operate role target data generation) := by
  have quiet : ∀ other, (PassEvent.metric (.providerStart target.name pass.mode) :
      PassEvent Response Failure).begins other = false := fun _ => rfl
  have started := (base.record (.metric (.providerStart target.name pass.mode)) (by simp) (by simp)
    trivial)
  have unaborted := base.not_aborted notAborted
  rw [Pass.operate, if_neg (by simp [notAborted])]
  dsimp only
  split_ifs with unsupported
  · refine ⟨started.withoutPhase rfl rfl rfl rfl rfl, call.quiet quiet, ?_⟩
    exact .unsupported (not_skipped_quiet quiet admitted) unsupported.1 unsupported.2
  · have invoked := started.record (.invoked role data) (by simp) (by simp)
      ⟨by simpa [Pass.record] using unaborted, by simpa [Pass.record] using first,
        List.mem_append_left _ tried⟩
    refine ⟨invoked.withoutPhase rfl rfl rfl rfl rfl, ?_, ?_⟩
    · apply (call.quiet quiet).snoc (.invoked role data) rfl
      rintro rfl
      rfl
    · intro error
      simpa [Pass.record, Pass.stop] using admitted error

theorem LogInvariant.call (base : LogInvariant router pass) {data : ChatRequest}
    (serves : Serves router target role)
    (allowed : Permitted router pass.mode pass.request pass.log (.tried role data))
    (untouched : Untouched role pass.log)
    (order : role = .primary → Untouched .fallback pass.log) (notAborted : pass.aborted = false)
    (circuits : Circuits) (now : ℚ) :
    PassInvariant router (pass.call role target data circuits now).1 := by
  have reset : LogInvariant router { pass with attempted := false } :=
    base.withoutPhase rfl rfl rfl rfl rfl
  have trying := reset.record (.tried role data) (by simp) (by simp) allowed
  have call : InCall router role target (pass.log ++ [.tried role data]) := by
    refine ⟨serves, ?_, ?_⟩
    · rw [lastTried_snoc]
      rfl
    · rintro rfl
      exact untouched_snoc.mpr ⟨order rfl, rfl⟩
  unfold Pass.call
  cases (circuits role).enter target.circuit now with
  | error error =>
      have skipped := trying.record (.skipped role error) (by simp) (by simp) trivial
      refine ⟨skipped.withoutPhase rfl rfl rfl rfl rfl, ?_, ?_⟩
      · apply call.snoc (.skipped role error) rfl
        rintro rfl
        rfl
      · exact .refused (List.mem_append_right _ (List.mem_singleton_self _))
  | ok breaker =>
      apply trying.operate call
      · exact List.mem_append_right _ (List.mem_singleton_self _)
      · intro error
        simpa [Pass.record] using untouched.not_skipped error
      · intro data'
        simpa [Pass.record] using untouched.not_invoked data'
      · exact notAborted

theorem fallbackFor_eq_some {error : Thrown Failure} {fallback : FallbackTarget} {model : JsString}
    (chosen : pass.fallbackFor router error = some (fallback, model)) :
    pass.canFallback = true ∧ isRetryableProviderError error = true ∧
      router.fallback = some fallback ∧ fallback.modelMap pass.request.model = some model ∧
        model ≠ [] := by
  unfold Pass.fallbackFor at chosen
  split_ifs at chosen with due
  rw [Bool.and_eq_true] at due
  cases present : router.fallback with
  | none => simp [present] at chosen
  | some configured =>
      cases mapped : configured.modelMap pass.request.model with
      | none => simp [present, mapped] at chosen
      | some replacement =>
          simp only [present, mapped] at chosen
          split_ifs at chosen with empty
          cases chosen
          exact ⟨due.1, due.2, rfl, mapped, empty⟩

/-- No text has been handed over while the pass can fall back. -/
theorem LogInvariant.silent (base : LogInvariant router pass) (can : pass.canFallback = true)
    (role : TargetRole) (content : JsString) : .handed role content ∉ pass.log := by
  intro member
  obtain ⟨emitted, streaming⟩ := base.emitted role content member
  simp [Pass.canFallback, emitted, streaming] at can

theorem PassInvariant.fallback (invariant : PassInvariant router pass) {error : Thrown Failure}
    {fallback : FallbackTarget} {model : JsString}
    (stopped : pass.phase = .routing (.error error)) (notAborted : pass.aborted = false)
    (chosen : pass.fallbackFor router error = some (fallback, model)) (circuits : Circuits)
    (now : ℚ) :
    PassInvariant router
      ((pass.record (.metric (.fallback router.primary.name fallback.name))).call .fallback
        fallback.toProviderTarget { pass.request with model := model } circuits now).1 := by
  have held := invariant.stopped
  rw [stopped] at held
  obtain ⟨_, untouched, concluded⟩ := held
  obtain ⟨can, retryable, configured, mapped, nonempty⟩ := fallbackFor_eq_some chosen
  have base := invariant.toLogInvariant.record
    (.metric (.fallback router.primary.name fallback.name)) (by simp) (by simp) trivial
  have unaborted := invariant.not_aborted notAborted
  apply base.call
  · exact ⟨fallback, configured, rfl⟩
  · constructor
    · exact .inr ⟨error, List.mem_append_left _ concluded, retryable⟩
    · exact ⟨fallback, model, configured, mapped, nonempty, rfl⟩
    · intro role content _
      simpa [Pass.record] using invariant.silent can role content
    · simpa [Pass.record] using unaborted
  · exact untouched_snoc.mpr ⟨untouched, rfl⟩
  · intro impossible
    cases impossible
  · exact notAborted

theorem PassInvariant.route (invariant : PassInvariant router pass)
    {outcome : Except (Thrown Failure) Response} (stopped : pass.phase = .routing outcome)
    (circuits : Circuits) (now : ℚ) :
    PassInvariant router (pass.route router outcome circuits now).1 := by
  have held := invariant.stopped
  rw [stopped] at held
  obtain ⟨last, _, concluded⟩ := held
  have settle : PassInvariant router (pass.stop (.finished outcome)) :=
    ⟨invariant.toLogInvariant.withoutPhase rfl rfl rfl rfl rfl, .inr ⟨.primary, last, concluded⟩⟩
  cases outcome with
  | ok response => exact settle
  | error error =>
      simp only [Pass.route]
      cases found : pass.aborted with
      | true =>
          exact ⟨invariant.toLogInvariant.withoutPhase rfl rfl rfl rfl rfl,
            .inl ⟨rfl, invariant.flagged.mp found⟩⟩
      | false =>
          cases chosen : pass.fallbackFor router error with
          | none => exact settle
          | some choice => exact invariant.fallback stopped found chosen circuits now

theorem passInvariant_start (router : ProviderRouter) (mode : PassMode) (request : ChatRequest)
    (aborted : Bool) (circuits : Circuits) (now : ℚ) :
    PassInvariant router
      (Pass.start router mode request aborted circuits now :
        Pass Response Failure × Circuits).1 := by
  cases aborted with
  | true =>
      constructor
      · constructor
        · simp [Pass.start, Pass.initial]
        · simp [Pass.start, Pass.initial]
        · exact throughout_snoc.mpr ⟨throughout_nil _, trivial⟩
      · exact .inl ⟨rfl, by simp [Pass.start, Pass.initial]⟩
  | false =>
      apply LogInvariant.call
      · constructor
        · simp [Pass.initial]
        · simp [Pass.initial]
        · exact throughout_nil _
      · rfl
      · rfl
      · simp [Untouched, Pass.initial]
      · simp [Untouched, Pass.initial]
      · rfl

/-! ### Whole runs -/

theorem PassInvariant.step {next : Pass Response Failure} {now : ℚ} {circuits circuits' : Circuits}
    {input : PassInput Response Failure} (invariant : PassInvariant router pass)
    (taken : PassStep router now pass circuits input next circuits') :
    PassInvariant router next := by
  cases taken with
  | abort => exact invariant.abort
  | consume allowed => exact invariant.consume allowed _
  | deliver writing => exact invariant.deliver _ _
  | answer stopped => exact invariant.answer stopped _
  | execute stopped => exact invariant.execute stopped
  | call stopped => exact invariant.leave stopped
  | route stopped => exact invariant.route stopped circuits now

theorem routerStep_passInvariant {system next : RouterSystem Response Failure}
    {event : RouterEvent Response Failure}
    (held : ∀ pass ∈ system.passes, PassInvariant router pass)
    (taken : RouterStep router system event next) :
    ∀ pass ∈ next.passes, PassInvariant router pass := by
  intro pass member
  cases taken with
  | @start now mode request aborted _ _ later started =>
      rcases List.mem_append.mp member with old | new
      · exact held pass old
      · have invariant : PassInvariant router (Pass.start router mode request aborted
            system.circuits now : Pass Response Failure × Circuits).1 :=
          passInvariant_start router mode request aborted system.circuits now
        rw [started] at invariant
        rw [List.mem_singleton.mp new]
        exact invariant
  | step later present taken =>
      rcases List.mem_or_eq_of_mem_set member with old | rfl
      · exact held pass old
      · exact (held _ (List.mem_of_getElem? present)).step taken

theorem passInvariant_of_run {clock : ℚ} {circuits : Circuits}
    {system : RouterSystem Response Failure} {events : List (RouterEvent Response Failure)}
    (run : Run (RouterStep router) (.initial clock circuits) events system) :
    ∀ pass ∈ system.passes, PassInvariant router pass :=
  run.invariant (fun state => ∀ pass ∈ state.passes, PassInvariant router pass)
    (by simp [RouterSystem.initial]) (fun _ _ _ held taken => routerStep_passInvariant held taken)

/-! ### Completion -/

/-- The awaits that are still ahead of a pass. -/
def PassPhase.rank : PassPhase Response Failure → ℕ
  | .operating .primary _ _ => 7
  | .executing .primary _ _ _ => 6
  | .calling .primary _ _ => 5
  | .routing _ => 4
  | .operating .fallback _ _ => 3
  | .executing .fallback _ _ _ => 2
  | .calling .fallback _ _ => 1
  | .finished _ => 0

theorem rank_call_fallback (pass : Pass Response Failure) (target : ProviderTarget)
    (data : ChatRequest) (circuits : Circuits) (now : ℚ) :
    (pass.call .fallback target data circuits now).1.phase.rank < 4 := by
  unfold Pass.call
  cases (circuits .fallback).enter target.circuit now with
  | error error => simp [Pass.stop, PassPhase.rank]
  | ok breaker =>
      simp only [Pass.operate]
      split_ifs <;> simp [Pass.stop, PassPhase.rank]

theorem rank_route (router : ProviderRouter) (pass : Pass Response Failure)
    (outcome : Except (Thrown Failure) Response) (circuits : Circuits) (now : ℚ) :
    (pass.route router outcome circuits now).1.phase.rank < 4 := by
  cases outcome with
  | ok response => simp [Pass.route, Pass.stop, PassPhase.rank]
  | error error =>
      simp only [Pass.route]
      split_ifs
      · simp [Pass.stop, PassPhase.rank]
      · cases pass.fallbackFor router error with
        | none => simp [Pass.stop, PassPhase.rank]
        | some choice => exact rank_call_fallback _ _ _ _ _

/-- Unless it has finished, a pass goes on as soon as its provider answers, and
every continuation brings it nearer to its end. -/
theorem pass_continues (router : ProviderRouter) (now : ℚ) (pass : Pass Response Failure)
    (circuits : Circuits) :
    (∃ outcome, pass.phase = .finished outcome) ∨
      ∃ input next circuits', PassStep router now pass circuits input next circuits' ∧
        next.phase.rank < pass.phase.rank := by
  cases stopped : pass.phase with
  | finished outcome => exact .inl ⟨outcome, rfl⟩
  | operating role target generation =>
      refine .inr ⟨.answer (.error .requestAbortedError), _, _, .answer stopped, ?_⟩
      cases role <;> simp [Pass.answer, Pass.stop, PassPhase.rank]
  | executing role target generation outcome =>
      refine .inr ⟨.resume, _, _, .execute stopped, ?_⟩
      cases role <;> simp [Pass.stop, PassPhase.rank]
  | calling role target outcome =>
      refine .inr ⟨.resume, _, _, .call stopped, ?_⟩
      cases role <;> simp [Pass.leave, Pass.stop, PassPhase.rank]
  | routing outcome =>
      exact .inr ⟨.resume, _, _, .route stopped, rank_route router pass outcome circuits now⟩

/-- Every pass can be completed from every state, whatever the other passes are
doing. -/
theorem pass_completes (router : ProviderRouter) (system : RouterSystem Response Failure)
    {id : ℕ} {pass : Pass Response Failure} (present : system.passes[id]? = some pass) :
    ∃ events last done outcome, Run (RouterStep router) system events last ∧
      last.passes[id]? = some done ∧ done.phase = .finished outcome := by
  induction bound : pass.phase.rank using Nat.strong_induction_on generalizing system pass with
  | _ rank ih =>
      rcases pass_continues router system.clock pass system.circuits with
        ⟨outcome, finished⟩ | ⟨input, next, circuits, taken, lower⟩
      · exact ⟨[], system, pass, outcome, Run.refl system, present, finished⟩
      · have step := RouterStep.step le_rfl present taken
        have moved : (system.passes.set id next)[id]? = some next := by
          obtain ⟨inside, _⟩ := List.getElem?_eq_some_iff.mp present
          simp [inside]
        obtain ⟨events, last, done, outcome, run, atEnd, finished⟩ :=
          ih next.phase.rank (bound ▸ lower)
            { clock := system.clock, circuits := circuits, passes := system.passes.set id next }
            moved rfl
        exact ⟨_, last, done, outcome, (Run.single step).append run, atEnd, finished⟩

/-! ### The discipline -/

structure RoutingDiscipline (router : ProviderRouter) (pass : Pass Response Failure) : Prop where
  /-- A provider is invoked at most once, with the request its target is tried with,
  while the signal is not aborted. -/
  invocations : ∀ before role data after, pass.log = before ++ .invoked role data :: after →
    .aborted ∉ before ∧ (∀ data', .invoked role data' ∉ before) ∧ .tried role data ∈ before
  primaryRequest : ∀ data, .tried .primary data ∈ pass.log → data = pass.request
  fallback : ∀ before data after, pass.log = before ++ .tried .fallback data :: after →
    FallbackDue router pass.request before data
  /-- A target concludes with what its circuit or its provider made of the call. -/
  conclusions : ∀ before role outcome after,
    pass.log = before ++ .concluded role outcome :: after →
      TargetOutcome router pass.mode role before outcome
  /-- The pass ends as the last target tried concludes, or cancelled. -/
  outcome : ∀ outcome, pass.phase = .finished outcome →
    (outcome = .error .requestAbortedError ∧ .aborted ∈ pass.log) ∨
      ∃ role, lastTried pass.log = some role ∧ .concluded role outcome ∈ pass.log

theorem PassInvariant.discipline (invariant : PassInvariant router pass) :
    RoutingDiscipline router pass where
  invocations := by
    intro before role data after split
    exact invariant.permitted before _ after split
  primaryRequest := by
    intro data member
    obtain ⟨before, after, split⟩ := List.append_of_mem member
    exact invariant.permitted before _ after split
  fallback := by
    intro before data after split
    exact invariant.permitted before _ after split
  conclusions := by
    intro before role outcome after split
    exact invariant.permitted before _ after split
  outcome := by
    intro outcome finished
    have held := invariant.stopped
    rw [finished] at held
    exact held

/-- Every pass of every run of a router keeps the discipline, and can be completed. -/
theorem routing_discipline (router : ProviderRouter) {clock : ℚ} {circuits : Circuits}
    {system : RouterSystem Response Failure} {events : List (RouterEvent Response Failure)}
    (run : Run (RouterStep router) (.initial clock circuits) events system) {id : ℕ}
    {pass : Pass Response Failure} (present : system.passes[id]? = some pass) :
    RoutingDiscipline router pass ∧
      ∃ more last done outcome, Run (RouterStep router) system more last ∧
        last.passes[id]? = some done ∧ done.phase = .finished outcome := by
  have invariant := passInvariant_of_run run pass (List.mem_of_getElem? present)
  exact ⟨invariant.discipline, pass_completes router system present⟩

theorem sampleTimeout_pos : 0 < 1000 := by
  decide

def sampleRouter : ProviderRouter :=
  { primary := ⟨"ollama", ⟨2, 1000, Nat.two_pos, sampleTimeout_pos⟩, true⟩
    fallback := some
      { name := "openai"
        circuit := ⟨2, 1000, Nat.two_pos, sampleTimeout_pos⟩
        streams := true
        modelMap := fun model => if model = [0x61] then some [0x62] else none } }

def samplePass (phase : PassPhase Unit Unit) (log : List (PassEvent Unit Unit)) : Pass Unit Unit :=
  { mode := .chat
    request := ⟨[0x61], []⟩
    aborted := false
    emitted := false
    attempted := true
    writes := []
    phase := phase
    log := log }

def sampleUnreachable : Except (Thrown Unit) Unit := .error (.providerConnectionError "ollama")

def sampleLog : List (PassEvent Unit Unit) :=
  [.tried .primary ⟨[0x61], []⟩, .metric (.providerStart "ollama" .chat),
    .invoked .primary ⟨[0x61], []⟩, .answered .primary sampleUnreachable,
    .metric (.providerEnd "ollama" .chat .transientError), .concluded .primary sampleUnreachable]

def sampleFallback : Pass Unit Unit :=
  samplePass
    (.operating .fallback ⟨"openai", ⟨2, 1000, Nat.two_pos, sampleTimeout_pos⟩, true⟩ 0)
    (sampleLog ++ [.metric (.fallback "ollama" "openai"), .tried .fallback ⟨[0x62], []⟩,
      .metric (.providerStart "openai" .chat), .invoked .fallback ⟨[0x62], []⟩])

def sampleCircuits : Circuits := Function.update (fun _ => .initial) .primary .initial

def sampleEvents : List (RouterEvent Unit Unit) :=
  [⟨0, 0, .start .chat ⟨[0x61], []⟩ false⟩, ⟨0, 0, .answer sampleUnreachable⟩, ⟨0, 0, .resume⟩,
    ⟨0, 0, .resume⟩, ⟨0, 0, .resume⟩]

theorem sample_run_fallback :
    ∃ circuits : Circuits, Run (RouterStep sampleRouter) (.initial 0 (fun _ => .initial))
      sampleEvents ⟨0, circuits, [sampleFallback]⟩ := by
  have started : RouterStep sampleRouter (.initial 0 (fun _ => .initial))
      ⟨0, 0, .start .chat ⟨[0x61], []⟩ false⟩ ⟨0, sampleCircuits,
        [samplePass (.operating .primary sampleRouter.primary 0) (sampleLog.take 3)]⟩ :=
    .start le_rfl rfl
  have answered : RouterStep sampleRouter
      ⟨0, sampleCircuits, [samplePass (.operating .primary sampleRouter.primary 0)
        (sampleLog.take 3)]⟩
      ⟨0, 0, .answer sampleUnreachable⟩
      ⟨0, sampleCircuits, [samplePass
        (.executing .primary sampleRouter.primary 0 sampleUnreachable) (sampleLog.take 4)]⟩ :=
    .step le_rfl rfl (.answer rfl)
  have executed : RouterStep sampleRouter
      ⟨0, sampleCircuits, [samplePass
        (.executing .primary sampleRouter.primary 0 sampleUnreachable) (sampleLog.take 4)]⟩
      ⟨0, 0, .resume⟩
      ⟨0, _, [samplePass (.calling .primary sampleRouter.primary sampleUnreachable)
        (sampleLog.take 4)]⟩ :=
    .step le_rfl rfl (.execute rfl)
  have left : ∀ circuits, RouterStep sampleRouter
      ⟨0, circuits, [samplePass (.calling .primary sampleRouter.primary sampleUnreachable)
        (sampleLog.take 4)]⟩
      ⟨0, 0, .resume⟩ ⟨0, circuits, [samplePass (.routing sampleUnreachable) sampleLog]⟩ :=
    fun circuits => .step le_rfl rfl
      (@PassStep.call _ _ sampleRouter 0 _ circuits .primary sampleRouter.primary
        sampleUnreachable rfl)
  have routed : RouterStep sampleRouter
      ⟨0, _, [samplePass (.routing sampleUnreachable) sampleLog]⟩ ⟨0, 0, .resume⟩
      ⟨0, _, [sampleFallback]⟩ :=
    .step le_rfl rfl (@PassStep.route _ _ sampleRouter 0 _
      (Function.update sampleCircuits .primary ((sampleCircuits .primary).settle
        sampleRouter.primary.circuit 0 0 .transient)) sampleUnreachable rfl)
  exact ⟨_, ((((Run.single started).snoc answered).snoc executed).snoc (left _)).snoc routed⟩

theorem routing_discipline_fallback :
    RoutingDiscipline sampleRouter sampleFallback ∧
      FallbackDue sampleRouter ⟨[0x61], []⟩
        (sampleLog ++ [.metric (.fallback "ollama" "openai")]) ⟨[0x62], []⟩ := by
  obtain ⟨circuits, run⟩ := sample_run_fallback
  have disciplined := (@routing_discipline Unit Unit sampleRouter 0 _ _ _ run 0 _ rfl).1
  exact ⟨disciplined, disciplined.fallback _ _ _ rfl⟩

end ModelMux.Providers
