/-
Abandoned calls are no evidence about a provider.

A provider that settles after its pass was cancelled, or with the error that
the consumer of the pass has raised, says nothing about its own health.  The
rule is kept by three layers together: the consumer wrapper marks its errors,
the operation wrapper lets a cancellation win over every outcome, and the
circuit ignores both errors.
-/

import ModelMux.Providers.RouterCircuits

namespace ModelMux.Providers

variable {Response Failure : Type}

/-- A provider that settles now does so while the signal is aborted, or with an
error that its consumer has raised. -/
def Abandons (role : TargetRole) (before : List (PassEvent Response Failure))
    (outcome : Except (Thrown Failure) Response) : Prop :=
  .aborted ∈ before ∨ ∃ error, outcome = .error error ∧ .consumed role (.error error) ∈ before

/-- The provider of the target has settled so. -/
def Abandoned (role : TargetRole) (log : List (PassEvent Response Failure)) : Prop :=
  ∃ before outcome after, log = before ++ .answered role outcome :: after ∧
    Abandons role before outcome

theorem abandoned_snoc {role : TargetRole} {log : List (PassEvent Response Failure)}
    {event : PassEvent Response Failure} :
    Abandoned role (log ++ [event]) ↔
      Abandoned role log ∨
        ∃ outcome, event = .answered role outcome ∧ Abandons role log outcome := by
  constructor
  · rintro ⟨before, outcome, after, split, cause⟩
    rcases split_snoc split with ⟨rfl, rfl, rfl⟩ | ⟨rest, rfl, rfl⟩
    · exact .inr ⟨outcome, rfl, cause⟩
    · exact .inl ⟨before, outcome, rest, rfl, cause⟩
  · rintro (⟨before, outcome, after, rfl, cause⟩ | ⟨outcome, rfl, cause⟩)
    · exact ⟨before, outcome, after ++ [event], by simp, cause⟩
    · exact ⟨log, outcome, [], rfl, cause⟩

theorem Abandoned.answered {role : TargetRole} {log : List (PassEvent Response Failure)}
    (abandoned : Abandoned role log) : ∃ outcome, .answered role outcome ∈ log := by
  obtain ⟨before, outcome, after, rfl, _⟩ := abandoned
  exact ⟨outcome, by simp⟩

def IgnoredOutcome (outcome : Except (Thrown Failure) Response) : Prop :=
  ∃ error, outcome = .error error ∧ isIgnoredError error = true

theorem IgnoredOutcome.wrap {outcome : Except (Thrown Failure) Response} (aborted : Bool)
    (ignored : aborted = true ∨ IgnoredOutcome outcome) :
    IgnoredOutcome (Pass.wrap aborted outcome) := by
  rw [Pass.wrap_eq]
  split_ifs with found
  · exact ⟨.requestAbortedError, rfl, rfl⟩
  · exact ignored.resolve_left found

theorem IgnoredOutcome.report {outcome : Except (Thrown Failure) Response}
    (ignored : IgnoredOutcome outcome) (target : ProviderTarget) :
    IgnoredOutcome (outcome.mapError (Pass.report target)) := by
  obtain ⟨error, rfl, held⟩ := ignored
  refine ⟨error, ?_, held⟩
  cases error <;> first | rfl | cases held

theorem IgnoredOutcome.not_retryable {error : Thrown Failure}
    (ignored : IgnoredOutcome (.error error : Except (Thrown Failure) Response)) :
    isRetryableProviderError error = false := by
  obtain ⟨error', same, held⟩ := ignored
  cases same
  cases error <;> first | rfl | cases held

theorem IgnoredOutcome.settlement {outcome : Except (Thrown Failure) Response}
    (ignored : IgnoredOutcome outcome) :
    settlement isRetryableProviderError isIgnoredError outcome = .ignored := by
  obtain ⟨error, rfl, held⟩ := ignored
  simp [Providers.settlement, held]

/-! ### The invariant -/

/-- The router does not contact the provider of the target in a pass of the mode. -/
def Unsupported (mode : PassMode) (target : ProviderTarget) : Prop :=
  mode = .stream ∧ target.streams = false

/-- What the await at which a pass has stopped says about its provider. -/
def Evidence (mode : PassMode) (log : List (PassEvent Response Failure)) :
    PassPhase Response Failure → Prop
  | .operating role target _ =>
      ¬Unsupported mode target ∧ (∃ data, .invoked role data ∈ log) ∧
        ∀ outcome, .answered role outcome ∉ log
  | .executing role target _ outcome =>
      (Abandoned role log → IgnoredOutcome outcome) ∧
        (¬Unsupported mode target ∧ (∃ answer, .answered role answer ∈ log) ∨
          Unsupported mode target ∧ (∀ data, .invoked role data ∉ log) ∧
            outcome = .error .providerStreamingUnsupportedError)
  | .calling role _ outcome => Abandoned role log → IgnoredOutcome outcome
  | .routing outcome => Abandoned .primary log → IgnoredOutcome outcome
  | .finished _ => True

def NotAbandoned (before : List (PassEvent Response Failure)) :
    PassEvent Response Failure → Prop
  | .tried .fallback _ =>
      ¬Abandoned .primary before ∧ ∀ outcome, .answered .fallback outcome ∉ before
  | _ => True

structure LogEvidence (log : List (PassEvent Response Failure)) : Prop where
  consumed : ∀ role error, .consumed role (.error error) ∈ log → isIgnoredError error = true
  answered : ∀ role outcome, .answered role outcome ∈ log → ∃ data, .invoked role data ∈ log
  tried : Throughout NotAbandoned log

structure EvidenceInvariant (pass : Pass Response Failure) : Prop where
  log : LogEvidence pass.log
  stopped : Evidence pass.mode pass.log pass.phase

def PassEvent.inert : PassEvent Response Failure → Bool
  | .tried .fallback _ => false
  | .invoked _ _ => false
  | .consumed _ (.error _) => false
  | .answered _ _ => false
  | _ => true

variable {router : ProviderRouter} {pass next : Pass Response Failure} {role : TargetRole}
  {target : ProviderTarget} {log : List (PassEvent Response Failure)}
  {event : PassEvent Response Failure} {circuits circuits' : Circuits} {now : ℚ}

theorem LogEvidence.snoc (held : LogEvidence log) (event : PassEvent Response Failure)
    (consumed : ∀ role error, event = .consumed role (.error error) → isIgnoredError error = true)
    (answered : ∀ role outcome, event = .answered role outcome → ∃ data, .invoked role data ∈ log)
    (tried : NotAbandoned log event) : LogEvidence (log ++ [event]) where
  consumed := by
    intro role error member
    rcases List.mem_append.mp member with old | new
    · exact held.consumed role error old
    · exact consumed role error (List.mem_singleton.mp new).symm
  answered := by
    intro role outcome member
    rcases List.mem_append.mp member with old | new
    · obtain ⟨data, invoked⟩ := held.answered role outcome old
      exact ⟨data, List.mem_append_left _ invoked⟩
    · obtain ⟨data, invoked⟩ := answered role outcome (List.mem_singleton.mp new).symm
      exact ⟨data, List.mem_append_left _ invoked⟩
  tried := throughout_snoc.mpr ⟨held.tried, tried⟩

theorem LogEvidence.inert (held : LogEvidence log) (inert : event.inert = true) :
    LogEvidence (log ++ [event]) := by
  apply held.snoc
  · rintro role error rfl
    cases inert
  · rintro role outcome rfl
    cases inert
  · cases event with
    | tried role data =>
        cases role with
        | primary => trivial
        | fallback => cases inert
    | _ => trivial

theorem abandoned_inert (inert : event.inert = true) :
    Abandoned role (log ++ [event]) ↔ Abandoned role log := by
  rw [abandoned_snoc]
  constructor
  · rintro (old | ⟨outcome, rfl, _⟩)
    · exact old
    · cases inert
  · exact .inl

theorem Evidence.inert {mode : PassMode} {phase : PassPhase Response Failure}
    (held : Evidence mode log phase) (inert : event.inert = true) :
    Evidence mode (log ++ [event]) phase := by
  have notAnswer : ∀ role outcome, event ≠ .answered role outcome := by
    rintro role outcome rfl
    cases inert
  have notInvoked : ∀ role data, event ≠ .invoked role data := by
    rintro role data rfl
    cases inert
  cases phase with
  | operating role target generation =>
      obtain ⟨supported, ⟨data, invoked⟩, pending⟩ := held
      refine ⟨supported, ⟨data, List.mem_append_left _ invoked⟩, fun outcome => ?_⟩
      simpa [(notAnswer role outcome).symm] using pending outcome
  | executing role target generation outcome =>
      obtain ⟨ignored, contact⟩ := held
      refine ⟨fun abandoned => ignored ((abandoned_inert inert).mp abandoned), ?_⟩
      rcases contact with ⟨supported, answer, answered⟩ | ⟨unsupported, uninvoked, same⟩
      · exact .inl ⟨supported, answer, List.mem_append_left _ answered⟩
      · refine .inr ⟨unsupported, fun data => ?_, same⟩
        simpa [(notInvoked role data).symm] using uninvoked data
  | calling role target outcome => exact fun found => held ((abandoned_inert inert).mp found)
  | routing outcome => exact fun found => held ((abandoned_inert inert).mp found)
  | finished outcome => trivial

/-! ### The steps of a pass -/

theorem EvidenceInvariant.record (held : EvidenceInvariant pass)
    (event : PassEvent Response Failure) (inert : event.inert = true) :
    EvidenceInvariant (pass.record event) :=
  ⟨held.log.inert inert, held.stopped.inert inert⟩

theorem EvidenceInvariant.consumed (held : EvidenceInvariant pass) (role : TargetRole)
    (answer : Except (Thrown Failure) Unit)
    (ignored : ∀ error, answer = .error error → isIgnoredError error = true) :
    EvidenceInvariant (pass.record (.consumed role answer)) where
  log := by
    apply held.log.snoc
    · rintro role' error same
      cases same
      exact ignored error rfl
    · rintro role' outcome impossible
      cases impossible
    · trivial
  stopped := by
    have same : ∀ role', Abandoned role' (pass.log ++ [.consumed role answer]) →
        Abandoned role' pass.log := by
      intro role' found
      rcases abandoned_snoc.mp found with old | ⟨outcome, impossible, _⟩
      · exact old
      · cases impossible
    have stopped := held.stopped
    change Evidence pass.mode (pass.log ++ [.consumed role answer]) pass.phase
    cases phase : pass.phase with
    | operating role' target generation =>
        rw [phase] at stopped
        simpa [Evidence] using stopped
    | executing role' target generation outcome =>
        rw [phase] at stopped
        refine ⟨fun found => stopped.1 (same role' found), ?_⟩
        simpa using stopped.2
    | calling role' target outcome =>
        rw [phase] at stopped
        exact fun found => stopped (same role' found)
    | routing outcome =>
        rw [phase] at stopped
        exact fun found => stopped (same .primary found)
    | finished outcome => trivial

theorem EvidenceInvariant.consume (held : EvidenceInvariant pass) (role : TargetRole)
    (content : JsString) : EvidenceInvariant (pass.consume role content) := by
  cases found : pass.aborted with
  | true =>
      have raised : pass.consume role content =
          pass.record (.consumed role (.error .requestAbortedError)) := by
        simp [Pass.consume, throwIfCancelled, found]
      rw [raised]
      apply held.consumed
      rintro error same
      cases same
      rfl
  | false =>
      by_cases empty : content = []
      · have returned : pass.consume role content = pass.record (.consumed role (.ok ())) := by
          simp [Pass.consume, throwIfCancelled, found, empty]
        rw [returned]
        apply held.consumed
        rintro error impossible
        cases impossible
      · have written : pass.consume role content =
            { pass with emitted := true, writes := role :: pass.writes }.record
              (.handed role content) := by
          simp [Pass.consume, throwIfCancelled, found, empty]
        have writing : EvidenceInvariant
            { pass with emitted := true, writes := role :: pass.writes } :=
          ⟨held.log, held.stopped⟩
        rw [written]
        exact writing.record _ rfl

theorem EvidenceInvariant.deliver (held : EvidenceInvariant pass) (role : TargetRole)
    (accepted : Bool) : EvidenceInvariant (pass.deliver role accepted) := by
  have idle : EvidenceInvariant { pass with writes := pass.writes.erase role } :=
    ⟨held.log, held.stopped⟩
  apply idle.consumed
  intro error same
  cases accepted with
  | true => cases same
  | false =>
      cases found : pass.aborted with
      | true =>
          rw [found] at same
          cases same
          rfl
      | false =>
          rw [found] at same
          cases same
          rfl

theorem EvidenceInvariant.answer (held : EvidenceInvariant pass)
    (invariant : PassInvariant router pass) {generation : ℕ}
    (stopped : pass.phase = .operating role target generation)
    (outcome : Except (Thrown Failure) Response) :
    EvidenceInvariant (pass.answer role target generation outcome) := by
  have waiting := held.stopped
  rw [stopped] at waiting
  obtain ⟨supported, ⟨data, invoked⟩, pending⟩ := waiting
  constructor
  · apply held.log.snoc
    · rintro role' error impossible
      cases impossible
    · rintro role' outcome' same
      cases same
      exact ⟨data, invoked⟩
    · trivial
  · refine ⟨?_, .inl ⟨supported, outcome, List.mem_append_right _ (List.mem_singleton_self _)⟩⟩
    intro abandoned
    apply IgnoredOutcome.wrap
    rcases abandoned_snoc.mp abandoned with old | ⟨outcome', same, cause⟩
    · obtain ⟨outcome', answered⟩ := old.answered
      exact absurd answered (pending outcome')
    · cases same
      rcases cause with aborted | ⟨error, rfl, raised⟩
      · exact .inl (invariant.flagged.mpr aborted)
      · exact .inr ⟨error, rfl, held.log.consumed role error raised⟩

theorem EvidenceInvariant.leave (held : EvidenceInvariant pass)
    {outcome : Except (Thrown Failure) Response}
    (stopped : pass.phase = .calling role target outcome) :
    EvidenceInvariant (pass.leave role target outcome) := by
  have measured : EvidenceInvariant (pass.recordMetrics target outcome) := by
    simp only [Pass.recordMetrics]
    split_ifs
    · exact (held.record _ rfl).record _ rfl
    · exact held.record _ rfl
    · exact held.record _ rfl
    · exact held
  have concluded := measured.record (.concluded role (outcome.mapError (Pass.report target))) rfl
  refine ⟨concluded.log, ?_⟩
  have waiting := concluded.stopped
  simp only [Pass.record, phase_recordMetrics, stopped] at waiting
  cases role with
  | primary => exact fun abandoned => (waiting abandoned).report target
  | fallback => trivial

theorem LogEvidence.operate (held : LogEvidence pass.log)
    (uninvoked : ∀ data, .invoked role data ∉ pass.log) (notAborted : pass.aborted = false)
    (data : ChatRequest) (generation : ℕ) :
    EvidenceInvariant (pass.operate role target data generation) := by
  have unanswered : ∀ outcome, .answered role outcome ∉ pass.log := by
    intro outcome answered
    obtain ⟨data', invoked⟩ := held.answered role outcome answered
    exact uninvoked data' invoked
  have started : LogEvidence (pass.log ++ [.metric (.providerStart target.name pass.mode)]) :=
    held.inert rfl
  rw [Pass.operate, if_neg (by simp [notAborted])]
  dsimp only
  split_ifs with unsupported
  · refine ⟨started, ?_, .inr ⟨unsupported, ?_, rfl⟩⟩
    · intro abandoned
      obtain ⟨outcome, answered⟩ := abandoned.answered
      simp [Pass.record, Pass.stop, unanswered] at answered
    · intro data'
      simpa [Pass.record, Pass.stop] using uninvoked data'
  · constructor
    · apply started.snoc
      · rintro role' error impossible
        cases impossible
      · rintro role' outcome impossible
        cases impossible
      · trivial
    · refine ⟨unsupported, ⟨data, List.mem_append_right _ (List.mem_singleton_self _)⟩, ?_⟩
      intro outcome
      simpa [Pass.record, Pass.stop] using unanswered outcome

theorem LogEvidence.call (held : LogEvidence pass.log) (untouched : Untouched role pass.log)
    (notAborted : pass.aborted = false) (data : ChatRequest)
    (allowed : NotAbandoned pass.log (.tried role data)) (circuits : Circuits) (now : ℚ) :
    EvidenceInvariant (pass.call role target data circuits now).1 := by
  have tried : LogEvidence (pass.log ++ [.tried role data]) := by
    apply held.snoc
    · rintro role' error impossible
      cases impossible
    · rintro role' outcome impossible
      cases impossible
    · exact allowed
  unfold Pass.call
  cases (circuits role).enter target.circuit now with
  | error error =>
      refine ⟨tried.inert rfl, ?_⟩
      intro abandoned
      obtain ⟨outcome, answered⟩ := abandoned.answered
      obtain ⟨data', invoked⟩ := held.answered role outcome
        (by simpa [Pass.record, Pass.stop] using answered)
      exact absurd invoked (untouched.not_invoked data')
  | ok breaker =>
      apply LogEvidence.operate tried
      · intro data'
        simpa [Pass.record] using untouched.not_invoked data'
      · exact notAborted

theorem EvidenceInvariant.route (held : EvidenceInvariant pass)
    (invariant : PassInvariant router pass) {outcome : Except (Thrown Failure) Response}
    (stopped : pass.phase = .routing outcome) (circuits : Circuits) (now : ℚ) :
    EvidenceInvariant (pass.route router outcome circuits now).1 := by
  have waiting := held.stopped
  have place := invariant.stopped
  rw [stopped] at waiting place
  obtain ⟨_, untouched, _⟩ := place
  cases outcome with
  | ok response => exact ⟨held.log, trivial⟩
  | error error =>
      simp only [Pass.route]
      cases found : pass.aborted with
      | true => exact ⟨held.log, trivial⟩
      | false =>
          cases chosen : pass.fallbackFor router error with
          | none => exact ⟨held.log, trivial⟩
          | some choice =>
              obtain ⟨_, retryable, _⟩ := fallbackFor_eq_some chosen
              apply LogEvidence.call (held.log.inert rfl)
              · exact untouched_snoc.mpr ⟨untouched, rfl⟩
              · exact found
              · constructor
                · intro abandoned
                  have ignored := waiting ((abandoned_inert rfl).mp abandoned)
                  rw [ignored.not_retryable] at retryable
                  cases retryable
                · intro outcome answered
                  obtain ⟨data, invoked⟩ := held.log.answered .fallback outcome
                    (by simpa [Pass.record] using answered)
                  exact untouched.not_invoked data invoked

theorem evidenceInvariant_start (router : ProviderRouter) (mode : PassMode) (request : ChatRequest)
    (aborted : Bool) (circuits : Circuits) (now : ℚ) :
    EvidenceInvariant (Pass.start router mode request aborted circuits now :
      Pass Response Failure × Circuits).1 := by
  have empty : LogEvidence ([] : List (PassEvent Response Failure)) :=
    ⟨by simp, by simp, throughout_nil _⟩
  cases aborted with
  | true => exact ⟨empty.inert rfl, trivial⟩
  | false =>
      apply LogEvidence.call empty
      · simp [Untouched, Pass.initial]
      · rfl
      · trivial

theorem EvidenceInvariant.step {input : PassInput Response Failure}
    (held : EvidenceInvariant pass) (invariant : PassInvariant router pass)
    (taken : PassStep router now pass circuits input next circuits') : EvidenceInvariant next := by
  cases taken with
  | abort =>
      have flagged : EvidenceInvariant { pass with aborted := true } := ⟨held.log, held.stopped⟩
      exact flagged.record .aborted rfl
  | consume allowed => exact held.consume _ _
  | deliver writing => exact held.deliver _ _
  | answer stopped => exact held.answer invariant stopped _
  | execute stopped =>
      have waiting := held.stopped
      rw [stopped] at waiting
      exact ⟨held.log, waiting.1⟩
  | call stopped => exact held.leave stopped
  | route stopped => exact held.route invariant stopped circuits now

structure PassesHeld (router : ProviderRouter) (system : RouterSystem Response Failure) : Prop where
  passes : ∀ pass ∈ system.passes, PassInvariant router pass
  evidence : ∀ pass ∈ system.passes, EvidenceInvariant pass

theorem PassesHeld.step {system next : RouterSystem Response Failure}
    {event : RouterEvent Response Failure} (held : PassesHeld router system)
    (taken : RouterStep router system event next) : PassesHeld router next where
  passes := routerStep_passInvariant held.passes taken
  evidence := by
    intro pass member
    cases taken with
    | @start now mode request aborted _ _ later started =>
        rcases List.mem_append.mp member with old | new
        · exact held.evidence pass old
        · have begun : EvidenceInvariant (Pass.start router mode request aborted
              system.circuits now : Pass Response Failure × Circuits).1 :=
            evidenceInvariant_start router mode request aborted system.circuits now
          rw [started] at begun
          rw [List.mem_singleton.mp new]
          exact begun
    | step later present taken =>
        rcases List.mem_or_eq_of_mem_set member with old | rfl
        · exact held.evidence pass old
        · have old := List.mem_of_getElem? present
          exact (held.evidence _ old).step (held.passes _ old) taken

theorem passesHeld_of_run {clock : ℚ} {system : RouterSystem Response Failure}
    {events : List (RouterEvent Response Failure)} {circuits : Circuits}
    (run : Run (RouterStep router) (.initial clock circuits) events system) :
    PassesHeld router system :=
  run.invariant (PassesHeld router)
    ⟨by simp [RouterSystem.initial], by simp [RouterSystem.initial]⟩
    (fun _ _ _ held taken => held.step taken)

/-! ### Abandoned calls -/

/-- All that an abandoned call may do to the circuit of its target: it gives the
slot of a probe back, and the next request may take it at once. -/
structure OnlyReleases (options : CircuitBreakerOptions) (now : ℚ)
    (before after : CircuitBreaker) : Prop where
  failures : after.consecutiveFailures = before.consecutiveFailures
  notOpened : before.state = .closed → after.state ≠ .opened
  notClosed : before.state = .halfOpen → after.state ≠ .closed
  effect : after = before ∨
    (before.state = .halfOpen ∧ after.state = .opened ∧ ∀ later, now ≤ later →
      after.retryAfterMs options later = 0 ∧
        after.enter options later = .ok { after with state := .halfOpen })

theorem onlyReleases_refl (options : CircuitBreakerOptions) (now : ℚ) (breaker : CircuitBreaker) :
    OnlyReleases options now breaker breaker where
  failures := rfl
  notOpened := by
    intro closed opened
    rw [closed] at opened
    cases opened
  notClosed := by
    intro half closed
    rw [half] at closed
    cases closed
  effect := .inl rfl

theorem onlyReleases_ignored (options : CircuitBreakerOptions) (now : ℚ)
    (breaker : CircuitBreaker) (generation : ℕ) :
    OnlyReleases options now breaker (breaker.settle options generation now .ignored) := by
  by_cases probe : generation = breaker.generation ∧ breaker.state = .halfOpen
  · obtain ⟨rfl, half⟩ := probe
    rw [CircuitBreaker.settle_halfOpen half]
    refine ⟨rfl, by simp [half], by simp, .inr ⟨half, rfl, fun later reached => ⟨?_, ?_⟩⟩⟩
    · simp only [CircuitBreaker.retryAfterMs]
      apply max_eq_left
      linarith
    · apply CircuitBreaker.enter_ok_iff.mpr
      refine .inr ⟨rfl, ?_, rfl⟩
      simp only
      linarith
  · have unchanged : breaker.settle options generation now .ignored = breaker := by
      by_cases current : generation = breaker.generation
      · have notHalf : breaker.state ≠ .halfOpen := fun half => probe ⟨current, half⟩
        simp [CircuitBreaker.settle, CircuitBreaker.releaseProbe, notHalf]
      · exact CircuitBreaker.settle_stale current _
    rw [unchanged]
    exact onlyReleases_refl options now breaker

variable {system last : RouterSystem Response Failure} {id : ℕ}

theorem EvidenceInvariant.abandoned_step {input : PassInput Response Failure}
    (held : EvidenceInvariant pass) (invariant : PassInvariant router pass)
    (serves : Serves router target role) (abandoned : Abandoned role pass.log)
    (taken : PassStep router now pass circuits input next circuits') :
    OnlyReleases target.circuit now (circuits role) (circuits' role) := by
  have place := invariant.stopped
  have waiting := held.stopped
  have idle : OnlyReleases target.circuit now (circuits role) (circuits role) :=
    onlyReleases_refl _ _ _
  cases taken with
  | abort => exact idle
  | consume allowed => exact idle
  | deliver writing => exact idle
  | answer stopped => exact idle
  | call stopped => exact idle
  | @execute executing target' generation outcome stopped =>
      rw [stopped] at place waiting
      by_cases same : executing = role
      · subst same
        obtain rfl := place.1.serves.unique serves
        rw [Function.update_self, (waiting.1 abandoned).settlement]
        exact onlyReleases_ignored _ _ _ _
      · rw [Function.update_of_ne (Ne.symm same)]
        exact idle
  | @route outcome stopped =>
      rw [stopped] at place waiting
      obtain ⟨_, untouched, _⟩ := place
      cases role with
      | fallback =>
          obtain ⟨outcome', answered⟩ := abandoned.answered
          obtain ⟨data, invoked⟩ := held.log.answered _ _ answered
          exact absurd invoked (untouched.not_invoked data)
      | primary =>
          obtain ⟨error, rfl, _⟩ := waiting abandoned
          have permanent := (waiting abandoned).not_retryable
          have none : pass.fallbackFor router error = none := by
            simp [Pass.fallbackFor, permanent]
          simp only [Pass.route, none]
          split_ifs <;> exact idle

/-! ### Until the next request -/

/-- The passes that have begun to call the target are those that had begun before. -/
def NoneEntered (role : TargetRole) (earlier later : RouterSystem Response Failure) : Prop :=
  ∀ (id : ℕ) pass, later.passes[id]? = some pass → ¬Untouched role pass.log →
    ∃ old, earlier.passes[id]? = some old ∧ ¬Untouched role old.log

def Grown (earlier later : RouterSystem Response Failure) : Prop :=
  ∀ (id : ℕ) pass, earlier.passes[id]? = some pass →
    ∃ next, later.passes[id]? = some next ∧ pass.log <+: next.log

theorem grown_step {event : RouterEvent Response Failure}
    (taken : RouterStep router system event last) : Grown system last := by
  intro index old found
  cases taken with
  | start later started =>
      obtain ⟨inside, _⟩ := List.getElem?_eq_some_iff.mp found
      exact ⟨old, by rw [List.getElem?_append_left inside, found], List.prefix_rfl⟩
  | @step now id pass next input circuits later present taken =>
      simp only [getElem?_set_present present]
      split_ifs with here
      · subst here
        rw [present] at found
        cases found
        exact ⟨next, rfl, log_step taken⟩
      · exact ⟨old, found, List.prefix_rfl⟩

theorem Grown.trans {first middle last : RouterSystem Response Failure}
    (before : Grown first middle) (after : Grown middle last) : Grown first last := by
  intro id pass present
  obtain ⟨next, found, grows⟩ := before id pass present
  obtain ⟨final, reached, grows'⟩ := after id next found
  exact ⟨final, reached, grows.trans grows'⟩

theorem Untouched.of_prefix {log log' : List (PassEvent Response Failure)} (grows : log <+: log')
    (untouched : Untouched role log') : Untouched role log :=
  fun event member => untouched event (grows.subset member)

/-- Until another pass calls its target, an open circuit stays as it is: every
call that is still in flight is of an earlier generation. -/
theorem opened_step {first : RouterSystem Response Failure} {clock : ℚ}
    {events : List (RouterEvent Response Failure)} {event : RouterEvent Response Failure}
    (run : Run (RouterStep router) (.initial clock (fun _ => .initial)) events system)
    (serves : Serves router target role) (isOpen : (system.circuits role).state = .opened)
    (grown : Grown first system) (taken : RouterStep router system event last)
    (none : NoneEntered role first last) :
    last.circuits role = system.circuits role := by
  have vacant := (router_single_probe run serves).2.1 isOpen
  have invariants := passInvariant_of_run run
  -- Whoever has called the target by now had called it before this step.
  have before : ∀ (id : ℕ) pass pass', last.passes[id]? = some pass → ¬Untouched role pass.log →
      system.passes[id]? = some pass' → ¬Untouched role pass'.log := by
    intro id pass pass' found touched present untouched
    obtain ⟨old, existed, called⟩ := none id pass found touched
    obtain ⟨middle, kept, grows⟩ := grown id old existed
    rw [present] at kept
    cases kept
    exact called (untouched.of_prefix grows)
  cases taken with
  | @start now mode request aborted pass circuits later started =>
      have effect : RoleEffect target.circuit role now
          (.initial mode request aborted : Pass Response Failure) _ _ _ :=
        roleEffect_start router mode request aborted system.circuits now serves
      rw [started] at effect
      have entered : ¬¬Untouched role pass.log := by
        intro touched
        obtain ⟨old, existed, _⟩ := none system.passes.length pass (by simp) touched
        obtain ⟨middle, kept, _⟩ := grown _ old existed
        simp at kept
      cases effect with
      | idle same held => exact same
      | refused fresh touched free refusal same held => exact same
      | admitted fresh touched free acceptance held => exact absurd touched entered
      | settled holding same held => cases holding
  | @step now id pass next input circuits later present taken =>
      have member := List.mem_of_getElem? present
      have here : (system.passes.set id next)[id]? = some next := by
        simp [getElem?_set_present present]
      cases roleEffect_step (invariants pass member) serves taken with
      | idle same held => exact same
      | refused fresh touched free refusal same held => exact same
      | admitted fresh touched free acceptance held =>
          exact absurd fresh (before id next pass here touched present)
      | @settled generation outcome holding same held =>
          refine Eq.trans same (CircuitBreaker.settle_stale ?_ _)
          rintro rfl
          exact vacant pass member holding

theorem opened_until_entered {clock : ℚ} {events more : List (RouterEvent Response Failure)}
    (run : Run (RouterStep router) (.initial clock (fun _ => .initial)) events system)
    (serves : Serves router target role) (isOpen : (system.circuits role).state = .opened)
    (continued : Run (RouterStep router) system more last) (none : NoneEntered role system last) :
    last.circuits role = system.circuits role := by
  have kept := continued.historyInvariant
    (fun taken state => Run (RouterStep router) system taken state ∧ Grown system state ∧
      (NoneEntered role system state → state.circuits role = system.circuits role))
    ⟨Run.refl _, fun id pass present => ⟨pass, present, List.prefix_rfl⟩, fun _ => rfl⟩
    (by
      rintro taken state event next ⟨reached, grown, same⟩ moved
      have grownNext := grown_step moved
      refine ⟨reached.snoc moved, grown.trans grownNext, fun none => ?_⟩
      have earlier : NoneEntered role system state := by
        intro id pass present touched
        obtain ⟨pass', found, grows⟩ := grownNext id pass present
        exact none id pass' found (fun untouched => touched (untouched.of_prefix grows))
      have unchanged := same earlier
      rw [← unchanged] at isOpen ⊢
      exact opened_step (run.append reached) serves isOpen grown moved none)
  exact kept.2.2 none

theorem LogEvidence.not_tried (held : LogEvidence log) {before after : List (PassEvent _ _)}
    {outcome : Except (Thrown Failure) Response}
    (split : log = before ++ .answered role outcome :: after)
    (abandons : Abandons role before outcome) (data : ChatRequest) :
    .tried .fallback data ∉ after := by
  intro member
  obtain ⟨middle, rest, rfl⟩ := List.append_of_mem member
  have due := held.tried (before ++ .answered role outcome :: middle) (.tried .fallback data) rest
    (by simp [split])
  cases role with
  | primary => exact due.1 ⟨before, outcome, middle, rfl, abandons⟩
  | fallback => exact due.2 outcome (by simp)

theorem clock_of_step {event : RouterEvent Response Failure}
    (taken : RouterStep router system event last) : last.clock = event.now := by
  cases taken <;> rfl

theorem clock_le_of_run {more : List (RouterEvent Response Failure)}
    (run : Run (RouterStep router) system more last) : system.clock ≤ last.clock := by
  apply run.invariant (fun state => system.clock ≤ state.clock) le_rfl
  intro state event next reached taken
  cases taken with
  | start later started => exact reached.trans later
  | step later present taken => exact reached.trans later

/-- A call that settles while its signal is aborted, or with the error its consumer
has raised, never counts for or against its provider in any run: no later step
of its pass tries a fallback or does anything to the circuit but give back the
slot of a probe, which then goes to the next pass, however late it comes. -/
theorem abandoned_call_not_evidence (router : ProviderRouter) {clock : ℚ}
    {events : List (RouterEvent Response Failure)}
    (run : Run (RouterStep router) (.initial clock (fun _ => .initial)) events system)
    (present : system.passes[id]? = some pass) (serves : Serves router target role) :
    (∀ before outcome after, pass.log = before ++ .answered role outcome :: after →
      Abandons role before outcome → ∀ data, .tried .fallback data ∉ after) ∧
    (Abandoned role pass.log → ∀ event next, event.pass = id →
      RouterStep router system event next →
        OnlyReleases target.circuit event.now (system.circuits role) (next.circuits role) ∧
        (next.circuits role ≠ system.circuits role →
          ∀ more last, Run (RouterStep router) next more last → NoneEntered role next last →
            ∀ later, last.clock ≤ later →
              (last.circuits role).retryAfterMs target.circuit later = 0 ∧
              (last.circuits role).enter target.circuit later =
                .ok { last.circuits role with state := .halfOpen })) := by
  have held := passesHeld_of_run run
  have member := List.mem_of_getElem? present
  have evidence := held.evidence pass member
  refine ⟨fun before outcome after split abandons => evidence.log.not_tried split abandons, ?_⟩
  intro abandoned event next own taken
  have releases : OnlyReleases target.circuit event.now (system.circuits role)
      (next.circuits role) := by
    cases taken with
    | start later started =>
        have inside := (List.getElem?_eq_some_iff.mp present).1
        exact absurd own (Nat.ne_of_gt inside)
    | step later found taken =>
        obtain rfl : _ = id := own
        rw [present] at found
        cases found
        exact evidence.abandoned_step (held.passes pass member) serves abandoned taken
  refine ⟨releases, ?_⟩
  intro changed more last continued none later reached
  obtain ⟨_, isOpen, ready⟩ := releases.effect.resolve_left changed
  rw [opened_until_entered (run.snoc taken) serves isOpen continued none]
  apply ready
  rw [← clock_of_step taken]
  exact (clock_le_of_run continued).trans reached

/-- A call of the primary has been cancelled, and its provider has then failed. -/
def sampleCancelled : Pass Unit Unit :=
  { samplePass (.executing .primary sampleRouter.primary 0 (.error .requestAbortedError))
      (sampleLog.take 3 ++ [.aborted, .answered .primary sampleUnreachable]) with
    aborted := true }

theorem sample_run_cancelled :
    Run (RouterStep sampleRouter) (.initial 0 (fun _ => .initial))
      [⟨0, 0, .start .chat ⟨[0x61], []⟩ false⟩, ⟨0, 0, .abort⟩, ⟨0, 0, .answer sampleUnreachable⟩]
      ⟨0, sampleCircuits, [sampleCancelled]⟩ := by
  have started : RouterStep sampleRouter (.initial 0 (fun _ => .initial))
      ⟨0, 0, .start .chat ⟨[0x61], []⟩ false⟩ ⟨0, sampleCircuits,
        [samplePass (.operating .primary sampleRouter.primary 0) (sampleLog.take 3)]⟩ :=
    .start le_rfl rfl
  have aborted : RouterStep sampleRouter
      ⟨0, sampleCircuits, [samplePass (.operating .primary sampleRouter.primary 0)
        (sampleLog.take 3)]⟩
      ⟨0, 0, .abort⟩ ⟨0, sampleCircuits, [{ samplePass (.operating .primary sampleRouter.primary 0)
        (sampleLog.take 3 ++ [.aborted]) with aborted := true }]⟩ :=
    .step le_rfl rfl .abort
  have answered : RouterStep sampleRouter
      ⟨0, sampleCircuits, [{ samplePass (.operating .primary sampleRouter.primary 0)
        (sampleLog.take 3 ++ [.aborted]) with aborted := true }]⟩
      ⟨0, 0, .answer sampleUnreachable⟩ ⟨0, sampleCircuits, [sampleCancelled]⟩ :=
    .step le_rfl rfl (.answer rfl)
  exact ((Run.single started).snoc aborted).snoc answered

theorem abandoned_call_not_evidence_cancelled :
    OnlyReleases sampleRouter.primary.circuit 1 (sampleCircuits .primary)
      ((sampleCircuits .primary).settle sampleRouter.primary.circuit 0 1 .ignored) := by
  have settled : RouterStep sampleRouter ⟨0, sampleCircuits, [sampleCancelled]⟩ ⟨1, 0, .resume⟩
      ⟨1, Function.update sampleCircuits .primary ((sampleCircuits .primary).settle
        sampleRouter.primary.circuit 0 1 .ignored),
        [sampleCancelled.stop (.calling .primary sampleRouter.primary
          (.error .requestAbortedError))]⟩ :=
    .step (by norm_num) rfl (.execute rfl)
  have found : Abandoned .primary sampleCancelled.log :=
    ⟨sampleLog.take 3 ++ [.aborted], sampleUnreachable, [], rfl, .inl (by simp)⟩
  have releases := ((@abandoned_call_not_evidence Unit Unit sampleCancelled .primary
    sampleRouter.primary _ 0 sampleRouter 0 _ sample_run_cancelled rfl rfl).2 found _ _ rfl
      settled).1
  simpa using releases

end ModelMux.Providers
