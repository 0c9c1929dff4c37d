/-
Provider metrics agree with the circuits.

The outcome of a provider is classified twice: by `execute`, for the circuit,
and by `call` again, for the metrics.  A ledger attributes every metric of a
pass to the call that has recorded it.  In every interleaving of passes the
entries of a call are those that the decision of its circuit asks for, and the
recorded outcome names the branch that the circuit has taken, as long as no
provider rejects with the error of a circuit of its own.
-/

import ModelMux.Providers.ProviderMetrics

namespace ModelMux.Providers

variable {Response Failure : Type}

/-! ### Branches -/

inductive CircuitBranch where
  | healthy
  | failure
  | ignored
deriving DecidableEq

def CircuitBreaker.settleBy (options : CircuitBreakerOptions) (breaker : CircuitBreaker)
    (generation : ℕ) (now : ℚ) (branch : CircuitBranch) : CircuitBreaker :=
  if generation = breaker.generation then
    match branch with
    | .healthy => breaker.recordHealthy
    | .failure => breaker.recordFailure options now
    | .ignored => breaker.releaseProbe options now
  else breaker

def Settlement.branch : Settlement → CircuitBranch
  | .success => .healthy
  | .permanent => .healthy
  | .transient => .failure
  | .ignored => .ignored

def ProviderOutcome.branch : ProviderOutcome → CircuitBranch
  | .success => .healthy
  | .permanentError => .healthy
  | .transientError => .failure
  | .cancelled => .ignored
  | .consumerError => .ignored

theorem settle_eq_settleBy (options : CircuitBreakerOptions) (breaker : CircuitBreaker)
    (generation : ℕ) (now : ℚ) (settlement : Settlement) :
    breaker.settle options generation now settlement =
      breaker.settleBy options generation now settlement.branch := by
  cases settlement <;> rfl

theorem branch_providerOutcome (outcome : Except (Thrown Failure) Response) :
    (Pass.providerOutcome outcome).branch =
      (settlement isRetryableProviderError isIgnoredError outcome).branch := by
  cases outcome with
  | ok response => rfl
  | error error =>
      cases error with
      | providerHttpError provider upstreamStatus upstreamDetail =>
          cases transient : isTransientStatus upstreamStatus <;>
            simp [Pass.providerOutcome, settlement, isRetryableProviderError, isIgnoredError,
              transient, ProviderOutcome.branch, Settlement.branch]
      | _ => rfl

/-! ### The ledger of a pass -/

/-- The metrics of a pass: those that the call of each target has recorded, and
those that `route` has recorded outside of them. -/
structure Ledger where
  running : Option TargetRole
  calls : TargetRole → List MetricEvent
  route : List MetricEvent

namespace Ledger

def empty : Ledger :=
  { running := none, calls := fun _ => [], route := [] }

def enter (ledger : Ledger) : PassEvent Response Failure → Ledger
  | .tried role _ => { ledger with running := some role }
  | .concluded _ _ => { ledger with running := none }
  | .metric event =>
      match ledger.running with
      | some role =>
          { ledger with
            calls := Function.update ledger.calls role (ledger.calls role ++ [event]) }
      | none => { ledger with route := ledger.route ++ [event] }
  | _ => ledger

end Ledger

def ledgerOf (log : List (PassEvent Response Failure)) : Ledger :=
  log.foldl Ledger.enter .empty

def Tried (role : TargetRole) (log : List (PassEvent Response Failure)) : Prop :=
  ∃ data, .tried role data ∈ log

def Concluded (role : TargetRole) (log : List (PassEvent Response Failure)) : Prop :=
  ∃ outcome, .concluded role outcome ∈ log

def AbortedBefore (role : TargetRole) (log : List (PassEvent Response Failure)) : Prop :=
  ∃ (before : List (PassEvent Response Failure)) (data : ChatRequest)
    (after : List (PassEvent Response Failure)),
    log = before ++ PassEvent.tried role data :: after ∧ .aborted ∈ before

/-- What the circuits of a router have done with the calls of a pass. -/
structure CircuitFacts where
  decided : TargetRole → ProviderTarget → Except CircuitOpenError CircuitBreaker → Prop
  settled : TargetRole → ProviderTarget → CircuitBranch → Prop

inductive CallAccount (facts : CircuitFacts) (mode : PassMode) (target : ProviderTarget)
    (role : TargetRole) (log : List (PassEvent Response Failure)) : List MetricEvent → Prop
  | refusing {error : CircuitOpenError} (refused : facts.decided role target (.error error))
      (pending : ¬Concluded role log) : CallAccount facts mode target role log []
  | refused {error : CircuitOpenError} (refused : facts.decided role target (.error error))
      (concluded : Concluded role log) :
      CallAccount facts mode target role log [.circuitRejection target.name mode]
  | cancelled {breaker : CircuitBreaker} (admitted : facts.decided role target (.ok breaker))
      (aborted : AbortedBefore role log) : CallAccount facts mode target role log []
  | running {breaker : CircuitBreaker} (admitted : facts.decided role target (.ok breaker))
      (notAborted : ¬AbortedBefore role log) (pending : ¬Concluded role log) :
      CallAccount facts mode target role log [.providerStart target.name mode]
  | ended {breaker : CircuitBreaker} {outcome : ProviderOutcome}
      (admitted : facts.decided role target (.ok breaker))
      (notAborted : ¬AbortedBefore role log) (concluded : Concluded role log)
      (settled : facts.settled role target outcome.branch) :
      CallAccount facts mode target role log
        [.providerStart target.name mode, .providerEnd target.name mode outcome]

theorem CallAccount.length_le {facts : CircuitFacts} {mode : PassMode} {target : ProviderTarget}
    {role : TargetRole} {log : List (PassEvent Response Failure)} {recorded : List MetricEvent}
    (account : CallAccount facts mode target role log recorded) : recorded.length ≤ 2 := by
  cases account <;> simp

/-! ### Growing logs -/

section Snoc

variable {role : TargetRole} {log : List (PassEvent Response Failure)}
  {event : PassEvent Response Failure}

@[simp]
theorem ledgerOf_append (log more : List (PassEvent Response Failure)) :
    ledgerOf (log ++ more) = more.foldl Ledger.enter (ledgerOf log) :=
  List.foldl_append

/-- Only the running call records metrics of its own. -/
theorem calls_enter (ledger : Ledger) (event : PassEvent Response Failure)
    (resting : ledger.running ≠ some role) :
    (ledger.enter event).calls role = ledger.calls role := by
  cases event with
  | metric event =>
      cases running : ledger.running with
      | none => simp [Ledger.enter, running]
      | some other =>
          rw [running] at resting
          have different : role ≠ other := fun same => resting (congrArg some same.symm)
          simp [Ledger.enter, running, different]
  | _ => rfl

theorem tried_snoc : Tried role (log ++ [event]) ↔
    Tried role log ∨ ∃ data, event = .tried role data := by
  simp [Tried, exists_or, eq_comm]

theorem concluded_snoc : Concluded role (log ++ [event]) ↔
    Concluded role log ∨ ∃ outcome, event = .concluded role outcome := by
  simp [Concluded, exists_or, eq_comm]

theorem abortedBefore_snoc (early : AbortedBefore role (log ++ [event])) :
    AbortedBefore role log ∨ ((∃ data, event = .tried role data) ∧ .aborted ∈ log) := by
  obtain ⟨before, data, after, split, aborted⟩ := early
  rcases split_snoc split with ⟨rfl, rfl, rfl⟩ | ⟨rest, rfl, rfl⟩
  · exact .inr ⟨⟨data, rfl⟩, aborted⟩
  · exact .inl ⟨before, data, rest, rfl, aborted⟩

theorem not_abortedBefore_snoc (early : ¬AbortedBefore role log)
    (other : ∀ data, event ≠ .tried role data) : ¬AbortedBefore role (log ++ [event]) := by
  intro found
  rcases abortedBefore_snoc found with before | ⟨⟨data, same⟩, _⟩
  · exact early before
  · exact other data same

end Snoc

/-- Two logs that differ in nothing the ledger or the circuits are concerned with. -/
structure SameBooks (log more : List (PassEvent Response Failure)) : Prop where
  ledger : ledgerOf more = ledgerOf log
  tried : ∀ role, Tried role more ↔ Tried role log
  concluded : ∀ role, Concluded role more ↔ Concluded role log
  early : ∀ role, AbortedBefore role more → AbortedBefore role log

theorem SameBooks.refl (log : List (PassEvent Response Failure)) : SameBooks log log :=
  ⟨rfl, fun _ => .rfl, fun _ => .rfl, fun _ => id⟩

theorem sameBooks_quiet (log : List (PassEvent Response Failure))
    {event : PassEvent Response Failure} (quiet : event.quiet = true) :
    SameBooks log (log ++ [event]) where
  ledger := by
    rw [ledgerOf_append]
    cases event with
    | tried role data => cases quiet
    | concluded role outcome => cases quiet
    | metric event => cases quiet
    | _ => rfl
  tried := by
    intro role
    rw [tried_snoc, or_iff_left]
    rintro ⟨data, rfl⟩
    cases quiet
  concluded := by
    intro role
    rw [concluded_snoc, or_iff_left]
    rintro ⟨outcome, rfl⟩
    cases quiet
  early := by
    intro role early
    rcases abortedBefore_snoc early with before | ⟨⟨data, rfl⟩, _⟩
    · exact before
    · cases quiet

/-! ### The accounts of a pass -/

def CircuitFacts.Within (facts more : CircuitFacts) : Prop :=
  (∀ role target decision, facts.decided role target decision →
    more.decided role target decision) ∧
  ∀ role target branch, facts.settled role target branch → more.settled role target branch

def PassPhase.role? : PassPhase Response Failure → Option TargetRole
  | .operating role _ _ => some role
  | .executing role _ _ _ => some role
  | .calling role _ _ => some role
  | .routing _ => none
  | .finished _ => none

theorem current_cases {role : TargetRole} {phase : PassPhase Response Failure}
    (current : phase.role? = some role) :
    (∃ target generation, phase = .operating role target generation) ∨
    (∃ target generation outcome, phase = .executing role target generation outcome) ∨
    ∃ target outcome, phase = .calling role target outcome := by
  cases phase with
  | operating other target generation =>
      cases current
      exact .inl ⟨target, generation, rfl⟩
  | executing other target generation outcome =>
      cases current
      exact .inr (.inl ⟨target, generation, outcome, rfl⟩)
  | calling other target outcome =>
      cases current
      exact .inr (.inr ⟨target, outcome, rfl⟩)
  | routing outcome => cases current
  | finished outcome => cases current

structure Started (facts : CircuitFacts) (pass : Pass Response Failure) (role : TargetRole)
    (target : ProviderTarget) : Prop where
  admitted : ∃ breaker, facts.decided role target (.ok breaker)
  attempted : pass.attempted = true
  recorded : (ledgerOf pass.log).calls role = [.providerStart target.name pass.mode]

structure Refused (facts : CircuitFacts) (pass : Pass Response Failure) (role : TargetRole)
    (target : ProviderTarget) (outcome : Except (Thrown Failure) Response) : Prop where
  refused : ∃ error, facts.decided role target (.error error)
  opened : Pass.isCircuitOpenError outcome = true
  attempted : pass.attempted = false
  recorded : (ledgerOf pass.log).calls role = []

def Stage (facts : CircuitFacts) (pass : Pass Response Failure) : PassPhase Response Failure → Prop
  | .operating role target _ => Started facts pass role target
  | .executing role target _ outcome =>
      Started facts pass role target ∧ Pass.isCircuitOpenError outcome = false
  | .calling role target outcome =>
      Refused facts pass role target outcome ∨
        (Started facts pass role target ∧ Pass.isCircuitOpenError outcome = false ∧
          facts.settled role target (Pass.providerOutcome outcome).branch)
  | .routing _ => True
  | .finished _ => True

/-- A target whose call has not begun, or has returned. -/
inductive AtRest (facts : CircuitFacts) (router : ProviderRouter) (mode : PassMode)
    (role : TargetRole) (log : List (PassEvent Response Failure)) : Prop
  | untried (untried : ¬Tried role log) (pending : ¬Concluded role log)
      (recorded : (ledgerOf log).calls role = [])
  | refused {target : ProviderTarget} {error : CircuitOpenError}
      (serves : Serves router target role) (tried : Tried role log)
      (concluded : Concluded role log) (decided : facts.decided role target (.error error))
      (recorded : (ledgerOf log).calls role = [.circuitRejection target.name mode])
  | ended {target : ProviderTarget} {breaker : CircuitBreaker} {outcome : ProviderOutcome}
      (serves : Serves router target role) (tried : Tried role log)
      (concluded : Concluded role log) (decided : facts.decided role target (.ok breaker))
      (settled : facts.settled role target outcome.branch)
      (recorded : (ledgerOf log).calls role =
        [.providerStart target.name mode, .providerEnd target.name mode outcome])

def RouteAccount (router : ProviderRouter) (log : List (PassEvent Response Failure)) : Prop :=
  (¬Tried .fallback log ∧ (ledgerOf log).route = []) ∨
    (Tried .fallback log ∧ ∃ fallback, router.fallback = some fallback ∧
      (ledgerOf log).route = [.fallback router.primary.name fallback.name])

/-- A log in which at most the given target has a running call. -/
structure Books (facts : CircuitFacts) (router : ProviderRouter) (mode : PassMode)
    (current : Option TargetRole) (log : List (PassEvent Response Failure)) : Prop where
  running : (ledgerOf log).running = current
  pending : ∀ role, current = some role → ¬Concluded role log
  resting : ∀ role, current ≠ some role → AtRest facts router mode role log
  early : ∀ role, ¬AbortedBefore role log

structure PassAccount (facts : CircuitFacts) (router : ProviderRouter)
    (pass : Pass Response Failure) : Prop
    extends Books facts router pass.mode pass.phase.role? pass.log where
  stage : Stage facts pass pass.phase
  route : RouteAccount router pass.log

section Transfer

variable {facts : CircuitFacts} {router : ProviderRouter} {mode : PassMode}
  {role : TargetRole} {target : ProviderTarget} {log more : List (PassEvent Response Failure)}
  {pass next : Pass Response Failure}

theorem AtRest.transfer (resting : AtRest facts router mode role log)
    (recorded : (ledgerOf more).calls role = (ledgerOf log).calls role)
    (tried : Tried role more ↔ Tried role log)
    (concluded : Concluded role more ↔ Concluded role log) :
    AtRest facts router mode role more := by
  cases resting with
  | untried untried pending empty =>
      exact .untried (mt tried.mp untried) (mt concluded.mp pending) (recorded.trans empty)
  | refused serves began closed decided entries =>
      exact .refused serves (tried.mpr began) (concluded.mpr closed) decided
        (recorded.trans entries)
  | ended serves began closed decided settled entries =>
      exact .ended serves (tried.mpr began) (concluded.mpr closed) decided
        settled (recorded.trans entries)

theorem Started.transfer (started : Started facts pass role target)
    (books : SameBooks pass.log next.log) (mode : next.mode = pass.mode)
    (attempted : next.attempted = pass.attempted) : Started facts next role target where
  admitted := started.admitted
  attempted := attempted.trans started.attempted
  recorded := by
    rw [books.ledger, mode]
    exact started.recorded

theorem Stage.transfer (stage : Stage facts pass pass.phase)
    (books : SameBooks pass.log next.log) (mode : next.mode = pass.mode)
    (attempted : next.attempted = pass.attempted) (phase : next.phase = pass.phase) :
    Stage facts next next.phase := by
  rw [phase]
  cases stopped : pass.phase with
  | operating role target generation =>
      rw [stopped] at stage
      exact Started.transfer stage books mode attempted
  | executing role target generation outcome =>
      rw [stopped] at stage
      exact ⟨stage.1.transfer books mode attempted, stage.2⟩
  | calling role target outcome =>
      rw [stopped] at stage
      rcases stage with ⟨⟨error, decided⟩, opened, unattempted, empty⟩ | ⟨started, own, settled⟩
      · exact .inl ⟨⟨error, decided⟩, opened, attempted.trans unattempted,
          books.ledger ▸ empty⟩
      · exact .inr ⟨started.transfer books mode attempted, own, settled⟩
  | routing outcome => trivial
  | finished outcome => trivial

theorem RouteAccount.transfer (account : RouteAccount router log)
    (route : (ledgerOf more).route = (ledgerOf log).route)
    (tried : Tried .fallback more ↔ Tried .fallback log) : RouteAccount router more := by
  unfold RouteAccount
  rw [route, tried]
  exact account

theorem Books.transfer {current : Option TargetRole} (books : Books facts router mode current log)
    (same : SameBooks log more) : Books facts router mode current more where
  running := by
    rw [same.ledger]
    exact books.running
  pending := by
    intro role running
    rw [same.concluded]
    exact books.pending role running
  resting := by
    intro role idle
    exact (books.resting role idle).transfer
      (congrFun (congrArg Ledger.calls same.ledger) role) (same.tried role) (same.concluded role)
  early := fun role early => books.early role (same.early role early)

/-- A step that the books do not show. -/
theorem PassAccount.transfer (account : PassAccount facts router pass)
    (same : SameBooks pass.log next.log) (mode : next.mode = pass.mode)
    (role : next.phase.role? = pass.phase.role?) (stage : Stage facts next next.phase) :
    PassAccount facts router next where
  toBooks := by
    rw [mode, role]
    exact account.toBooks.transfer same
  stage := stage
  route := account.route.transfer (congrArg Ledger.route same.ledger) (same.tried .fallback)

end Transfer

/-! ### Entries -/

section Entries

variable {facts : CircuitFacts} {router : ProviderRouter} {mode : PassMode}
  {current : Option TargetRole} {role : TargetRole} {log : List (PassEvent Response Failure)}

theorem running_metric (log : List (PassEvent Response Failure)) (event : MetricEvent) :
    (ledgerOf (log ++ [PassEvent.metric event])).running = (ledgerOf log).running := by
  rw [ledgerOf_append]
  cases running : (ledgerOf log).running <;> simp [Ledger.enter, running]

theorem calls_metric (running : (ledgerOf log).running = some role) (event : MetricEvent) :
    (ledgerOf (log ++ [PassEvent.metric event])).calls role =
      (ledgerOf log).calls role ++ [event] := by
  simp [Ledger.enter, running]

theorem route_metric (running : (ledgerOf log).running = some role) (event : MetricEvent) :
    (ledgerOf (log ++ [PassEvent.metric event])).route = (ledgerOf log).route := by
  simp [Ledger.enter, running]

theorem Books.metric (books : Books facts router mode current log) (event : MetricEvent) :
    Books facts router mode current (log ++ [PassEvent.metric event]) where
  running := (running_metric log event).trans books.running
  pending := by
    intro role running
    rw [concluded_snoc]
    simpa using books.pending role running
  resting := by
    intro role idle
    have recorded : (ledgerOf (log ++ [PassEvent.metric event])).calls role =
        (ledgerOf log).calls role := by
      rw [ledgerOf_append]
      exact calls_enter _ (.metric event : PassEvent Response Failure) (books.running.trans_ne idle)
    exact (books.resting role idle).transfer recorded
      (by simp [tried_snoc]) (by simp [concluded_snoc])
  early := fun role => not_abortedBefore_snoc (books.early role) (by simp)

theorem RouteAccount.metric (account : RouteAccount router log)
    (running : (ledgerOf log).running = some role) (event : MetricEvent) :
    RouteAccount router (log ++ [PassEvent.metric event]) :=
  account.transfer (route_metric running event) (by simp [tried_snoc])

theorem RouteAccount.concluded (account : RouteAccount router log) (role : TargetRole)
    (outcome : Except (Thrown Failure) Response) :
    RouteAccount router (log ++ [PassEvent.concluded role outcome]) := by
  refine account.transfer ?_ ?_
  · rw [ledgerOf_append]
    rfl
  · rw [tried_snoc]
    simp

theorem Books.tried (books : Books facts router mode none log) (untried : ¬Tried role log)
    (unaborted : .aborted ∉ log) (data : ChatRequest) :
    Books facts router mode (some role) (log ++ [PassEvent.tried role data]) ∧
      (ledgerOf (log ++ [PassEvent.tried role data])).calls role = [] := by
  obtain ⟨pending, empty⟩ : ¬Concluded role log ∧ (ledgerOf log).calls role = [] := by
    cases books.resting role (by simp) with
    | untried _ pending empty => exact ⟨pending, empty⟩
    | refused _ tried => exact absurd tried untried
    | ended _ tried => exact absurd tried untried
  refine ⟨⟨by simp [Ledger.enter], ?_, ?_, ?_⟩, by simpa [Ledger.enter] using empty⟩
  · intro other running
    cases running
    simpa [concluded_snoc] using pending
  · intro other different
    have distinct : role ≠ other := fun same => different (congrArg some same)
    exact (books.resting other (by simp)).transfer
      (by simp [Ledger.enter]) (by simp [tried_snoc, distinct]) (by simp [concluded_snoc])
  · intro other early
    rcases abortedBefore_snoc early with before | ⟨_, found⟩
    · exact books.early other before
    · exact unaborted found

theorem Books.concluded (books : Books facts router mode (some role) log)
    {outcome : Except (Thrown Failure) Response}
    (own : AtRest facts router mode role (log ++ [PassEvent.concluded role outcome])) :
    Books facts router mode none (log ++ [PassEvent.concluded role outcome]) where
  running := by simp [Ledger.enter]
  pending := by
    intro other impossible
    cases impossible
  resting := by
    intro other _
    by_cases same : other = role
    · rw [same]
      exact own
    · have different : some role ≠ some other := fun equal => same (Option.some.inj equal).symm
      exact (books.resting other different).transfer
        (by simp [Ledger.enter]) (by simp [tried_snoc]) (by simp [concluded_snoc, Ne.symm same])
  early := fun other => not_abortedBefore_snoc (books.early other) (by simp)

end Entries

/-! ### The steps of a pass -/

variable {facts : CircuitFacts} {router : ProviderRouter} {pass next : Pass Response Failure}
  {role : TargetRole} {target : ProviderTarget} {circuits circuits' : Circuits} {now : ℚ}

theorem PassAccount.called {caller called : Pass Response Failure} {data : ChatRequest}
    {decision : Except CircuitOpenError CircuitBreaker}
    (entered : Called caller role target data decision called)
    (books : Books facts router caller.mode none caller.log) (notAborted : caller.aborted = false)
    (unaborted : .aborted ∉ caller.log) (untried : ¬Tried role caller.log)
    (decided : facts.decided role target decision)
    (route : RouteAccount router (caller.log ++ [PassEvent.tried role data])) :
    PassAccount facts router called := by
  obtain ⟨opened, empty⟩ := books.tried untried unaborted data
  have begun := opened.metric (.providerStart target.name caller.mode)
  have recorded := calls_metric opened.running (.providerStart target.name caller.mode)
  have routed := route.metric opened.running (.providerStart target.name caller.mode)
  rw [empty] at recorded
  cases entered with
  | @refused error =>
      have same := sameBooks_quiet (caller.log ++ [PassEvent.tried role data])
        (show (PassEvent.skipped role error : PassEvent Response Failure).quiet = true from rfl)
      rw [List.append_assoc] at same
      exact ⟨opened.transfer same,
        .inl ⟨⟨error, decided⟩, rfl, rfl, same.ledger ▸ empty⟩,
        route.transfer (congrArg Ledger.route same.ledger) (same.tried .fallback)⟩
  | cancelled aborted => simp [notAborted] at aborted
  | unsupported _ =>
      rw [List.append_assoc] at begun recorded routed
      exact ⟨begun, ⟨⟨⟨_, decided⟩, rfl, recorded⟩, rfl⟩, routed⟩
  | invoked _ =>
      have same := sameBooks_quiet
        (caller.log ++ [PassEvent.tried role data] ++
          [PassEvent.metric (.providerStart target.name caller.mode)])
        (show (PassEvent.invoked role data : PassEvent Response Failure).quiet = true from rfl)
      rw [List.append_assoc, List.append_assoc] at same
      rw [List.append_assoc] at begun recorded routed
      exact ⟨begun.transfer same, ⟨⟨_, decided⟩, rfl, same.ledger ▸ recorded⟩,
        routed.transfer (congrArg Ledger.route same.ledger) (same.tried .fallback)⟩

theorem tried_of_lastTried {log : List (PassEvent Response Failure)}
    (last : lastTried log = some role) : Tried role log := by
  obtain ⟨event, member, tried⟩ := List.mem_filterMap.mp (List.mem_of_getLast? last)
  cases event with
  | tried other data =>
      cases tried
      exact ⟨data, member⟩
  | _ => cases tried

theorem PassInvariant.tried (invariant : PassInvariant router pass)
    (current : pass.phase.role? = some role) : Tried role pass.log := by
  have held := invariant.stopped
  rcases current_cases current with ⟨target, generation, stopped⟩ |
    ⟨target, generation, outcome, stopped⟩ | ⟨target, outcome, stopped⟩
  all_goals
    rw [stopped] at held
    exact tried_of_lastTried held.1.last

theorem PassAccount.close (account : PassAccount facts router pass)
    (current : pass.phase.role? = some role) (tried : Tried role pass.log) (event : MetricEvent)
    (outcome : Except (Thrown Failure) Response)
    (own : ∀ log : List (PassEvent Response Failure), Tried role log → Concluded role log →
      (ledgerOf log).calls role = (ledgerOf pass.log).calls role ++ [event] →
        AtRest facts router pass.mode role log)
    (log : next.log = pass.log ++ [PassEvent.metric event] ++ [PassEvent.concluded role outcome])
    (mode : next.mode = pass.mode) (idle : next.phase.role? = none)
    (stage : Stage facts next next.phase) : PassAccount facts router next := by
  have books := account.toBooks
  rw [current] at books
  have recorded := calls_metric books.running event
  have resting : AtRest facts router pass.mode role next.log := by
    apply own
    · rw [log, tried_snoc, tried_snoc]
      exact .inl (.inl tried)
    · rw [log, concluded_snoc]
      exact .inr ⟨outcome, rfl⟩
    · rw [log, ledgerOf_append]
      exact recorded
  have route := (account.route.metric books.running event).concluded role outcome
  rw [log] at resting
  have closed := (books.metric event).concluded resting
  rw [← log] at closed route
  exact ⟨by rwa [mode, idle], stage, route⟩

theorem PassAccount.leave (account : PassAccount facts router pass)
    (invariant : PassInvariant router pass) {outcome : Except (Thrown Failure) Response}
    (stopped : pass.phase = .calling role target outcome) :
    PassAccount facts router (pass.leave role target outcome) := by
  have held := invariant.stopped
  have stage := account.stage
  rw [stopped] at held stage
  obtain ⟨call, _⟩ := held
  have current : pass.phase.role? = some role := by
    rw [stopped]
    rfl
  have tried := invariant.tried current
  have mode : (pass.leave role target outcome).mode = pass.mode := by
    simp only [Pass.leave, Pass.recordMetrics]
    split_ifs <;> rfl
  have idle : (pass.leave role target outcome).phase.role? = none := by
    cases role <;> rfl
  have done : Stage facts (pass.leave role target outcome)
      (pass.leave role target outcome).phase := by
    cases role <;> trivial
  rcases stage with ⟨⟨error, decided⟩, opened, unattempted, empty⟩ | ⟨started, own, settled⟩
  · refine account.close current tried (.circuitRejection target.name pass.mode)
      (outcome.mapError (Pass.report target)) ?_ ?_ mode idle done
    · intro log tried concluded recorded
      rw [empty] at recorded
      exact .refused call.serves tried concluded decided recorded
    · simp [Pass.leave, Pass.recordMetrics, opened, unattempted, Pass.record, Pass.stop]
  · obtain ⟨breaker, decided⟩ := started.admitted
    refine account.close current tried
      (.providerEnd target.name pass.mode (Pass.providerOutcome outcome))
      (outcome.mapError (Pass.report target)) ?_ ?_ mode idle done
    · intro log tried concluded recorded
      rw [started.recorded] at recorded
      exact .ended call.serves tried concluded decided settled recorded
    · simp [Pass.leave, Pass.recordMetrics, own, started.attempted, Pass.record, Pass.stop]

theorem Untouched.not_tried {log : List (PassEvent Response Failure)}
    (untouched : Untouched role log) : ¬Tried role log := by
  rintro ⟨data, member⟩
  simpa [PassEvent.begins] using untouched _ member

theorem PassAccount.fallback (account : PassAccount facts router pass)
    (invariant : PassInvariant router pass) {error : Thrown Failure} {fallback : FallbackTarget}
    {model : JsString} (stopped : pass.phase = .routing (.error error))
    (notAborted : pass.aborted = false) (configured : router.fallback = some fallback)
    (decided : facts.decided .fallback fallback.toProviderTarget
      ((circuits .fallback).enter fallback.circuit now)) :
    PassAccount facts router
      ((pass.record (.metric (.fallback router.primary.name fallback.name))).call .fallback
        fallback.toProviderTarget { pass.request with model := model } circuits now).1 := by
  have held := invariant.stopped
  have books := account.toBooks
  rw [stopped] at held books
  obtain ⟨_, untouched, _⟩ := held
  have untried := untouched.not_tried
  have recorded : (ledgerOf (pass.log ++
      [PassEvent.metric (.fallback router.primary.name fallback.name)])).route =
        [.fallback router.primary.name fallback.name] := by
    have idle : (ledgerOf pass.log).running = none := books.running
    rcases account.route with ⟨_, empty⟩ | ⟨tried, _⟩
    · simp [Ledger.enter, idle, empty]
    · exact absurd tried untried
  apply PassAccount.called (called_call _ _ _ _ _ _)
  · exact books.metric _
  · exact notAborted
  · simpa [Pass.record] using invariant.not_aborted notAborted
  · simpa [Pass.record, tried_snoc] using untried
  · exact decided
  · refine .inr ⟨tried_snoc.mpr (.inr ⟨_, rfl⟩), fallback, configured, ?_⟩
    rw [ledgerOf_append]
    exact recorded

theorem tried_call (caller : Pass Response Failure) (role : TargetRole) (target : ProviderTarget)
    (data : ChatRequest) (circuits : Circuits) (now : ℚ) :
    Tried role (caller.call role target data circuits now).1.log := by
  obtain ⟨events, log⟩ := log_call caller role target data circuits now
  exact ⟨data, by simp [log]⟩

theorem PassAccount.noted {event : PassEvent Response Failure}
    (account : PassAccount facts router pass) (noted : pass.Noted next event) :
    PassAccount facts router next := by
  have same : SameBooks pass.log next.log := noted.log ▸ sameBooks_quiet pass.log noted.quiet
  exact account.transfer same noted.mode (congrArg PassPhase.role? noted.phase)
    (account.stage.transfer same noted.mode noted.attempted noted.phase)

/-- A step of a pass keeps its accounts, given what the step shows of the circuits. -/
theorem PassAccount.step {input : PassInput Response Failure}
    (account : PassAccount facts router pass) (invariant : PassInvariant router pass)
    (taken : PassStep router now pass circuits input next circuits')
    (own : pass.aborted = false → ∀ error, input ≠ .answer (.error (.circuitOpenError error)))
    (decided : ∀ role target, ¬Tried role pass.log → Tried role next.log →
      facts.decided role target ((circuits role).enter target.circuit now))
    (settled : ∀ role target generation outcome,
      pass.phase = .executing role target generation outcome → input = .resume →
        facts.settled role target
          (settlement isRetryableProviderError isIgnoredError outcome).branch) :
    PassAccount facts router next := by
  have stage := account.stage
  have held := invariant.stopped
  cases taken with
  | abort => exact account.noted ⟨rfl, rfl, rfl, rfl, rfl⟩
  | consume allowed =>
      obtain ⟨event, noted⟩ := noted_consume pass _ _
      exact account.noted noted
  | deliver writing => exact account.noted ⟨rfl, rfl, rfl, rfl, rfl⟩
  | @answer role target generation outcome stopped =>
      rw [stopped] at stage
      have same : SameBooks pass.log (pass.answer role target generation outcome).log :=
        sameBooks_quiet pass.log rfl
      refine account.transfer same rfl (by rw [stopped]; rfl) ⟨?_, ?_⟩
      · exact Started.transfer stage same rfl rfl
      · rw [Pass.wrap_eq]
        cases aborted : pass.aborted with
        | true => rfl
        | false =>
            have foreign := own aborted
            cases outcome with
            | ok response => rfl
            | error error =>
                cases error with
                | circuitOpenError error => exact absurd rfl (foreign error)
                | _ => rfl
  | @execute role target generation outcome stopped =>
      rw [stopped] at stage
      obtain ⟨started, own⟩ := stage
      have branch := settled role target generation outcome stopped rfl
      rw [← branch_providerOutcome] at branch
      refine account.transfer (.refl pass.log) rfl (by rw [stopped]; rfl) ?_
      exact .inr ⟨started.transfer (.refl pass.log) rfl rfl, own, branch⟩
  | call stopped => exact account.leave invariant stopped
  | @route outcome stopped =>
      rw [stopped] at held
      have finish : ∀ outcome, PassAccount facts router (pass.stop (.finished outcome)) :=
        fun outcome => account.transfer (.refl pass.log) rfl (by rw [stopped]; rfl) trivial
      cases outcome with
      | ok response => exact finish _
      | error error =>
          simp only [Pass.route] at decided ⊢
          cases aborted : pass.aborted with
          | true => exact finish _
          | false =>
              cases chosen : pass.fallbackFor router error with
              | none => exact finish _
              | some choice =>
                  obtain ⟨_, _, configured, _⟩ := fallbackFor_eq_some chosen
                  simp only [aborted, chosen, Bool.false_eq_true, if_false] at decided
                  exact account.fallback invariant stopped aborted configured
                    (decided _ _ held.2.1.not_tried (tried_call _ _ _ _ _ _))

/-! ### More facts -/

section Within

variable {facts' : CircuitFacts} {mode : PassMode} {log : List (PassEvent Response Failure)}

theorem AtRest.within (resting : AtRest facts router mode role log)
    (within : facts.Within facts') : AtRest facts' router mode role log := by
  cases resting with
  | untried untried pending empty => exact .untried untried pending empty
  | refused serves began closed decided entries =>
      exact .refused serves began closed (within.1 _ _ _ decided) entries
  | ended serves began closed decided settled entries =>
      exact .ended serves began closed (within.1 _ _ _ decided) (within.2 _ _ _ settled) entries

theorem Started.within (started : Started facts pass role target)
    (within : facts.Within facts') : Started facts' pass role target where
  admitted := by
    obtain ⟨breaker, decided⟩ := started.admitted
    exact ⟨breaker, within.1 _ _ _ decided⟩
  attempted := started.attempted
  recorded := started.recorded

theorem Stage.within {phase : PassPhase Response Failure} (stage : Stage facts pass phase)
    (within : facts.Within facts') : Stage facts' pass phase := by
  cases phase with
  | operating role target generation => exact Started.within stage within
  | executing role target generation outcome => exact ⟨stage.1.within within, stage.2⟩
  | calling role target outcome =>
      rcases stage with ⟨⟨error, decided⟩, opened, unattempted, empty⟩ | ⟨started, own, settled⟩
      · exact .inl ⟨⟨error, within.1 _ _ _ decided⟩, opened, unattempted, empty⟩
      · exact .inr ⟨started.within within, own, within.2 _ _ _ settled⟩
  | routing outcome => trivial
  | finished outcome => trivial

theorem PassAccount.within (account : PassAccount facts router pass)
    (within : facts.Within facts') : PassAccount facts' router pass where
  running := account.running
  pending := account.pending
  resting := fun role idle => (account.resting role idle).within within
  early := account.early
  stage := account.stage.within within
  route := account.route

end Within

theorem PassAccount.call (account : PassAccount facts router pass)
    (invariant : PassInvariant router pass) (tried : Tried role pass.log) :
    ∃ target, Serves router target role ∧
      CallAccount facts pass.mode target role pass.log ((ledgerOf pass.log).calls role) := by
  by_cases current : pass.phase.role? = some role
  · have pending := account.pending role current
    have early := account.early role
    have stage := account.stage
    have held := invariant.stopped
    have running : ∀ {target}, Started facts pass role target →
        CallAccount facts pass.mode target role pass.log ((ledgerOf pass.log).calls role) := by
      intro target started
      obtain ⟨breaker, decided⟩ := started.admitted
      rw [started.recorded]
      exact .running decided early pending
    rcases current_cases current with ⟨target, generation, stopped⟩ |
      ⟨target, generation, outcome, stopped⟩ | ⟨target, outcome, stopped⟩
    · rw [stopped] at stage held
      exact ⟨target, held.1.serves, running stage⟩
    · rw [stopped] at stage held
      exact ⟨target, held.1.serves, running stage.1⟩
    · rw [stopped] at stage held
      refine ⟨target, held.1.serves, ?_⟩
      rcases stage with ⟨⟨error, decided⟩, _, _, empty⟩ | ⟨started, _⟩
      · rw [empty]
        exact .refusing decided pending
      · exact running started
  · cases account.resting role current with
    | untried untried => exact absurd tried untried
    | @refused target _ serves _ concluded decided recorded =>
        rw [recorded]
        exact ⟨target, serves, .refused decided concluded⟩
    | @ended target _ _ serves _ concluded decided settled recorded =>
        rw [recorded]
        exact ⟨target, serves, .ended decided (account.early role) concluded settled⟩

theorem PassAccount.untried (account : PassAccount facts router pass)
    (invariant : PassInvariant router pass) (untried : ¬Tried role pass.log) :
    (ledgerOf pass.log).calls role = [] := by
  have idle : pass.phase.role? ≠ some role := fun current => untried (invariant.tried current)
  cases account.resting role idle with
  | untried _ _ empty => exact empty
  | refused _ tried => exact absurd tried untried
  | ended _ tried => exact absurd tried untried

/-! ### Whole runs -/

/-- What the steps of a run show of the circuits and one pass: the answer that a
circuit gave when the pass tried its target, and the branch that `execute` took
when it settled. -/
def circuitFacts (router : ProviderRouter) (first : RouterSystem Response Failure)
    (events : List (RouterEvent Response Failure)) (system : RouterSystem Response Failure)
    (id : ℕ) : CircuitFacts where
  decided role target decision := ∃ before event after pass,
    Run.Taken (RouterStep router) first events system before event after ∧ event.pass = id ∧
      (∀ earlier, before.passes[id]? = some earlier → ¬Tried role earlier.log) ∧
      after.passes[id]? = some pass ∧ Tried role pass.log ∧
      (before.circuits role).enter target.circuit event.now = decision
  settled role target branch := ∃ before event after pass generation outcome,
    Run.Taken (RouterStep router) first events system before event after ∧ event.pass = id ∧
      before.passes[id]? = some pass ∧
      pass.phase = .executing role target generation outcome ∧ event.input = .resume ∧
      branch = (settlement isRetryableProviderError isIgnoredError outcome).branch ∧
      after.circuits role =
        (before.circuits role).settleBy target.circuit generation event.now branch

/-- No provider rejects with the error of a circuit of its own while the signal of
its pass is not aborted. -/
def NoForeignRefusal (system : RouterSystem Response Failure)
    (event : RouterEvent Response Failure) : Prop :=
  ∀ pass error, system.passes[event.pass]? = some pass → pass.aborted = false →
    event.input ≠ .answer (.error (.circuitOpenError error))

variable {first system after : RouterSystem Response Failure}
  {events : List (RouterEvent Response Failure)} {event : RouterEvent Response Failure} {id : ℕ}

theorem circuitFacts_snoc (id : ℕ) (more : RouterStep router system event after) :
    (circuitFacts router first events system id).Within
      (circuitFacts router first (events ++ [event]) after id) := by
  constructor
  · rintro role target decision ⟨before, earlier, next, pass, taken, rest⟩
    exact ⟨before, earlier, next, pass, taken.snoc more, rest⟩
  · rintro role target branch ⟨before, earlier, next, pass, generation, outcome, taken, rest⟩
    exact ⟨before, earlier, next, pass, generation, outcome, taken.snoc more, rest⟩

theorem settle_of_executing {generation : ℕ} {outcome : Except (Thrown Failure) Response}
    (taken : PassStep router now pass circuits .resume next circuits')
    (stopped : pass.phase = .executing role target generation outcome) :
    circuits' role = (circuits role).settleBy target.circuit generation now
      (settlement isRetryableProviderError isIgnoredError outcome).branch := by
  cases taken with
  | execute stopped' =>
      rw [stopped] at stopped'
      cases stopped'
      rw [Function.update_self, settle_eq_settleBy]
  | call stopped' =>
      rw [stopped] at stopped'
      cases stopped'
  | route stopped' =>
      rw [stopped] at stopped'
      cases stopped'

/-- The accounts of all passes agree with the run that has led to them. -/
def Accounted (router : ProviderRouter) (first : RouterSystem Response Failure)
    (events : List (RouterEvent Response Failure)) (system : RouterSystem Response Failure) :
    Prop :=
  ∀ id pass, system.passes[id]? = some pass →
    PassAccount (circuitFacts router first events system id) router pass

theorem books_initial (facts : CircuitFacts) (router : ProviderRouter) (mode : PassMode)
    (request : ChatRequest) (aborted : Bool) :
    Books facts router mode none
      (Pass.initial mode request aborted : Pass Response Failure).log where
  running := by cases aborted <;> rfl
  pending := by
    intro role impossible
    cases impossible
  resting := by
    intro role _
    refine .untried ?_ ?_ ?_
    · cases aborted <;> simp [Tried, Pass.initial]
    · cases aborted <;> simp [Concluded, Pass.initial]
    · cases aborted <;> rfl
  early := by
    rintro role ⟨before, data, after, split, _⟩
    have member : PassEvent.tried role data ∈ before ++ PassEvent.tried role data :: after := by
      simp
    rw [← split] at member
    cases aborted <;> simp [Pass.initial] at member

theorem passAccount_start {mode : PassMode} {request : ChatRequest} {aborted : Bool}
    (begun : Pass.start router mode request aborted circuits now = (pass, circuits'))
    (decided : Tried .primary pass.log → facts.decided .primary router.primary
      ((circuits .primary).enter router.primary.circuit now)) :
    PassAccount facts router pass := by
  have books : Books facts router mode none (Pass.initial mode request aborted :
      Pass Response Failure).log := books_initial facts router mode request aborted
  obtain rfl : (Pass.start router mode request aborted circuits now).1 = pass := by rw [begun]
  cases aborted with
  | true => exact ⟨books, trivial, .inl ⟨by simp [Pass.start, Pass.initial, Tried], rfl⟩⟩
  | false =>
      apply PassAccount.called (called_call _ _ _ _ _ _)
      · exact books
      · rfl
      · simp [Pass.initial]
      · simp [Pass.initial, Tried]
      · exact decided (tried_call _ _ _ _ _ _)
      · exact .inl ⟨by simp [Pass.initial, Tried], rfl⟩

theorem getElem?_snoc {passes : List (Pass Response Failure)}
    (present : (passes ++ [next])[id]? = some pass) :
    passes[id]? = some pass ∨ (id = passes.length ∧ pass = next) := by
  rcases lt_trichotomy id passes.length with inside | rfl | outside
  · rw [List.getElem?_append_left inside] at present
    exact .inl present
  · rw [List.getElem?_concat_length] at present
    exact .inr ⟨rfl, (Option.some.inj present).symm⟩
  · rw [List.getElem?_eq_none (by simp; omega)] at present
    cases present

theorem Accounted.step (run : Run (RouterStep router) first events system)
    (invariant : ∀ pass ∈ system.passes, PassInvariant router pass)
    (accounted : Accounted router first events system)
    (more : RouterStep router system event after) (own : NoForeignRefusal system event) :
    Accounted router first (events ++ [event]) after := by
  have within : ∀ id, (circuitFacts router first events system id).Within
      (circuitFacts router first (events ++ [event]) after id) :=
    fun id => circuitFacts_snoc id more
  have taken := Run.taken_last run more
  intro id pass present
  cases more with
  | @start now mode request aborted started circuits later begun =>
      rcases getElem?_snoc present with old | ⟨rfl, rfl⟩
      · exact (accounted id pass old).within (within id)
      · apply passAccount_start begun
        intro tried
        exact ⟨system, _, _, pass, taken, rfl, by simp, present, tried, rfl⟩
  | @step now index old next input circuits later found moved =>
      rw [getElem?_set_present found] at present
      split_ifs at present with same
      · subst same
        cases present
        have here := getElem?_set_present found pass id
        rw [if_pos rfl] at here
        refine ((accounted id old found).within (within id)).step
          (invariant old (List.mem_of_getElem? found)) moved ?_ ?_ ?_
        · intro notAborted error
          exact own old error found notAborted
        · intro role target untried tried
          refine ⟨system, _, _, pass, taken, rfl, ?_, here, tried, rfl⟩
          intro earlier same
          rw [found] at same
          cases same
          exact untried
        · rintro role target generation outcome stopped rfl
          exact ⟨system, _, _, old, generation, outcome, taken, rfl, found, stopped, rfl, rfl,
            settle_of_executing moved stopped⟩
      · exact (accounted id pass present).within (within id)

/-- Every metric of a pass stands in its ledger, once. -/
theorem count_metricsOf (log : List (PassEvent Response Failure)) (event : MetricEvent) :
    (metricsOf log).count event =
      ((ledgerOf log).calls .primary).count event + (ledgerOf log).route.count event +
        ((ledgerOf log).calls .fallback).count event := by
  induction log using List.reverseRecOn with
  | nil => rfl
  | append_singleton log last ih =>
      rw [metricsOf_append, List.count_append, ih, ledgerOf_append]
      cases last with
      | metric recorded =>
          cases running : (ledgerOf log).running with
          | none =>
              simp [Ledger.enter, running, PassEvent.metric?]
              omega
          | some role =>
              cases role <;> simp [Ledger.enter, running, PassEvent.metric?] <;> omega
      | _ => simp [Ledger.enter, PassEvent.metric?]

/-- Provider metrics agree with the circuits, at the end of a run. -/
structure MetricsAgree (router : ProviderRouter) (first : RouterSystem Response Failure)
    (events : List (RouterEvent Response Failure)) (system : RouterSystem Response Failure) :
    Prop where
  inFlight : ∀ provider mode,
    (system.metrics.countP (MetricEvent.starts provider mode) : ℤ) -
      system.metrics.countP (MetricEvent.ends provider mode) = system.inFlight provider mode
  attributed : ∀ pass ∈ system.passes, ∀ event, (metricsOf pass.log).count event =
    ((ledgerOf pass.log).calls .primary).count event + (ledgerOf pass.log).route.count event +
      ((ledgerOf pass.log).calls .fallback).count event
  calls : ∀ id pass role, system.passes[id]? = some pass → Tried role pass.log →
    ∃ target, Serves router target role ∧
      CallAccount (circuitFacts router first events system id) pass.mode target role pass.log
        ((ledgerOf pass.log).calls role)
  untried : ∀ pass ∈ system.passes, ∀ role, ¬Tried role pass.log →
    (ledgerOf pass.log).calls role = []
  fallbacks : ∀ pass ∈ system.passes, RouteAccount router pass.log

/-- The metrics agree with the circuits in every run in which no provider rejects
with the error of a circuit of its own. -/
theorem provider_metrics_agree (router : ProviderRouter) {clock : ℚ} {circuits : Circuits}
    (run : Run (fun state event next => RouterStep router state event next ∧
      NoForeignRefusal state event) (.initial clock circuits) events system) :
    MetricsAgree router (.initial clock circuits) events system := by
  obtain ⟨plain, paired, invariant, accounted⟩ := run.historyInvariant
    (fun history state => Run (RouterStep router) (.initial clock circuits) history state ∧
      (∀ pass ∈ state.passes, pass.Paired) ∧ (∀ pass ∈ state.passes, PassInvariant router pass) ∧
      Accounted router (.initial clock circuits) history state)
    ⟨.refl _, by simp [RouterSystem.initial], by simp [RouterSystem.initial],
      by simp [Accounted, RouterSystem.initial]⟩
    (by
      rintro history state event next ⟨earlier, paired, invariant, accounted⟩ ⟨taken, own⟩
      exact ⟨earlier.snoc taken, routerStep_paired paired taken,
        routerStep_passInvariant invariant taken, accounted.step earlier invariant taken own⟩)
  constructor
  · intro provider mode
    exact outstanding_passes paired provider mode
  · intro pass _ event
    exact count_metricsOf pass.log event
  · intro id pass role present tried
    exact (accounted id pass present).call (invariant pass (List.mem_of_getElem? present)) tried
  · intro pass member role untried
    obtain ⟨id, present⟩ := List.getElem?_of_mem member
    exact (accounted id pass present).untried (invariant pass member) untried
  · intro pass member
    obtain ⟨id, present⟩ := List.getElem?_of_mem member
    exact (accounted id pass present).route

theorem provider_metrics_agree_fallback :
    (∃ circuits, MetricsAgree sampleRouter (.initial 0 (fun _ => .initial)) sampleEvents
      ⟨0, circuits, [sampleFallback]⟩) ∧
    (ledgerOf sampleFallback.log).calls .primary =
      [.providerStart "ollama" .chat, .providerEnd "ollama" .chat .transientError] ∧
    (ledgerOf sampleFallback.log).route = [.fallback "ollama" "openai"] ∧
    (ledgerOf sampleFallback.log).calls .fallback = [.providerStart "openai" .chat] := by
  obtain ⟨circuits, run⟩ := sample_run_fallback
  have answers : ∀ event ∈ sampleEvents, ∀ error,
      event.input ≠ .answer (.error (.circuitOpenError error)) := by
    simp [sampleEvents, sampleUnreachable]
  have own : Run (fun state event next => RouterStep sampleRouter state event next ∧
      NoForeignRefusal state event) _ _ _ :=
    (run.restrict _ answers).strengthen
      (fun _ _ _ _ _ taken => ⟨taken.1, fun _ error _ _ => taken.2 error⟩)
  exact ⟨⟨circuits, provider_metrics_agree sampleRouter own⟩, rfl, rfl, rfl⟩

/-- The provider keeps a circuit of its own, which has refused. -/
def sampleForeign : Except (Thrown Unit) Unit := .error (.circuitOpenError ⟨1000⟩)

def sampleForeignLog : List (PassEvent Unit Unit) :=
  [.tried .primary ⟨[0x61], []⟩, .metric (.providerStart "ollama" .chat),
    .invoked .primary ⟨[0x61], []⟩, .answered .primary sampleForeign,
    .metric (.circuitRejection "ollama" .chat),
    .metric (.providerEnd "ollama" .chat .permanentError),
    .concluded .primary (.error (.providerCircuitOpenError "ollama" 1000))]

theorem sample_run_foreign :
    ∃ (events : List (RouterEvent Unit Unit)) (circuits : Circuits),
      Run (RouterStep sampleRouter) (.initial 0 (fun _ => .initial)) events ⟨0, circuits,
        [samplePass (.routing (.error (.providerCircuitOpenError "ollama" 1000)))
          sampleForeignLog]⟩ := by
  have started : RouterStep sampleRouter (.initial 0 (fun _ => .initial))
      ⟨0, 0, .start .chat ⟨[0x61], []⟩ false⟩ ⟨0, sampleCircuits,
        [samplePass (.operating .primary sampleRouter.primary 0) (sampleForeignLog.take 3)]⟩ :=
    .start le_rfl rfl
  have answered : RouterStep sampleRouter
      ⟨0, sampleCircuits, [samplePass (.operating .primary sampleRouter.primary 0)
        (sampleForeignLog.take 3)]⟩
      ⟨0, 0, .answer sampleForeign⟩
      ⟨0, sampleCircuits, [samplePass
        (.executing .primary sampleRouter.primary 0 sampleForeign) (sampleForeignLog.take 4)]⟩ :=
    .step le_rfl rfl (.answer rfl)
  have executed : RouterStep sampleRouter
      ⟨0, sampleCircuits, [samplePass
        (.executing .primary sampleRouter.primary 0 sampleForeign) (sampleForeignLog.take 4)]⟩
      ⟨0, 0, .resume⟩
      ⟨0, _, [samplePass (.calling .primary sampleRouter.primary sampleForeign)
        (sampleForeignLog.take 4)]⟩ :=
    .step le_rfl rfl (.execute rfl)
  have left : ∀ circuits, RouterStep sampleRouter
      ⟨0, circuits, [samplePass (.calling .primary sampleRouter.primary sampleForeign)
        (sampleForeignLog.take 4)]⟩
      ⟨0, 0, .resume⟩ ⟨0, circuits,
        [samplePass (.routing (.error (.providerCircuitOpenError "ollama" 1000)))
          sampleForeignLog]⟩ :=
    fun circuits => .step le_rfl rfl
      (@PassStep.call _ _ sampleRouter 0 _ circuits .primary sampleRouter.primary
        sampleForeign rfl)
  exact ⟨_, _, (((Run.single started).snoc answered).snoc executed).snoc (left _)⟩

/-- The circuit of the router has admitted the call, and a rejection is recorded
with its start and its end. -/
theorem provider_metrics_disagree :
    ∃ (events : List (RouterEvent Unit Unit)) (system : RouterSystem Unit Unit),
      Run (RouterStep sampleRouter) (.initial 0 (fun _ => .initial)) events system ∧
        ¬MetricsAgree sampleRouter (.initial 0 (fun _ => .initial)) events system := by
  obtain ⟨events, circuits, run⟩ := sample_run_foreign
  refine ⟨events, _, run, ?_⟩
  intro agree
  have tried : Tried .primary sampleForeignLog := ⟨⟨[0x61], []⟩, by simp [sampleForeignLog]⟩
  obtain ⟨target, _, account⟩ := agree.calls 0 _ .primary rfl tried
  have recorded : (ledgerOf sampleForeignLog).calls .primary =
      [.providerStart "ollama" .chat, .circuitRejection "ollama" .chat,
        .providerEnd "ollama" .chat .permanentError] := rfl
  have atMostTwo := account.length_le
  simp [samplePass, recorded] at atMostTwo

end ModelMux.Providers
