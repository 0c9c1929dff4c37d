/-
The circuit breaker in front of a provider.

The breaker is a record of four mutable fields.  `execute` touches it twice:
before the operation is invoked, when it decides whether to admit the call
and captures the generation, and after the operation has settled.  Between
the two any number of other calls may start and settle, so a system of one
breaker and its calls in flight steps at these points.  Clock readings are
rationals, as all finite doubles are, and never decrease.
-/

import ModelMux.Foundation.LabelledRun
import ModelMux.Json.Number

namespace ModelMux.Providers

inductive CircuitState where
  | closed
  | opened
  | halfOpen
deriving DecidableEq

structure CircuitBreakerOptions where
  failureThreshold : ℕ
  resetTimeoutMs : ℕ
  thresholdPositive : 0 < failureThreshold
  timeoutPositive : 0 < resetTimeoutMs

structure CircuitSnapshot where
  state : CircuitState
  consecutiveFailures : ℕ
  retryAfterMs : ℚ
deriving DecidableEq

structure CircuitOpenError where
  retryAfterMs : ℚ
deriving DecidableEq

@[ext]
structure CircuitBreaker where
  state : CircuitState
  consecutiveFailures : ℕ
  openedAt : ℚ
  generation : ℕ
deriving DecidableEq

/-! ### The constructor -/

theorem positiveSafeInteger_pos (value : ℚ)
    (accepted : (JsNumber.finite value).isSafeInteger = true ∧ 0 < value) :
    0 < value.num.toNat := by
  have positive := Rat.num_pos.mpr accepted.2
  omega

def positiveSafeInteger (number : JsNumber) : Option { value : ℕ // 0 < value } :=
  match number with
  | .finite value =>
      if accepted : (JsNumber.finite value).isSafeInteger = true ∧ 0 < value then
        some ⟨value.num.toNat, positiveSafeInteger_pos value accepted⟩
      else none
  | .infinite _ => none
  | .notANumber => none

def CircuitBreakerOptions.check (failureThreshold resetTimeoutMs : JsNumber) :
    Except String CircuitBreakerOptions :=
  match positiveSafeInteger failureThreshold with
  | none => .error "failureThreshold must be a positive safe integer"
  | some threshold =>
      match positiveSafeInteger resetTimeoutMs with
      | none => .error "resetTimeoutMs must be a positive safe integer"
      | some timeout => .ok ⟨threshold.1, timeout.1, threshold.2, timeout.2⟩

theorem positiveSafeInteger_natCast {value : ℕ} (positive : 0 < value)
    (safe : value ≤ 9007199254740991) :
    positiveSafeInteger (.finite value) = some ⟨value, positive⟩ := by
  have accepted : (JsNumber.finite (value : ℚ)).isSafeInteger = true := by
    have cast : ((value : ℤ) : ℚ) = (value : ℚ) := Int.cast_natCast value
    rw [← cast]
    exact Json.isSafeInteger_intCast (by omega) (by omega)
  simp [positiveSafeInteger, accepted, positive]

theorem positiveSafeInteger_some {number : JsNumber} {value : { value : ℕ // 0 < value }}
    (read : positiveSafeInteger number = some value) :
    number = .finite (value.1 : ℚ) ∧ value.1 ≤ 9007199254740991 := by
  cases number with
  | infinite negative => cases read
  | notANumber => cases read
  | finite rational =>
      simp only [positiveSafeInteger] at read
      split at read
      · next accepted =>
          obtain ⟨safe, positive⟩ := accepted
          simp only [JsNumber.isSafeInteger, Bool.and_eq_true, decide_eq_true_eq] at safe
          have numerator := Rat.num_pos.mpr positive
          have magnitude : |rational.num| = rational.num := abs_of_pos numerator
          cases read
          constructor
          · have whole : (rational.num : ℚ) = rational := (Rat.den_eq_one_iff rational).mp safe.1
            have natural : ((rational.num.toNat : ℕ) : ℚ) = rational := by
              rw [← Int.cast_natCast, Int.toNat_of_nonneg numerator.le, whole]
            exact congrArg JsNumber.finite natural.symm
          · simp only
            omega
      · cases read

/-- The constructor accepts exactly the options whose two numbers are positive
safe integers. -/
theorem CircuitBreakerOptions.check_ok_iff (failureThreshold resetTimeoutMs : JsNumber)
    (options : CircuitBreakerOptions) :
    CircuitBreakerOptions.check failureThreshold resetTimeoutMs = .ok options ↔
      (failureThreshold = .finite options.failureThreshold ∧
        options.failureThreshold ≤ 9007199254740991) ∧
      resetTimeoutMs = .finite options.resetTimeoutMs ∧
        options.resetTimeoutMs ≤ 9007199254740991 := by
  constructor
  · intro accepted
    unfold CircuitBreakerOptions.check at accepted
    cases threshold : positiveSafeInteger failureThreshold with
    | none => simp [threshold] at accepted
    | some threshold' =>
        cases timeout : positiveSafeInteger resetTimeoutMs with
        | none => simp [threshold, timeout] at accepted
        | some timeout' =>
            simp only [threshold, timeout, Except.ok.injEq] at accepted
            subst accepted
            exact ⟨positiveSafeInteger_some threshold, positiveSafeInteger_some timeout⟩
  · rintro ⟨⟨rfl, thresholdSafe⟩, rfl, timeoutSafe⟩
    unfold CircuitBreakerOptions.check
    rw [positiveSafeInteger_natCast options.thresholdPositive thresholdSafe,
      positiveSafeInteger_natCast options.timeoutPositive timeoutSafe]

/-! ### The two halves of `execute` -/

inductive Settlement where
  | success
  | transient
  | permanent
  | ignored
deriving DecidableEq

/-- `isIgnored` is asked before `isFailure`. -/
def settlement {Error Result : Type} (isFailure isIgnored : Error → Bool) :
    Except Error Result → Settlement
  | .ok _ => .success
  | .error error =>
      if isIgnored error then .ignored else if isFailure error then .transient else .permanent

namespace CircuitBreaker

def initial : CircuitBreaker :=
  { state := .closed, consecutiveFailures := 0, openedAt := 0, generation := 0 }

def retryAfterMs (options : CircuitBreakerOptions) (breaker : CircuitBreaker) (now : ℚ) : ℚ :=
  match breaker.state with
  | .opened => max 0 (options.resetTimeoutMs - (now - breaker.openedAt))
  | .halfOpen => options.resetTimeoutMs
  | .closed => 0

def snapshot (options : CircuitBreakerOptions) (breaker : CircuitBreaker) (now : ℚ) :
    CircuitSnapshot :=
  { state := breaker.state
    consecutiveFailures := breaker.consecutiveFailures
    retryAfterMs := breaker.retryAfterMs options now }

/-- `execute` up to the invocation of the operation.  The captured generation
is the one of the resulting breaker. -/
def enter (options : CircuitBreakerOptions) (breaker : CircuitBreaker) (now : ℚ) :
    Except CircuitOpenError CircuitBreaker :=
  let snapshot := breaker.snapshot options now
  if snapshot.state = .halfOpen ∨ 0 < snapshot.retryAfterMs then
    .error ⟨snapshot.retryAfterMs⟩
  else if breaker.state = .opened then
    .ok { breaker with state := .halfOpen }
  else
    .ok breaker

def recordHealthy (breaker : CircuitBreaker) : CircuitBreaker :=
  { breaker with
    generation :=
      if breaker.state = .halfOpen then breaker.generation + 1 else breaker.generation
    state := .closed
    consecutiveFailures := 0 }

def recordFailure (options : CircuitBreakerOptions) (breaker : CircuitBreaker) (now : ℚ) :
    CircuitBreaker :=
  let counted := { breaker with consecutiveFailures := breaker.consecutiveFailures + 1 }
  if counted.state = .halfOpen ∨ options.failureThreshold ≤ counted.consecutiveFailures then
    { counted with
      state := .opened
      openedAt := now
      generation := counted.generation + 1 }
  else
    counted

/-- An abandoned probe gives its slot to the next request. -/
def releaseProbe (options : CircuitBreakerOptions) (breaker : CircuitBreaker) (now : ℚ) :
    CircuitBreaker :=
  if breaker.state = .halfOpen then
    { breaker with
      state := .opened
      openedAt := now - options.resetTimeoutMs
      generation := breaker.generation + 1 }
  else
    breaker

/-- `execute` after the operation has settled. -/
def settle (options : CircuitBreakerOptions) (breaker : CircuitBreaker) (generation : ℕ)
    (now : ℚ) (settlement : Settlement) : CircuitBreaker :=
  if generation = breaker.generation then
    match settlement with
    | .success => breaker.recordHealthy
    | .ignored => breaker.releaseProbe options now
    | .transient => breaker.recordFailure options now
    | .permanent => breaker.recordHealthy
  else
    breaker

/-! ### What admission decides -/

variable {options : CircuitBreakerOptions} {breaker next : CircuitBreaker} {now : ℚ}

theorem retryAfterMs_nonneg : 0 ≤ breaker.retryAfterMs options now := by
  unfold retryAfterMs
  cases breaker.state with
  | closed => exact le_rfl
  | opened => exact le_max_left _ _
  | halfOpen => exact Nat.cast_nonneg _

private theorem waiting_iff (phase : breaker.state = .opened) :
    0 < breaker.retryAfterMs options now ↔ now < breaker.openedAt + options.resetTimeoutMs := by
  simp only [retryAfterMs, phase, lt_max_iff, lt_irrefl, false_or]
  constructor <;> intro bound <;> linarith

/-- Admission either finds the circuit closed or turns an elapsed cooldown into
a probe. -/
theorem enter_ok_iff :
    breaker.enter options now = .ok next ↔
      (breaker.state = .closed ∧ next = breaker) ∨
      (breaker.state = .opened ∧ breaker.openedAt + options.resetTimeoutMs ≤ now ∧
        next = { breaker with state := .halfOpen }) := by
  cases phase : breaker.state with
  | closed => simp [enter, snapshot, retryAfterMs, phase, eq_comm]
  | halfOpen => simp [enter, snapshot, phase]
  | opened =>
      by_cases early : now < breaker.openedAt + options.resetTimeoutMs
      · simp [enter, snapshot, phase, waiting_iff phase, early]
      · have late := not_lt.mp early
        simp [enter, snapshot, phase, waiting_iff phase, early, late, eq_comm]

theorem generation_enter (accepted : breaker.enter options now = .ok next) :
    next.generation = breaker.generation := by
  rcases enter_ok_iff.mp accepted with ⟨_, rfl⟩ | ⟨_, _, rfl⟩ <;> rfl

theorem enter_error_iff {error : CircuitOpenError} :
    breaker.enter options now = .error error ↔
      error = ⟨breaker.retryAfterMs options now⟩ ∧
        (breaker.state = .halfOpen ∨
          (breaker.state = .opened ∧ now < breaker.openedAt + options.resetTimeoutMs)) := by
  cases phase : breaker.state with
  | closed => simp [enter, snapshot, retryAfterMs, phase]
  | halfOpen => simp [enter, snapshot, phase, eq_comm]
  | opened =>
      by_cases early : now < breaker.openedAt + options.resetTimeoutMs
      · simp [enter, snapshot, phase, waiting_iff phase, early, eq_comm]
      · simp [enter, snapshot, phase, waiting_iff phase, early]

/-! ### What a settlement does -/

@[simp]
theorem settle_stale {generation : ℕ} (stale : generation ≠ breaker.generation)
    (outcome : Settlement) : breaker.settle options generation now outcome = breaker :=
  if_neg stale

theorem settle_halfOpen (phase : breaker.state = .halfOpen) (outcome : Settlement) :
    breaker.settle options breaker.generation now outcome =
      match outcome with
      | .success => ⟨.closed, 0, breaker.openedAt, breaker.generation + 1⟩
      | .permanent => ⟨.closed, 0, breaker.openedAt, breaker.generation + 1⟩
      | .transient => ⟨.opened, breaker.consecutiveFailures + 1, now, breaker.generation + 1⟩
      | .ignored =>
          ⟨.opened, breaker.consecutiveFailures, now - options.resetTimeoutMs,
            breaker.generation + 1⟩ := by
  cases outcome <;> simp [settle, recordHealthy, recordFailure, releaseProbe, phase]

/-- In a closed circuit only the failure that reaches the threshold begins a
new generation. -/
theorem settle_closed (phase : breaker.state = .closed) (outcome : Settlement) :
    breaker.settle options breaker.generation now outcome =
      match outcome with
      | .success => { breaker with consecutiveFailures := 0 }
      | .permanent => { breaker with consecutiveFailures := 0 }
      | .transient =>
          if options.failureThreshold ≤ breaker.consecutiveFailures + 1 then
            ⟨.opened, breaker.consecutiveFailures + 1, now, breaker.generation + 1⟩
          else { breaker with consecutiveFailures := breaker.consecutiveFailures + 1 }
      | .ignored => breaker := by
  cases outcome <;> simp [settle, recordHealthy, recordFailure, releaseProbe, phase]

private theorem generation_le_recordHealthy :
    breaker.generation ≤ breaker.recordHealthy.generation := by
  unfold recordHealthy
  split <;> simp

private theorem generation_le_recordFailure :
    breaker.generation ≤ (breaker.recordFailure options now).generation := by
  simp only [recordFailure]
  split_ifs <;> simp

private theorem generation_le_releaseProbe :
    breaker.generation ≤ (breaker.releaseProbe options now).generation := by
  unfold releaseProbe
  split <;> simp

theorem generation_le_settle (generation : ℕ) (outcome : Settlement) :
    breaker.generation ≤ (breaker.settle options generation now outcome).generation := by
  unfold settle
  split
  · cases outcome with
    | success => exact generation_le_recordHealthy
    | transient => exact generation_le_recordFailure
    | permanent => exact generation_le_recordHealthy
    | ignored => exact generation_le_releaseProbe
  · exact le_rfl

end CircuitBreaker

/-! ### One breaker and its calls -/

structure CircuitCall where
  id : ℕ
  generation : ℕ
deriving DecidableEq

/-- `calls` holds the identities of all calls of `execute` so far, so that no
identity is used twice. -/
structure CircuitSystem where
  clock : ℚ
  breaker : CircuitBreaker
  inFlight : List CircuitCall
  calls : List ℕ

def CircuitSystem.initial (clock : ℚ) : CircuitSystem :=
  { clock := clock, breaker := .initial, inFlight := [], calls := [] }

/-- The operation of an admitted call is invoked; the call has captured the
generation of the breaker it left. -/
def CircuitSystem.start (system : CircuitSystem) (now : ℚ) (call : ℕ)
    (breaker : CircuitBreaker) : CircuitSystem :=
  { clock := now
    breaker := breaker
    inFlight := ⟨call, breaker.generation⟩ :: system.inFlight
    calls := call :: system.calls }

def CircuitSystem.finish (system : CircuitSystem) (now : ℚ) (call : ℕ)
    (breaker : CircuitBreaker) : CircuitSystem :=
  { system with
    clock := now
    breaker := breaker
    inFlight := system.inFlight.filter (fun pending => pending.id ≠ call) }

inductive CircuitEvent where
  | rejected (now : ℚ) (call : ℕ) (error : CircuitOpenError)
  | admitted (now : ℚ) (call : ℕ)
  | settled (now : ℚ) (call : ℕ) (outcome : Settlement)
  | observed (now : ℚ) (snapshot : CircuitSnapshot)
deriving DecidableEq

def CircuitEvent.now : CircuitEvent → ℚ
  | .rejected now _ _ => now
  | .admitted now _ => now
  | .settled now _ _ => now
  | .observed now _ => now

inductive CircuitStep (options : CircuitBreakerOptions) :
    CircuitSystem → CircuitEvent → CircuitSystem → Prop
  | rejected {system : CircuitSystem} {now : ℚ} {call : ℕ} {error : CircuitOpenError}
      (later : system.clock ≤ now) (fresh : call ∉ system.calls)
      (refused : system.breaker.enter options now = .error error) :
      CircuitStep options system (.rejected now call error)
        { system with clock := now, calls := call :: system.calls }
  | admitted {system : CircuitSystem} {now : ℚ} {call : ℕ} {breaker : CircuitBreaker}
      (later : system.clock ≤ now) (fresh : call ∉ system.calls)
      (accepted : system.breaker.enter options now = .ok breaker) :
      CircuitStep options system (.admitted now call) (system.start now call breaker)
  | settled {system : CircuitSystem} {now : ℚ} {call generation : ℕ} {outcome : Settlement}
      (later : system.clock ≤ now) (pending : ⟨call, generation⟩ ∈ system.inFlight) :
      CircuitStep options system (.settled now call outcome)
        (system.finish now call (system.breaker.settle options generation now outcome))
  | observed {system : CircuitSystem} {now : ℚ} (later : system.clock ≤ now) :
      CircuitStep options system (.observed now (system.breaker.snapshot options now))
        { system with clock := now }

/-- The breaker changes only by the admission of a probe and by the settlement of
a call of the current generation. -/
theorem breaker_cases {options : CircuitBreakerOptions} {system next : CircuitSystem}
    {event : CircuitEvent} (taken : CircuitStep options system event next) :
    next.breaker = system.breaker ∨
    (∃ now call, event = .admitted now call ∧ system.breaker.state = .opened ∧
      next.breaker = { system.breaker with state := .halfOpen }) ∨
    (∃ now call outcome, event = .settled now call outcome ∧
      next.breaker = system.breaker.settle options system.breaker.generation now outcome) := by
  cases taken with
  | rejected later fresh refused => exact .inl rfl
  | observed later => exact .inl rfl
  | @admitted now call breaker later fresh accepted =>
      rcases CircuitBreaker.enter_ok_iff.mp accepted with ⟨_, rfl⟩ | ⟨isOpen, _, rfl⟩
      · exact .inl rfl
      · exact .inr (.inl ⟨now, call, rfl, isOpen, rfl⟩)
  | @settled now call generation outcome later pending =>
      by_cases current : generation = system.breaker.generation
      · subst current
        exact .inr (.inr ⟨now, call, outcome, rfl, rfl⟩)
      · exact .inl (CircuitBreaker.settle_stale current outcome)

end ModelMux.Providers
