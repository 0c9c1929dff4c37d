/-
The in-memory concurrency limiter.

A slot is granted at once while one is free; otherwise the request waits in a
bounded queue, with a timer and an abort listener that may take it out again.
A released slot goes directly to the oldest waiter.  All of this happens in
synchronous code, so a system of the limiter, its timers, the abort signals and
the permits that callers hold steps at the calls of `acquire` and `release`, at
aborts and when a timer fires.  Clock readings are arbitrary rationals.
-/

import ModelMux.Foundation.LabelledRun
import ModelMux.Json.Number

namespace ModelMux.Concurrency

/-! ### Options -/

structure InMemoryConcurrencyLimiterOptions where
  maxConcurrent : ℕ
  maxQueueSize : ℕ
  waitTimeoutMs : ℕ
  concurrentPositive : 1 ≤ maxConcurrent
  timeoutPositive : 1 ≤ waitTimeoutMs

theorem integerFrom_least (least : ℕ) (value : ℚ)
    (accepted : (JsNumber.finite value).isInteger = true ∧ (least : ℤ) ≤ value.num) :
    least ≤ value.num.toNat := by
  omega

def integerFrom (least : ℕ) (number : JsNumber) : Option { value : ℕ // least ≤ value } :=
  match number with
  | .finite value =>
      if accepted : (JsNumber.finite value).isInteger = true ∧ (least : ℤ) ≤ value.num then
        some ⟨value.num.toNat, integerFrom_least least value accepted⟩
      else none
  | .infinite _ => none
  | .notANumber => none

def validateOptions (maxConcurrent maxQueueSize waitTimeoutMs : JsNumber) :
    Except String InMemoryConcurrencyLimiterOptions :=
  match integerFrom 1 maxConcurrent with
  | none => .error "maxConcurrent must be a positive integer"
  | some concurrent =>
      match integerFrom 0 maxQueueSize with
      | none => .error "maxQueueSize must be a non-negative integer"
      | some queueSize =>
          match integerFrom 1 waitTimeoutMs with
          | none => .error "waitTimeoutMs must be a positive integer"
          | some timeout =>
              .ok ⟨concurrent.1, queueSize.1, timeout.1, concurrent.2, timeout.2⟩

theorem integerFrom_eq_some {least : ℕ} {number : JsNumber} {value : { value : ℕ // least ≤ value }} :
    integerFrom least number = some value ↔ number = .finite (value.1 : ℚ) := by
  constructor
  · intro read
    cases number with
    | infinite negative => cases read
    | notANumber => cases read
    | finite rational =>
        simp only [integerFrom] at read
        split at read
        · next accepted =>
            obtain ⟨whole, large⟩ := accepted
            cases read
            have integer : (rational.num : ℚ) = rational :=
              (Rat.den_eq_one_iff rational).mp (by simpa [JsNumber.isInteger] using whole)
            have nonnegative : 0 ≤ rational.num := by omega
            have natural : ((rational.num.toNat : ℕ) : ℚ) = rational := by
              rw [← Int.cast_natCast, Int.toNat_of_nonneg nonnegative, integer]
            exact congrArg JsNumber.finite natural.symm
        · cases read
  · rintro rfl
    obtain ⟨value, bound⟩ := value
    have accepted : (JsNumber.finite (value : ℚ)).isInteger = true ∧
        (least : ℤ) ≤ (value : ℚ).num := by
      constructor
      · simp [JsNumber.isInteger]
      · rw [Rat.num_natCast]
        exact_mod_cast bound
    rw [integerFrom, dif_pos accepted]
    simp

/-- The constructor accepts exactly integers within their bounds. -/
theorem validateOptions_ok_iff (maxConcurrent maxQueueSize waitTimeoutMs : JsNumber)
    (options : InMemoryConcurrencyLimiterOptions) :
    validateOptions maxConcurrent maxQueueSize waitTimeoutMs = .ok options ↔
      maxConcurrent = .finite options.maxConcurrent ∧
        maxQueueSize = .finite options.maxQueueSize ∧
          waitTimeoutMs = .finite options.waitTimeoutMs := by
  constructor
  · intro accepted
    unfold validateOptions at accepted
    cases concurrent : integerFrom 1 maxConcurrent with
    | none => simp [concurrent] at accepted
    | some concurrent' =>
        cases queueSize : integerFrom 0 maxQueueSize with
        | none => simp [concurrent, queueSize] at accepted
        | some queueSize' =>
            cases timeout : integerFrom 1 waitTimeoutMs with
            | none => simp [concurrent, queueSize, timeout] at accepted
            | some timeout' =>
                simp only [concurrent, queueSize, timeout, Except.ok.injEq] at accepted
                subst accepted
                exact ⟨integerFrom_eq_some.mp concurrent, integerFrom_eq_some.mp queueSize,
                  integerFrom_eq_some.mp timeout⟩
  · rintro ⟨concurrent, queueSize, timeout⟩
    have first : integerFrom 1 maxConcurrent = some ⟨_, options.concurrentPositive⟩ :=
      integerFrom_eq_some.mpr concurrent
    have second : integerFrom 0 maxQueueSize = some ⟨options.maxQueueSize, Nat.zero_le _⟩ :=
      integerFrom_eq_some.mpr queueSize
    have third : integerFrom 1 waitTimeoutMs = some ⟨_, options.timeoutPositive⟩ :=
      integerFrom_eq_some.mpr timeout
    simp [validateOptions, first, second, third]

/-! ### State -/

/-- An acquisition that waits.  `signal` is the one its abort listener is on. -/
structure PendingAcquire where
  id : ℕ
  enqueuedAt : ℚ
  signal : Option ℕ

structure ConcurrencyPermit where
  waitTimeMs : ℚ
  activeAtAdmission : ℤ
  queuedAtAdmission : ℕ
  released : Bool

inductive AdmissionOutcome where
  | admitted
  | queueFull
  | timeout
  | cancelled
deriving DecidableEq

inductive AcquireError where
  | requestAbortedError
  | concurrencyQueueFullError (maxConcurrent maxQueueSize : ℕ)
  | concurrencyWaitTimeoutError (waitTimeoutMs : ℕ)
deriving DecidableEq

def AcquireError.outcome : AcquireError → AdmissionOutcome
  | .requestAbortedError => .cancelled
  | .concurrencyQueueFullError _ _ => .queueFull
  | .concurrencyWaitTimeoutError _ => .timeout

/-- What can be seen of the limiter.  A promise settles with the number of the
granted permit or with an error. -/
inductive LimiterEntry where
  | queued (id : ℕ)
  | settled (id : ℕ) (result : Except AcquireError ℕ)
  | metric (outcome : AdmissionOutcome) (durationMs : ℚ)
deriving DecidableEq

/-- The fields of the limiter, and around them the calls of `acquire` so far, the
permits granted, the armed wait timers and the registered abort listeners, by
acquisition, and the signals that have been aborted. -/
structure LimiterSystem where
  active : ℤ
  queue : List PendingAcquire
  admitted : ℕ
  rejected : ℕ
  timedOut : ℕ
  aborted : ℕ
  totalWaitTimeMs : ℚ
  maxWaitTimeMs : ℚ
  acquires : ℕ
  permits : List ConcurrencyPermit
  timers : List ℕ
  listeners : List (ℕ × ℕ)
  abortedSignals : List ℕ
  log : List LimiterEntry

structure ConcurrencySnapshot where
  active : ℤ
  queued : ℕ
  admitted : ℕ
  rejected : ℕ
  timedOut : ℕ
  aborted : ℕ
  totalWaitTimeMs : ℚ
  maxWaitTimeMs : ℚ
deriving DecidableEq

namespace LimiterSystem

def initial : LimiterSystem :=
  { active := 0
    queue := []
    admitted := 0
    rejected := 0
    timedOut := 0
    aborted := 0
    totalWaitTimeMs := 0
    maxWaitTimeMs := 0
    acquires := 0
    permits := []
    timers := []
    listeners := []
    abortedSignals := []
    log := [] }

def snapshot (system : LimiterSystem) : ConcurrencySnapshot :=
  { active := system.active
    queued := system.queue.length
    admitted := system.admitted
    rejected := system.rejected
    timedOut := system.timedOut
    aborted := system.aborted
    totalWaitTimeMs := system.totalWaitTimeMs
    maxWaitTimeMs := system.maxWaitTimeMs }

/-! ### Operations -/

def grant (system : LimiterSystem) (id : ℕ) (waitTimeMs : ℚ) : LimiterSystem :=
  { system with
    admitted := system.admitted + 1
    totalWaitTimeMs := system.totalWaitTimeMs + waitTimeMs
    maxWaitTimeMs := max system.maxWaitTimeMs waitTimeMs
    permits := system.permits ++
      [{ waitTimeMs := waitTimeMs
         activeAtAdmission := system.active
         queuedAtAdmission := system.queue.length
         released := false }]
    log := system.log ++ [.metric .admitted waitTimeMs, .settled id (.ok system.permits.length)] }

def reject (system : LimiterSystem) (id : ℕ) (durationMs : ℚ) (error : AcquireError) :
    LimiterSystem :=
  { system with
    rejected := if error.outcome = .queueFull then system.rejected + 1 else system.rejected
    timedOut := if error.outcome = .timeout then system.timedOut + 1 else system.timedOut
    aborted := if error.outcome = .cancelled then system.aborted + 1 else system.aborted
    log := system.log ++ [.metric error.outcome durationMs, .settled id (.error error)] }

def acquire (options : InMemoryConcurrencyLimiterOptions) (system : LimiterSystem) (now : ℚ)
    (signal : Option ℕ) : LimiterSystem :=
  let id := system.acquires
  let calling := { system with acquires := system.acquires + 1 }
  if signal.any (fun signal => signal ∈ system.abortedSignals) then
    calling.reject id 0 .requestAbortedError
  else if calling.active < (options.maxConcurrent : ℤ) then
    { calling with active := calling.active + 1 }.grant id 0
  else if options.maxQueueSize ≤ calling.queue.length then
    calling.reject id 0 (.concurrencyQueueFullError options.maxConcurrent options.maxQueueSize)
  else
    { calling with
      timers := id :: calling.timers
      queue := calling.queue ++ [⟨id, now, signal⟩]
      listeners := calling.listeners ++ signal.toList.map (fun signal => (signal, id))
      log := calling.log ++ [.queued id] }

def cleanup (system : LimiterSystem) (id : ℕ) : LimiterSystem :=
  { system with
    timers := system.timers.filter (fun timer => timer ≠ id)
    listeners := system.listeners.filter (fun listener => listener.2 ≠ id) }

def remove (system : LimiterSystem) (id : ℕ) : Option (PendingAcquire × LimiterSystem) :=
  match system.queue.find? (fun pending => pending.id = id) with
  | none => none
  | some pending =>
      some (pending,
        { system with
          queue := system.queue.eraseP (fun pending => pending.id = id) }.cleanup id)

/-- A timer or a listener takes its waiter out of the queue; one that comes too
late does nothing. -/
def withdraw (system : LimiterSystem) (now : ℚ) (id : ℕ) (error : AcquireError) : LimiterSystem :=
  match system.remove id with
  | none => system
  | some (pending, removed) => removed.reject id (now - pending.enqueuedAt) error

def onAbort (system : LimiterSystem) (now : ℚ) (id : ℕ) : LimiterSystem :=
  system.withdraw now id .requestAbortedError

def onTimeout (options : InMemoryConcurrencyLimiterOptions) (system : LimiterSystem) (now : ℚ)
    (id : ℕ) : LimiterSystem :=
  system.withdraw now id (.concurrencyWaitTimeoutError options.waitTimeoutMs)

def expire (options : InMemoryConcurrencyLimiterOptions) (system : LimiterSystem) (now : ℚ)
    (id : ℕ) : LimiterSystem :=
  onTimeout options { system with timers := system.timers.filter (fun timer => timer ≠ id) } now id

/-- An abort listener is called, unless it was removed meanwhile; it is registered
with `once`. -/
def notify (system : LimiterSystem) (now : ℚ) (listener : ℕ × ℕ) : LimiterSystem :=
  if listener ∈ system.listeners then
    { system with
      listeners := system.listeners.filter (fun other => other ≠ listener) }.onAbort now listener.2
  else system

def abort (system : LimiterSystem) (now : ℚ) (signal : ℕ) : LimiterSystem :=
  if signal ∈ system.abortedSignals then system
  else
    (system.listeners.filter (fun listener => listener.1 = signal)).foldl
      (fun current listener => current.notify now listener)
      { system with abortedSignals := signal :: system.abortedSignals }

def release (system : LimiterSystem) (now : ℚ) : LimiterSystem :=
  match system.queue with
  | [] => { system with active := system.active - 1 }
  | next :: rest =>
      ({ system with queue := rest }.cleanup next.id).grant next.id (now - next.enqueuedAt)

def releasePermit (system : LimiterSystem) (now : ℚ) (permit : ℕ) : LimiterSystem :=
  match system.permits[permit]? with
  | none => system
  | some granted =>
      if granted.released then system
      else
        { system with
          permits := system.permits.set permit { granted with released := true } }.release now

end LimiterSystem

/-! ### Runs -/

inductive LimiterEvent where
  | acquire (now : ℚ) (signal : Option ℕ)
  | release (now : ℚ) (permit : ℕ)
  | abort (now : ℚ) (signal : ℕ)
  | expire (now : ℚ) (id : ℕ)
deriving DecidableEq

/-- A permit can be released by whoever has been granted it, and a timer fires
while it is armed. -/
inductive LimiterStep (options : InMemoryConcurrencyLimiterOptions) (system : LimiterSystem) :
    LimiterEvent → LimiterSystem → Prop
  | acquire (now : ℚ) (signal : Option ℕ) :
      LimiterStep options system (.acquire now signal) (system.acquire options now signal)
  | release (now : ℚ) {permit : ℕ} (granted : permit < system.permits.length) :
      LimiterStep options system (.release now permit) (system.releasePermit now permit)
  | abort (now : ℚ) (signal : ℕ) :
      LimiterStep options system (.abort now signal) (system.abort now signal)
  | expire (now : ℚ) {id : ℕ} (armed : id ∈ system.timers) :
      LimiterStep options system (.expire now id) (system.expire options now id)

end ModelMux.Concurrency
