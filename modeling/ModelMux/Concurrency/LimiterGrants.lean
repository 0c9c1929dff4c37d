/-
Permits and the acquisitions they were granted to.

Every permit was granted to one acquisition.  A step of the limiter touches no
permit but the one it releases, and what it grants is unreleased; this is all
that users of the limiter need to know about the steps of others.
-/

import ModelMux.Concurrency.LimiterFairness

namespace ModelMux.Concurrency

variable {options : InMemoryConcurrencyLimiterOptions} {system next : LimiterSystem}

/-! ### Grants -/

def LimiterSystem.granted (system : LimiterSystem) (id permit : ℕ) : Prop :=
  .settled id (.ok permit) ∈ system.log

def LimiterSystem.unreleased (system : LimiterSystem) (permit : ℕ) : Prop :=
  ∃ granted, system.permits[permit]? = some granted ∧ granted.released = false

def LimiterSystem.released (system : LimiterSystem) (permit : ℕ) : Prop :=
  ∃ granted, system.permits[permit]? = some granted ∧ granted.released = true

/-- Each permit was granted to one acquisition. -/
structure GrantsTracked (system : LimiterSystem) : Prop where
  inside : ∀ id permit, system.granted id permit → permit < system.permits.length
  every : ∀ permit, permit < system.permits.length → ∃ id, system.granted id permit
  distinct : ∀ id id' permit, system.granted id permit → system.granted id' permit → id = id'

theorem GrantsTracked.same (grants : GrantsTracked system)
    (permits : next.permits.length = system.permits.length)
    (log : ∀ id permit, next.granted id permit ↔ system.granted id permit) :
    GrantsTracked next := by
  obtain ⟨inside, every, distinct⟩ := grants
  constructor
  · intro id permit granted
    rw [permits]
    exact inside id permit ((log id permit).mp granted)
  · intro permit present
    rw [permits] at present
    obtain ⟨id, granted⟩ := every permit present
    exact ⟨id, (log id permit).mpr granted⟩
  · intro id id' permit granted granted'
    exact distinct id id' permit ((log id permit).mp granted) ((log id' permit).mp granted')

theorem GrantsTracked.grant (grants : GrantsTracked system) (id : ℕ)
    (permits : next.permits.length = system.permits.length + 1)
    (log : ∀ other permit, next.granted other permit ↔
      system.granted other permit ∨ (other = id ∧ permit = system.permits.length)) :
    GrantsTracked next := by
  obtain ⟨inside, every, distinct⟩ := grants
  constructor
  · intro other permit granted
    rw [permits]
    rcases (log other permit).mp granted with old | ⟨_, rfl⟩
    · exact Nat.lt_succ_of_lt (inside other permit old)
    · exact Nat.lt_succ_self _
  · intro permit present
    rw [permits] at present
    rcases Nat.lt_succ_iff_lt_or_eq.mp present with old | rfl
    · obtain ⟨other, granted⟩ := every permit old
      exact ⟨other, (log other permit).mpr (.inl granted)⟩
    · exact ⟨id, (log id _).mpr (.inr ⟨rfl, rfl⟩)⟩
  · intro first second permit granted granted'
    rcases (log first permit).mp granted with old | ⟨rfl, new⟩ <;>
      rcases (log second permit).mp granted' with old' | ⟨rfl, new'⟩
    · exact distinct first second permit old old'
    · exact absurd (inside first permit old) (by omega)
    · exact absurd (inside second permit old') (by omega)
    · rfl

theorem GrantsTracked.move (grants : GrantsTracked system)
    (moved : LimiterMove options system next) : GrantsTracked next := by
  cases moved with
  | refuse error kind =>
      exact grants.same rfl (by simp [LimiterSystem.granted, LimiterSystem.reject])
  | grant free =>
      apply grants.grant system.acquires (by simp [LimiterSystem.grant])
      simp [LimiterSystem.granted, LimiterSystem.grant]
  | wait now signal full room => exact grants.same rfl (by simp [LimiterSystem.granted])
  | withdraw durationMs error kind split =>
      refine grants.same rfl ?_
      simp [LimiterSystem.granted, LimiterSystem.reject, LimiterSystem.cleanup]
  | vacate present held empty => exact grants.same (by simp) (by simp [LimiterSystem.granted])
  | @handOver permit granted oldest rest now present held front =>
      apply grants.grant oldest.id (by simp [LimiterSystem.grant, LimiterSystem.cleanup])
      simp [LimiterSystem.granted, LimiterSystem.grant, LimiterSystem.cleanup]
  | flag signal => exact grants.same rfl (fun _ _ => Iff.rfl)

/-! ### What a step of the limiter leaves alone -/

/-- Permits other than the released one stay as they are, and those granted by the
step are unreleased. -/
structure LimiterAdvance (released : Option ℕ) (system next : LimiterSystem) : Prop where
  log : ∀ entry ∈ system.log, entry ∈ next.log
  kept : ∀ (permit : ℕ) granted, system.permits[permit]? = some granted → released ≠ some permit →
    next.permits[permit]? = some granted
  fresh : ∀ id permit, next.granted id permit → system.granted id permit ∨ next.unreleased permit
  signals : ∀ signal ∈ system.abortedSignals, signal ∈ next.abortedSignals

theorem LimiterAdvance.quiet {entries : List LimiterEntry}
    (permits : next.permits = system.permits) (log : next.log = system.log ++ entries)
    (refused : ∀ id permit, .settled id (.ok permit) ∉ entries)
    (signals : ∀ signal ∈ system.abortedSignals, signal ∈ next.abortedSignals) :
    LimiterAdvance none system next where
  log := by
    intro entry member
    rw [log]
    exact List.mem_append_left _ member
  kept := by
    intro permit granted present _
    rw [permits]
    exact present
  fresh := by
    intro id permit granted
    rw [LimiterSystem.granted, log, List.mem_append] at granted
    rcases granted with old | new
    · exact .inl old
    · exact absurd new (refused id permit)
  signals := signals

theorem LimiterAdvance.same (permits : next.permits = system.permits)
    (log : next.log = system.log)
    (signals : ∀ signal ∈ system.abortedSignals, signal ∈ next.abortedSignals) :
    LimiterAdvance none system next :=
  .quiet permits (log.trans (List.append_nil _).symm) (by simp) signals

theorem LimiterAdvance.trans {last : LimiterSystem} (first : LimiterAdvance none system next)
    (second : LimiterAdvance none next last) : LimiterAdvance none system last where
  log := fun entry member => second.log entry (first.log entry member)
  kept := by
    intro permit granted present different
    exact second.kept permit granted (first.kept permit granted present different) different
  fresh := by
    intro id permit granted
    rcases second.fresh id permit granted with earlier | unreleased
    · rcases first.fresh id permit earlier with old | ⟨held, present, unreleased⟩
      · exact .inl old
      · exact .inr ⟨held, second.kept permit held present (by simp), unreleased⟩
    · exact .inr unreleased
  signals := fun signal member => second.signals signal (first.signals signal member)

theorem LimiterAdvance.weaken {released : Option ℕ} (advance : LimiterAdvance none system next) :
    LimiterAdvance released system next :=
  ⟨advance.log, fun permit granted present _ => advance.kept permit granted present (by simp),
    advance.fresh, advance.signals⟩

theorem advance_withdraw (system : LimiterSystem) (now : ℚ) (id : ℕ) (error : AcquireError) :
    LimiterAdvance none system (system.withdraw now id error) := by
  unfold LimiterSystem.withdraw
  cases found : system.remove id with
  | none => exact .same rfl rfl (fun _ member => member)
  | some result =>
      obtain ⟨before, after, _, _, removed⟩ := remove_eq_some found
      simp only [removed]
      exact .quiet rfl rfl (by simp) (fun _ member => member)

theorem advance_notify (system : LimiterSystem) (now : ℚ) (listener : ℕ × ℕ) :
    LimiterAdvance none system (system.notify now listener) := by
  unfold LimiterSystem.notify
  split_ifs
  · have removed : LimiterAdvance none system
        { system with
          listeners := system.listeners.filter (fun other => other ≠ listener) } :=
      .same rfl rfl (fun _ member => member)
    exact removed.trans (advance_withdraw _ now listener.2 _)
  · exact .same rfl rfl (fun _ member => member)

theorem advance_abort (system : LimiterSystem) (now : ℚ) (signal : ℕ) :
    LimiterAdvance none system (system.abort now signal) := by
  have dispatch : ∀ (listeners : List (ℕ × ℕ)) (current : LimiterSystem),
      LimiterAdvance none current
        (listeners.foldl (fun current listener => current.notify now listener) current) := by
    intro listeners
    induction listeners with
    | nil => exact fun current => .same rfl rfl (fun _ member => member)
    | cons listener rest ih =>
        intro current
        exact (advance_notify current now listener).trans (ih _)
  unfold LimiterSystem.abort
  split_ifs
  · exact .same rfl rfl (fun _ member => member)
  · have flagged : LimiterAdvance none system
        { system with abortedSignals := signal :: system.abortedSignals } :=
      .same rfl rfl (fun _ => List.mem_cons_of_mem _)
    exact flagged.trans (dispatch _ _)

theorem advance_expire (options : InMemoryConcurrencyLimiterOptions) (system : LimiterSystem)
    (now : ℚ) (id : ℕ) : LimiterAdvance none system (system.expire options now id) := by
  have fired : LimiterAdvance none system
      { system with timers := system.timers.filter (fun timer => timer ≠ id) } :=
    .same rfl rfl (fun _ member => member)
  exact fired.trans (advance_withdraw _ now id _)

theorem LimiterAdvance.grant {released : Option ℕ} (advance : LimiterAdvance released system next)
    (id : ℕ) (waitTimeMs : ℚ) : LimiterAdvance released system (next.grant id waitTimeMs) := by
  have kept : ∀ (permit : ℕ) granted, next.permits[permit]? = some granted →
      (next.grant id waitTimeMs).permits[permit]? = some granted := by
    intro permit granted present
    obtain ⟨inside, _⟩ := List.getElem?_eq_some_iff.mp present
    exact (List.getElem?_append_left inside).trans present
  constructor
  · intro entry member
    exact List.mem_append_left _ (advance.log entry member)
  · intro permit granted present different
    exact kept permit granted (advance.kept permit granted present different)
  · intro other permit granted
    simp only [LimiterSystem.granted, LimiterSystem.grant, List.mem_append, List.mem_cons,
      reduceCtorEq, LimiterEntry.settled.injEq, Except.ok.injEq, List.not_mem_nil, or_false,
      false_or] at granted
    rcases granted with earlier | ⟨_, rfl⟩
    · rcases advance.fresh other permit earlier with old | ⟨held, present, unreleased⟩
      · exact .inl old
      · exact .inr ⟨held, kept permit held present, unreleased⟩
    · exact .inr ⟨_, List.getElem?_concat_length, rfl⟩
  · exact advance.signals

theorem advance_acquire (options : InMemoryConcurrencyLimiterOptions) (system : LimiterSystem)
    (now : ℚ) (signal : Option ℕ) :
    LimiterAdvance none system (system.acquire options now signal) := by
  simp only [LimiterSystem.acquire]
  split_ifs
  · exact .quiet rfl rfl (by simp) (fun _ member => member)
  · refine LimiterAdvance.grant ?_ _ _
    exact .same rfl rfl (fun _ member => member)
  · exact .quiet rfl rfl (by simp) (fun _ member => member)
  · exact .quiet rfl rfl (by simp) (fun _ member => member)

theorem advance_releasePermit (system : LimiterSystem) (now : ℚ) (permit : ℕ) :
    LimiterAdvance (some permit) system (system.releasePermit now permit) := by
  unfold LimiterSystem.releasePermit
  cases present : system.permits[permit]? with
  | none => exact (LimiterAdvance.same rfl rfl (fun _ member => member)).weaken
  | some granted =>
      dsimp only
      split_ifs with released
      · exact (LimiterAdvance.same rfl rfl (fun _ member => member)).weaken
      · let marked : LimiterSystem :=
          { system with permits := system.permits.set permit { granted with released := true } }
        have marks : ∀ queue timers listeners active, LimiterAdvance (some permit) system
            { marked with
              queue := queue, timers := timers, listeners := listeners, active := active } := by
          intro queue timers listeners active
          refine ⟨fun _ member => member, ?_, fun _ _ => Or.inl, fun _ member => member⟩
          intro other held found different
          have apart : permit ≠ other := by
            rintro rfl
            exact different rfl
          exact (List.getElem?_set_ne apart).trans found
        change LimiterAdvance (some permit) system (marked.release now)
        by_cases empty : marked.queue = []
        · rw [release_nil empty]
          exact marks _ _ _ _
        · obtain ⟨oldest, rest, waiting⟩ := List.exists_cons_of_ne_nil empty
          rw [release_cons waiting]
          exact (marks _ _ _ _).grant _ _

/-! ### What holds of the limiter -/

structure LimiterSound (options : InMemoryConcurrencyLimiterOptions) (system : LimiterSystem) :
    Prop where
  tracked : WaitersTracked system
  capacity : CapacityInvariant options system
  history : LimiterHistory system
  grants : GrantsTracked system

theorem LimiterSound.move (sound : LimiterSound options system)
    (moved : LimiterMove options system next) : LimiterSound options next where
  tracked := sound.tracked.move moved
  capacity := sound.capacity.move moved
  history := sound.history.move sound.tracked sound.capacity moved
  grants := sound.grants.move moved

theorem LimiterSound.moves (sound : LimiterSound options system)
    (moved : LimiterMoves options system next) : LimiterSound options next := by
  induction moved with
  | refl => exact sound
  | tail _ last ih => exact ih.move last

theorem limiterSound_initial (options : InMemoryConcurrencyLimiterOptions) :
    LimiterSound options .initial where
  tracked := (limiterInvariant_initial options).tracked
  capacity := (limiterInvariant_initial options).capacity
  history := limiterHistory_initial
  grants := by
    constructor
    · simp [LimiterSystem.granted, LimiterSystem.initial]
    · simp [LimiterSystem.initial]
    · simp [LimiterSystem.granted, LimiterSystem.initial]

theorem LimiterHistory.result_unique (history : LimiterHistory system) {id : ℕ}
    {result result' : Except AcquireError ℕ} (settled : .settled id result ∈ system.log)
    (settled' : .settled id result' ∈ system.log) : result = result' := by
  obtain ⟨before, after, split⟩ := List.append_of_mem settled
  have once := history.once
  have ids : settledIds system.log = settledIds before ++ id :: settledIds after := by
    simp [split, settledIds, LimiterEntry.settledId]
  rw [ids, List.nodup_middle, List.nodup_cons, List.mem_append, not_or] at once
  rw [split, List.mem_append, List.mem_cons] at settled'
  rcases settled' with earlier | same | later
  · exact absurd (mem_settledIds.mpr ⟨_, earlier⟩) once.1.1
  · cases same
    rfl
  · exact absurd (mem_settledIds.mpr ⟨_, later⟩) once.1.2

theorem LimiterHistory.granted_lt (history : LimiterHistory system) {id permit : ℕ}
    (granted : system.granted id permit) : id < system.acquires :=
  (history.calls id).mpr (.inl (mem_settledIds.mpr ⟨_, granted⟩))

end ModelMux.Concurrency
