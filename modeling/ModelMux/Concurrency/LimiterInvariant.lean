/-
The capacity of the limiter.

Whatever happens to the limiter is made of a few moves: an acquisition fails,
is granted or begins to wait, a waiter is withdrawn, and a slot is vacated or
handed over.  Timers and listeners belong to the waiters, which is what makes
every step a sequence of moves; the capacity invariant is kept by each of them.
-/

import Mathlib.Logic.Relation
import ModelMux.Concurrency.InMemoryConcurrencyLimiter

namespace ModelMux.Concurrency

/-! ### Moves -/

inductive LimiterMove (options : InMemoryConcurrencyLimiterOptions) (system : LimiterSystem) :
    LimiterSystem → Prop
  | refuse (error : AcquireError) (kind : error.outcome ≠ .timeout) :
      LimiterMove options system
        ({ system with acquires := system.acquires + 1 }.reject system.acquires 0 error)
  | grant (free : system.active < (options.maxConcurrent : ℤ)) :
      LimiterMove options system
        ({ system with
          acquires := system.acquires + 1
          active := system.active + 1 }.grant system.acquires 0)
  | wait (now : ℚ) (signal : Option ℕ) (full : (options.maxConcurrent : ℤ) ≤ system.active)
      (room : system.queue.length < options.maxQueueSize) :
      LimiterMove options system
        { system with
          acquires := system.acquires + 1
          timers := system.acquires :: system.timers
          queue := system.queue ++ [⟨system.acquires, now, signal⟩]
          listeners :=
            system.listeners ++ signal.toList.map (fun signal => (signal, system.acquires))
          log := system.log ++ [.queued system.acquires] }
  | withdraw {before after : List PendingAcquire} {pending : PendingAcquire} (durationMs : ℚ)
      (error : AcquireError) (kind : error.outcome ≠ .queueFull)
      (split : system.queue = before ++ pending :: after) :
      LimiterMove options system
        (({ system with queue := before ++ after }.cleanup pending.id).reject pending.id durationMs
          error)
  | vacate {permit : ℕ} {granted : ConcurrencyPermit}
      (present : system.permits[permit]? = some granted) (held : granted.released = false)
      (empty : system.queue = []) :
      LimiterMove options system
        { system with
          permits := system.permits.set permit { granted with released := true }
          active := system.active - 1 }
  | handOver {permit : ℕ} {granted : ConcurrencyPermit} {next : PendingAcquire}
      {rest : List PendingAcquire} (now : ℚ) (present : system.permits[permit]? = some granted)
      (held : granted.released = false) (oldest : system.queue = next :: rest) :
      LimiterMove options system
        (({ system with
          permits := system.permits.set permit { granted with released := true }
          queue := rest }.cleanup next.id).grant next.id (now - next.enqueuedAt))
  | flag (signal : ℕ) :
      LimiterMove options system
        { system with abortedSignals := signal :: system.abortedSignals }

abbrev LimiterMoves (options : InMemoryConcurrencyLimiterOptions) :
    LimiterSystem → LimiterSystem → Prop :=
  Relation.ReflTransGen (LimiterMove options)

/-- The armed timers and the registered listeners are those of the waiters. -/
structure WaitersTracked (system : LimiterSystem) : Prop where
  distinct : (system.queue.map PendingAcquire.id).Nodup
  known : ∀ pending ∈ system.queue, pending.id < system.acquires
  timers : ∀ id, id ∈ system.timers ↔ ∃ pending ∈ system.queue, pending.id = id
  listeners : ∀ signal id, (signal, id) ∈ system.listeners ↔
    ∃ pending ∈ system.queue, pending.id = id ∧ pending.signal = some signal

variable {options : InMemoryConcurrencyLimiterOptions} {system next : LimiterSystem}

theorem WaitersTracked.leave {before after : List PendingAcquire} {pending : PendingAcquire}
    (tracked : WaitersTracked system) (split : system.queue = before ++ pending :: after) :
    WaitersTracked ({ system with queue := before ++ after }.cleanup pending.id) := by
  obtain ⟨distinct, known, timers, listeners⟩ := tracked
  rw [split] at distinct known timers listeners
  rw [List.map_append, List.map_cons, List.nodup_middle, List.nodup_cons,
    ← List.map_append] at distinct
  have others : ∀ other ∈ before ++ after, other.id ≠ pending.id := by
    intro other member same
    apply distinct.1
    rw [← same]
    exact List.mem_map_of_mem member
  have kept : ∀ other, other ∈ before ++ pending :: after ↔
      other = pending ∨ other ∈ before ++ after := by
    intro other
    simp only [List.mem_append, List.mem_cons]
    tauto
  constructor
  · exact distinct.2
  · exact fun other member => known other ((kept other).mpr (.inr member))
  · intro id
    simp only [LimiterSystem.cleanup, List.mem_filter, timers, decide_eq_true_eq]
    constructor
    · rintro ⟨⟨other, member, rfl⟩, different⟩
      rcases (kept other).mp member with rfl | member
      · exact absurd rfl different
      · exact ⟨other, member, rfl⟩
    · rintro ⟨other, member, rfl⟩
      exact ⟨⟨other, (kept other).mpr (.inr member), rfl⟩, others other member⟩
  · intro signal id
    simp only [LimiterSystem.cleanup, List.mem_filter, listeners, decide_eq_true_eq]
    constructor
    · rintro ⟨⟨other, member, rfl, own⟩, different⟩
      rcases (kept other).mp member with rfl | member
      · exact absurd rfl different
      · exact ⟨other, member, rfl, own⟩
    · rintro ⟨other, member, rfl, own⟩
      exact ⟨⟨other, (kept other).mpr (.inr member), rfl, own⟩, others other member⟩

theorem WaitersTracked.move (tracked : WaitersTracked system)
    (moved : LimiterMove options system next) : WaitersTracked next := by
  cases moved with
  | refuse error kind =>
      exact ⟨tracked.distinct, fun pending member => (tracked.known pending member).trans
        (Nat.lt_succ_self _), tracked.timers, tracked.listeners⟩
  | grant free =>
      exact ⟨tracked.distinct, fun pending member => (tracked.known pending member).trans
        (Nat.lt_succ_self _), tracked.timers, tracked.listeners⟩
  | wait now signal full room =>
      constructor
      · rw [List.map_append, List.nodup_append]
        refine ⟨tracked.distinct, by simp, ?_⟩
        intro id member id' new
        obtain ⟨pending, old, rfl⟩ := List.mem_map.mp member
        simp only [List.map_cons, List.map_nil, List.mem_singleton] at new
        rw [new]
        exact Nat.ne_of_lt (tracked.known pending old)
      · intro pending member
        rcases List.mem_append.mp member with old | new
        · exact (tracked.known pending old).trans (Nat.lt_succ_self _)
        · rw [List.mem_singleton.mp new]
          exact Nat.lt_succ_self _
      · intro id
        simp only [List.mem_cons, tracked.timers, List.mem_append, List.not_mem_nil, or_false]
        constructor
        · rintro (rfl | ⟨pending, member, rfl⟩)
          · exact ⟨_, .inr rfl, rfl⟩
          · exact ⟨pending, .inl member, rfl⟩
        · rintro ⟨pending, member | rfl, rfl⟩
          · exact .inr ⟨pending, member, rfl⟩
          · exact .inl rfl
      · intro signal' id
        simp only [List.mem_append, tracked.listeners, List.mem_map, Option.mem_toList,
          List.mem_singleton]
        constructor
        · rintro (⟨pending, member, rfl, own⟩ | ⟨signal'', rfl, same⟩)
          · exact ⟨pending, .inl member, rfl, own⟩
          · cases same
            exact ⟨_, .inr rfl, rfl, rfl⟩
        · rintro ⟨pending, member | rfl, rfl, own⟩
          · exact .inl ⟨pending, member, rfl, own⟩
          · exact .inr ⟨signal', own, rfl⟩
  | withdraw durationMs error kind split =>
      obtain ⟨distinct, known, timers, listeners⟩ := tracked.leave split
      exact ⟨distinct, known, timers, listeners⟩
  | vacate present held empty =>
      exact ⟨tracked.distinct, tracked.known, tracked.timers, tracked.listeners⟩
  | @handOver permit granted oldest rest now present held front =>
      have split : system.queue = [] ++ oldest :: rest := front
      obtain ⟨distinct, known, timers, listeners⟩ := tracked.leave split
      exact ⟨distinct, known, timers, listeners⟩
  | flag signal => exact ⟨tracked.distinct, tracked.known, tracked.timers, tracked.listeners⟩

theorem WaitersTracked.moves (tracked : WaitersTracked system)
    (moved : LimiterMoves options system next) : WaitersTracked next := by
  induction moved with
  | refl => exact tracked
  | tail _ last ih => exact ih.move last

/-! ### Steps are made of moves -/

theorem moves_acquire (options : InMemoryConcurrencyLimiterOptions) (system : LimiterSystem)
    (now : ℚ) (signal : Option ℕ) :
    LimiterMove options system (system.acquire options now signal) := by
  simp only [LimiterSystem.acquire]
  split_ifs with aborted free full
  · exact .refuse _ (by simp [AcquireError.outcome])
  · exact .grant free
  · exact .refuse _ (by simp [AcquireError.outcome])
  · exact .wait now signal (not_lt.mp free) (not_le.mp full)

theorem remove_eq_some {id : ℕ} {pending : PendingAcquire} {removed : LimiterSystem}
    (found : system.remove id = some (pending, removed)) :
    ∃ before after, system.queue = before ++ pending :: after ∧ pending.id = id ∧
      removed = { system with queue := before ++ after }.cleanup id := by
  unfold LimiterSystem.remove at found
  cases searched : system.queue.find? (fun pending => decide (pending.id = id)) with
  | none => simp [searched] at found
  | some first =>
      simp only [searched, Option.some.injEq, Prod.mk.injEq] at found
      obtain ⟨rfl, rfl⟩ := found
      obtain ⟨same, before, after, split, earlier⟩ := List.find?_eq_some_iff_append.mp searched
      refine ⟨before, after, split, by simpa using same, ?_⟩
      congr 2
      rw [split, List.eraseP_append_right _ (by simpa using earlier)]
      simp [same]

/-- A timer or a listener that is still there takes its waiter out of the queue,
whether or not it has been removed itself. -/
theorem withdraw_moves {id : ℕ} {now : ℚ} {error : AcquireError} {timers : List ℕ}
    {listeners : List (ℕ × ℕ)} (kind : error.outcome ≠ .queueFull)
    (waiting : ∃ pending ∈ system.queue, pending.id = id)
    (sameTimers : timers.filter (fun timer => timer ≠ id) =
      system.timers.filter (fun timer => timer ≠ id))
    (sameListeners : listeners.filter (fun listener => listener.2 ≠ id) =
      system.listeners.filter (fun listener => listener.2 ≠ id)) :
    LimiterMove options system
      ({ system with timers := timers, listeners := listeners }.withdraw now id error) := by
  cases found : LimiterSystem.remove { system with timers := timers, listeners := listeners } id with
  | none =>
      unfold LimiterSystem.remove at found
      cases searched : system.queue.find? (fun pending => decide (pending.id = id)) with
      | none =>
          obtain ⟨pending, member, same⟩ := waiting
          have absent := List.find?_eq_none.mp searched pending member
          simp [same] at absent
      | some first => simp [searched] at found
  | some result =>
      obtain ⟨pending, removed⟩ := result
      obtain ⟨before, after, split, rfl, rfl⟩ := remove_eq_some found
      have cleaned : LimiterSystem.cleanup
          { system with timers := timers, listeners := listeners, queue := before ++ after }
            pending.id =
          { system with queue := before ++ after }.cleanup pending.id := by
        simp only [LimiterSystem.cleanup, sameTimers, sameListeners]
      simp only [LimiterSystem.withdraw, found]
      rw [cleaned]
      exact .withdraw _ error kind split

theorem WaitersTracked.expire {id : ℕ} {now : ℚ} (tracked : WaitersTracked system)
    (armed : id ∈ system.timers) : LimiterMove options system (system.expire options now id) := by
  apply withdraw_moves (by simp [AcquireError.outcome]) ((tracked.timers id).mp armed)
  · simp [List.filter_filter]
  · rfl

theorem WaitersTracked.notify {listener : ℕ × ℕ} {now : ℚ} (tracked : WaitersTracked system) :
    LimiterMoves options system (system.notify now listener) := by
  unfold LimiterSystem.notify
  split_ifs with registered
  · obtain ⟨pending, member, same, _⟩ := (tracked.listeners listener.1 listener.2).mp registered
    apply Relation.ReflTransGen.single
    apply withdraw_moves (by simp [AcquireError.outcome]) ⟨pending, member, same⟩
    · rfl
    · rw [List.filter_filter]
      apply List.filter_congr
      intro other _
      by_cases own : other = listener
      · simp [own]
      · simp [own]
  · exact .refl

theorem WaitersTracked.abort {signal : ℕ} {now : ℚ} (tracked : WaitersTracked system) :
    LimiterMoves options system (system.abort now signal) := by
  unfold LimiterSystem.abort
  split_ifs
  · exact .refl
  · have dispatch : ∀ (pending : List (ℕ × ℕ)) (current : LimiterSystem), WaitersTracked current →
        LimiterMoves options current
          (pending.foldl (fun current listener => current.notify now listener) current) := by
      intro pending
      induction pending with
      | nil => exact fun current _ => .refl
      | cons listener rest ih =>
          intro current held
          have first : LimiterMoves options current (current.notify now listener) := held.notify
          exact first.trans (ih _ (held.moves first))
    have flagged : LimiterMove options system
        { system with abortedSignals := signal :: system.abortedSignals } := .flag signal
    exact .head flagged (dispatch _ _ (tracked.move flagged))

theorem release_nil (empty : system.queue = []) (now : ℚ) :
    system.release now = { system with active := system.active - 1 } := by
  unfold LimiterSystem.release
  split
  · rfl
  · next waiting => simp [empty] at waiting

theorem release_cons {oldest : PendingAcquire} {rest : List PendingAcquire}
    (waiting : system.queue = oldest :: rest) (now : ℚ) :
    system.release now = ({ system with queue := rest }.cleanup oldest.id).grant oldest.id
      (now - oldest.enqueuedAt) := by
  unfold LimiterSystem.release
  split
  · next empty => simp [waiting] at empty
  · next same =>
      rw [waiting] at same
      cases same
      rfl

theorem moves_releasePermit (options : InMemoryConcurrencyLimiterOptions) (system : LimiterSystem)
    (now : ℚ) (permit : ℕ) : LimiterMoves options system (system.releasePermit now permit) := by
  unfold LimiterSystem.releasePermit
  cases present : system.permits[permit]? with
  | none => exact .refl
  | some granted =>
      dsimp only
      split_ifs with released
      · exact .refl
      · have held : granted.released = false := by simpa using released
        let marked : LimiterSystem :=
          { system with permits := system.permits.set permit { granted with released := true } }
        change LimiterMoves options system (marked.release now)
        by_cases empty : marked.queue = []
        · rw [release_nil empty]
          exact .single (.vacate present held empty)
        · obtain ⟨oldest, rest, waiting⟩ := List.exists_cons_of_ne_nil empty
          rw [release_cons waiting]
          exact .single (.handOver now present held waiting)

theorem WaitersTracked.step {event : LimiterEvent} (tracked : WaitersTracked system)
    (taken : LimiterStep options system event next) : LimiterMoves options system next := by
  cases taken with
  | acquire now signal => exact .single (moves_acquire options system now signal)
  | release now granted => exact moves_releasePermit options system now _
  | abort now signal => exact tracked.abort
  | expire now armed => exact .single (tracked.expire armed)

/-! ### Capacity -/

/-- The permits that have been granted and not yet released. -/
def heldPermits (permits : List ConcurrencyPermit) : ℕ :=
  permits.countP (fun permit => !permit.released)

structure CapacityInvariant (options : InMemoryConcurrencyLimiterOptions)
    (system : LimiterSystem) : Prop where
  counted : system.active = heldPermits system.permits
  bounded : system.active ≤ options.maxConcurrent
  full : system.queue ≠ [] → system.active = options.maxConcurrent
  short : system.queue.length ≤ options.maxQueueSize

theorem heldPermits_release {permits : List ConcurrencyPermit} {permit : ℕ}
    {granted : ConcurrencyPermit} (present : permits[permit]? = some granted)
    (held : granted.released = false) :
    heldPermits (permits.set permit { granted with released := true }) + 1 =
      heldPermits permits := by
  obtain ⟨inside, same⟩ := List.getElem?_eq_some_iff.mp present
  have positive := List.boole_getElem_le_countP (p := fun permit => !permit.released) inside
  unfold heldPermits
  rw [List.countP_set inside]
  simp only [same, held, Bool.not_false, if_true, Bool.not_true, Bool.false_eq_true,
    if_false] at positive ⊢
  omega

theorem CapacityInvariant.move (invariant : CapacityInvariant options system)
    (moved : LimiterMove options system next) : CapacityInvariant options next := by
  obtain ⟨counted, bounded, full, short⟩ := invariant
  cases moved with
  | refuse error kind => exact ⟨counted, bounded, full, short⟩
  | grant free =>
      have idle : system.queue = [] := by
        by_contra waiting
        exact absurd (full waiting) (ne_of_lt free)
      refine ⟨?_, ?_, fun waiting => absurd idle waiting, short⟩
      · simp [LimiterSystem.grant, heldPermits, counted]
      · simp only [LimiterSystem.grant]
        omega
  | wait now signal busy room =>
      refine ⟨counted, bounded, fun _ => le_antisymm bounded busy, ?_⟩
      simp only [List.length_append, List.length_singleton]
      omega
  | withdraw durationMs error kind split =>
      refine ⟨counted, bounded, fun _ => full (by simp [split]), ?_⟩
      rw [split, List.length_append, List.length_cons] at short
      simp only [LimiterSystem.reject, LimiterSystem.cleanup, List.length_append]
      omega
  | vacate present held empty =>
      have fewer := heldPermits_release present held
      refine ⟨?_, ?_, fun waiting => absurd empty waiting, short⟩
      · simp only
        omega
      · simp only
        omega
  | handOver now present held oldest =>
      have fewer := heldPermits_release present held
      refine ⟨?_, bounded, fun _ => full (by simp [oldest]), ?_⟩
      · have granted : ∀ (permits : List ConcurrencyPermit) (permit : ConcurrencyPermit),
            permit.released = false →
              heldPermits (permits ++ [permit]) = heldPermits permits + 1 := by
          intro permits permit unreleased
          simp [heldPermits, unreleased]
        simp only [LimiterSystem.grant, LimiterSystem.cleanup]
        rw [granted _ _ rfl]
        omega
      · rw [oldest, List.length_cons] at short
        simp only [LimiterSystem.grant, LimiterSystem.cleanup]
        omega
  | flag signal => exact ⟨counted, bounded, full, short⟩

theorem CapacityInvariant.moves (invariant : CapacityInvariant options system)
    (moved : LimiterMoves options system next) : CapacityInvariant options next := by
  induction moved with
  | refl => exact invariant
  | tail _ last ih => exact ih.move last

def ReleasedKept (system next : LimiterSystem) : Prop :=
  ∀ (permit : ℕ) granted, system.permits[permit]? = some granted → granted.released = true →
    ∃ later, next.permits[permit]? = some later ∧ later.released = true

theorem releasedKept_same (same : next.permits = system.permits) : ReleasedKept system next := by
  intro permit granted present released
  exact ⟨granted, same ▸ present, released⟩

theorem releasedKept_append {permit : ConcurrencyPermit}
    (grown : next.permits = system.permits ++ [permit]) : ReleasedKept system next := by
  intro index granted present released
  obtain ⟨inside, _⟩ := List.getElem?_eq_some_iff.mp present
  exact ⟨granted, by rw [grown, List.getElem?_append_left inside, present], released⟩

theorem getElem?_markReleased {permits : List ConcurrencyPermit} {permit : ℕ}
    {granted : ConcurrencyPermit} (present : permits[permit]? = some granted) (index : ℕ) :
    (permits.set permit { granted with released := true })[index]? =
      if index = permit then some { granted with released := true } else permits[index]? := by
  obtain ⟨inside, _⟩ := List.getElem?_eq_some_iff.mp present
  by_cases same : index = permit
  · subst same
    simp [inside]
  · rw [if_neg same, List.getElem?_set_ne (Ne.symm same)]

theorem releasedKept_mark {permit : ℕ} {granted : ConcurrencyPermit}
    (present : system.permits[permit]? = some granted)
    (marked : next.permits = system.permits.set permit { granted with released := true }) :
    ReleasedKept system next := by
  intro index granted' found released
  rw [marked, getElem?_markReleased present]
  split_ifs
  · exact ⟨_, rfl, rfl⟩
  · exact ⟨granted', found, released⟩

theorem ReleasedKept.trans {first middle last : LimiterSystem} (before : ReleasedKept first middle)
    (after : ReleasedKept middle last) : ReleasedKept first last := by
  intro permit granted present released
  obtain ⟨later, found, kept⟩ := before permit granted present released
  exact after permit later found kept

theorem releasedKept_move (moved : LimiterMove options system next) :
    ReleasedKept system next := by
  cases moved with
  | refuse error kind => exact releasedKept_same rfl
  | grant free => exact releasedKept_append rfl
  | wait now signal busy room => exact releasedKept_same rfl
  | withdraw durationMs error kind split => exact releasedKept_same rfl
  | vacate present held empty => exact releasedKept_mark present rfl
  | @handOver permit granted oldest rest now present held front =>
      let marked : LimiterSystem :=
        { system with permits := system.permits.set permit { granted with released := true } }
      have first : ReleasedKept system marked := releasedKept_mark present rfl
      exact first.trans (releasedKept_append rfl)
  | flag signal => exact releasedKept_same rfl

theorem releasedKept_moves (moved : LimiterMoves options system next) :
    ReleasedKept system next := by
  induction moved with
  | refl => exact releasedKept_same rfl
  | tail _ last ih => exact ih.trans (releasedKept_move last)

theorem releasePermit_released {permit : ℕ}
    (granted : permit < system.permits.length) (now : ℚ) :
    ∃ later, (system.releasePermit now permit).permits[permit]? = some later ∧
      later.released = true := by
  have present := List.getElem?_eq_getElem granted
  unfold LimiterSystem.releasePermit
  simp only [present]
  split_ifs with released
  · exact ⟨_, present, released⟩
  · let marked : LimiterSystem :=
      { system with
        permits := system.permits.set permit { system.permits[permit] with released := true } }
    have found : marked.permits[permit]? = some { system.permits[permit] with released := true } := by
      simp only [marked, getElem?_markReleased present, if_true]
    change ∃ later, (marked.release now).permits[permit]? = some later ∧ _
    by_cases empty : marked.queue = []
    · rw [release_nil empty]
      exact ⟨_, found, rfl⟩
    · obtain ⟨oldest, rest, waiting⟩ := List.exists_cons_of_ne_nil empty
      rw [release_cons waiting]
      exact releasedKept_append rfl permit _ found rfl

theorem releasePermit_again {permit : ℕ} {granted : ConcurrencyPermit}
    (present : system.permits[permit]? = some granted) (released : granted.released = true)
    (now : ℚ) : system.releasePermit now permit = system := by
  simp [LimiterSystem.releasePermit, present, released]

/-! ### Releases -/

/-- The step that releases `mark` is the only one after which a permit counts as
released that did not before. -/
def MarksOnly (mark : Option ℕ) (system next : LimiterSystem) : Prop :=
  ∀ (permit : ℕ) granted, next.permits[permit]? = some granted → granted.released = true →
    mark = some permit ∨
      ∃ earlier, system.permits[permit]? = some earlier ∧ earlier.released = true

theorem marksOnly_same {mark : Option ℕ} (same : next.permits = system.permits) :
    MarksOnly mark system next := by
  intro permit granted present released
  exact .inr ⟨granted, same ▸ present, released⟩

theorem MarksOnly.grant {mark : Option ℕ} (marks : MarksOnly mark system next) (id : ℕ)
    (waitTimeMs : ℚ) : MarksOnly mark system (next.grant id waitTimeMs) := by
  intro permit granted present released
  simp only [LimiterSystem.grant, List.getElem?_append] at present
  split_ifs at present with old
  · exact marks permit granted present released
  · have new := List.mem_singleton.mp (List.mem_of_getElem? present)
    rw [new] at released
    cases released

theorem permits_withdraw (system : LimiterSystem) (now : ℚ) (id : ℕ) (error : AcquireError) :
    (system.withdraw now id error).permits = system.permits := by
  unfold LimiterSystem.withdraw LimiterSystem.remove
  cases system.queue.find? (fun pending => decide (pending.id = id)) <;> rfl

theorem permits_abort (system : LimiterSystem) (now : ℚ) (signal : ℕ) :
    (system.abort now signal).permits = system.permits := by
  have notified : ∀ (current : LimiterSystem) (listener : ℕ × ℕ),
      (current.notify now listener).permits = current.permits := by
    intro current listener
    unfold LimiterSystem.notify
    split_ifs
    · exact permits_withdraw _ _ _ _
    · rfl
  have dispatch : ∀ (listeners : List (ℕ × ℕ)) (current : LimiterSystem),
      (listeners.foldl (fun current listener => current.notify now listener) current).permits =
        current.permits := by
    intro listeners
    induction listeners with
    | nil => exact fun _ => rfl
    | cons listener rest ih => exact fun current => (ih _).trans (notified current listener)
  unfold LimiterSystem.abort
  split_ifs
  · rfl
  · exact dispatch _ _

theorem marksOnly_acquire (options : InMemoryConcurrencyLimiterOptions) (system : LimiterSystem)
    (now : ℚ) (signal : Option ℕ) : MarksOnly none system (system.acquire options now signal) := by
  simp only [LimiterSystem.acquire]
  split_ifs
  · exact marksOnly_same rfl
  · exact (marksOnly_same (by rfl)).grant _ _
  · exact marksOnly_same rfl
  · exact marksOnly_same rfl

theorem marksOnly_releasePermit (system : LimiterSystem) (now : ℚ) (permit : ℕ) :
    MarksOnly (some permit) system (system.releasePermit now permit) := by
  unfold LimiterSystem.releasePermit
  cases present : system.permits[permit]? with
  | none => exact marksOnly_same rfl
  | some granted =>
      dsimp only
      split_ifs
      · exact marksOnly_same rfl
      · let marked : LimiterSystem :=
          { system with permits := system.permits.set permit { granted with released := true } }
        have own : ∀ queue timers listeners, MarksOnly (some permit) system
            { marked with queue := queue, timers := timers, listeners := listeners } := by
          intro queue timers listeners index record found released
          simp only [marked, getElem?_markReleased present] at found
          split_ifs at found with same
          · exact .inl (congrArg some same.symm)
          · exact .inr ⟨record, found, released⟩
        change MarksOnly (some permit) system (marked.release now)
        by_cases empty : marked.queue = []
        · rw [release_nil empty]
          exact own marked.queue marked.timers marked.listeners
        · obtain ⟨oldest, rest, waiting⟩ := List.exists_cons_of_ne_nil empty
          rw [release_cons waiting]
          exact (own rest _ _).grant _ _

theorem marksOnly_step {event : LimiterEvent} (taken : LimiterStep options system event next)
    {permit : ℕ} {granted : ConcurrencyPermit} (present : next.permits[permit]? = some granted)
    (released : granted.released = true) :
    (∃ now, event = .release now permit) ∨
      ∃ earlier, system.permits[permit]? = some earlier ∧ earlier.released = true := by
  cases taken with
  | acquire now signal =>
      rcases marksOnly_acquire options system now signal permit granted present released with
        own | earlier
      · cases own
      · exact .inr earlier
  | release now inside =>
      rcases marksOnly_releasePermit system now _ permit granted present released with
        own | earlier
      · cases own
        exact .inl ⟨now, rfl⟩
      · exact .inr earlier
  | abort now signal =>
      rw [permits_abort] at present
      exact .inr ⟨granted, present, released⟩
  | expire now armed =>
      rw [LimiterSystem.expire, LimiterSystem.onTimeout, permits_withdraw] at present
      exact .inr ⟨granted, present, released⟩

/-! ### Whole runs -/

structure LimiterInvariant (options : InMemoryConcurrencyLimiterOptions)
    (events : List LimiterEvent) (system : LimiterSystem) : Prop where
  tracked : WaitersTracked system
  capacity : CapacityInvariant options system
  released : ∀ now permit, .release now permit ∈ events →
    ∃ granted, system.permits[permit]? = some granted ∧ granted.released = true
  marked : ∀ (permit : ℕ) granted, system.permits[permit]? = some granted →
    granted.released = true → ∃ now, .release now permit ∈ events

theorem limiterInvariant_initial (options : InMemoryConcurrencyLimiterOptions) :
    LimiterInvariant options [] .initial where
  tracked :=
    { distinct := by simp [LimiterSystem.initial]
      known := by simp [LimiterSystem.initial]
      timers := by simp [LimiterSystem.initial]
      listeners := by simp [LimiterSystem.initial] }
  capacity :=
    { counted := rfl
      bounded := by simp [LimiterSystem.initial]
      full := by simp [LimiterSystem.initial]
      short := by simp [LimiterSystem.initial] }
  released := by simp
  marked := by simp [LimiterSystem.initial]

theorem LimiterInvariant.step {events : List LimiterEvent} {event : LimiterEvent}
    (invariant : LimiterInvariant options events system)
    (taken : LimiterStep options system event next) :
    LimiterInvariant options (events ++ [event]) next := by
  have moved := invariant.tracked.step taken
  constructor
  · exact invariant.tracked.moves moved
  · exact invariant.capacity.moves moved
  · intro now permit member
    rcases List.mem_append.mp member with old | new
    · obtain ⟨granted, present, released⟩ := invariant.released now permit old
      exact releasedKept_moves moved permit granted present released
    · cases List.mem_singleton.mp new
      cases taken with
      | release now granted => exact releasePermit_released granted now
  · intro permit granted present released
    rcases marksOnly_step taken present released with ⟨now, rfl⟩ | ⟨earlier, old, marked⟩
    · exact ⟨now, List.mem_append_right _ (List.mem_singleton_self _)⟩
    · obtain ⟨now, member⟩ := invariant.marked permit earlier old marked
      exact ⟨now, List.mem_append_left _ member⟩

theorem limiterInvariant_of_run {events : List LimiterEvent}
    (run : Run (LimiterStep options) .initial events system) :
    LimiterInvariant options events system :=
  run.historyInvariant (LimiterInvariant options) (limiterInvariant_initial options)
    (fun _ _ _ _ held taken => held.step taken)

/-- In every state of every run the active slots are the permits granted that no
event has released, within the bound, the wait queue is within its own, no request
waits while a slot is free, and the second release of a permit changes nothing. -/
theorem capacity_respected (options : InMemoryConcurrencyLimiterOptions)
    {events : List LimiterEvent} {system : LimiterSystem}
    (run : Run (LimiterStep options) .initial events system) :
    system.snapshot.active = heldPermits system.permits ∧
      (∀ (permit : ℕ) granted, system.permits[permit]? = some granted →
        (granted.released = true ↔ ∃ now, .release now permit ∈ events)) ∧
      0 ≤ system.snapshot.active ∧ system.snapshot.active ≤ options.maxConcurrent ∧
      system.snapshot.queued ≤ options.maxQueueSize ∧
      (system.snapshot.queued ≠ 0 → system.snapshot.active = options.maxConcurrent) ∧
      ∀ before permit next, .release before permit ∈ events → ∀ now,
        LimiterStep options system (.release now permit) next → next = system := by
  obtain ⟨_, ⟨counted, bounded, full, short⟩, released, marked⟩ := limiterInvariant_of_run run
  refine ⟨counted, ?_, ?_, bounded, short, fun waiting => full ?_, ?_⟩
  · intro permit granted present
    constructor
    · exact marked permit granted present
    · rintro ⟨now, earlier⟩
      obtain ⟨granted', found, flag⟩ := released now permit earlier
      rw [present, Option.some.injEq] at found
      rw [found]
      exact flag
  · change 0 ≤ system.active
    omega
  · intro empty
    simp [LimiterSystem.snapshot, empty] at waiting
  · intro before permit next earlier now taken
    obtain ⟨granted, present, marked⟩ := released before permit earlier
    cases taken with
    | release now inside => exact releasePermit_again present marked now

def sampleLimiterOptions : InMemoryConcurrencyLimiterOptions :=
  ⟨1, 1, 1000, by decide, by decide⟩

/-- One request holds the only slot and another waits for it. -/
def sampleWaiting : LimiterSystem :=
  (LimiterSystem.initial.acquire sampleLimiterOptions 0 none).acquire sampleLimiterOptions 1 (some 7)

def sampleHandedOver : LimiterSystem := sampleWaiting.releasePermit 3 0

theorem sample_run_waiting :
    Run (LimiterStep sampleLimiterOptions) .initial [.acquire 0 none, .acquire 1 (some 7)]
      sampleWaiting :=
  (Run.single (.acquire 0 none)).snoc (.acquire 1 (some 7))

theorem sample_run_handedOver :
    Run (LimiterStep sampleLimiterOptions) .initial
      [.acquire 0 none, .acquire 1 (some 7), .release 3 0] sampleHandedOver :=
  sample_run_waiting.snoc (.release 3 (by decide))

theorem capacity_respected_handedOver :
    sampleHandedOver.active = 1 ∧ sampleHandedOver.queue.length = 0 ∧
      ∀ next, LimiterStep sampleLimiterOptions sampleHandedOver (.release 4 0) next →
        next = sampleHandedOver := by
  obtain ⟨_, _, _, _, _, _, again⟩ := capacity_respected sampleLimiterOptions sample_run_handedOver
  exact ⟨by decide, by decide, fun next taken => again 3 0 next (by decide) 4 taken⟩

end ModelMux.Concurrency
