/-
Runs of the circuit: late settlements and the cooldown.

A call that outlives the period in which it was admitted carries a generation
that never becomes current again, so two runs that differ only in when and how
it settles make the same decisions.  An open circuit changes only by the
admission of a probe after the cooldown, which makes the retry hint exact.
-/

import ModelMux.Providers.CircuitInvariant

namespace ModelMux.Providers

variable {options : CircuitBreakerOptions} {system next : CircuitSystem} {event : CircuitEvent}

/-! ### The clock -/

theorem clock_step (taken : CircuitStep options system event next) :
    system.clock ≤ event.now ∧ next.clock = event.now := by
  cases taken with
  | rejected later fresh refused => exact ⟨later, rfl⟩
  | admitted later fresh accepted => exact ⟨later, rfl⟩
  | settled later pending => exact ⟨later, rfl⟩
  | observed later => exact ⟨later, rfl⟩

theorem clock_run {last : CircuitSystem} {events : List CircuitEvent}
    (run : Run (CircuitStep options) system events last) : system.clock ≤ last.clock :=
  run.invariant (fun state => system.clock ≤ state.clock) le_rfl (by
    intro state event next earlier taken
    obtain ⟨later, reading⟩ := clock_step taken
    exact earlier.trans (later.trans_eq reading.symm))

theorem clock_le_of_events {last : CircuitSystem} {events : List CircuitEvent} {now : ℚ}
    (run : Run (CircuitStep options) system events last) (begun : system.clock ≤ now)
    (before : ∀ event ∈ events, event.now ≤ now) : last.clock ≤ now := by
  cases run with
  | refl => exact begun
  | snoc _ taken =>
      rw [(clock_step taken).2]
      exact before _ (List.mem_append_right _ (List.mem_singleton_self _))

/-! ### Late settlements -/

/-- What a caller or the clock contributes to an event; the rest is the answer of
the breaker. -/
inductive CircuitInput where
  | execute (now : ℚ) (call : ℕ)
  | settle (now : ℚ) (call : ℕ) (outcome : Settlement)
  | snapshot (now : ℚ)
deriving DecidableEq

def CircuitEvent.input : CircuitEvent → CircuitInput
  | .rejected now call _ => .execute now call
  | .admitted now call => .execute now call
  | .settled now call outcome => .settle now call outcome
  | .observed now _ => .snapshot now

def CircuitEvent.otherThan (call : ℕ) : CircuitEvent → Bool
  | .settled _ other _ => other ≠ call
  | .rejected _ _ _ => true
  | .admitted _ _ => true
  | .observed _ _ => true

theorem generation_lt_of_periodEnds (taken : CircuitStep options system event next)
    (ends : PeriodEnds system.breaker.state next.breaker.state) :
    system.breaker.generation < next.breaker.generation := by
  rcases breaker_cases taken with
    same | ⟨_, _, _, isOpen, probe⟩ | ⟨now, call, outcome, _, settled⟩
  · rw [same] at ends
    exact absurd ends (not_periodEnds_self _)
  · rw [probe, isOpen] at ends
    simp [PeriodEnds] at ends
  · rw [settled] at ends ⊢
    cases phase : system.breaker.state with
    | closed =>
        rw [CircuitBreaker.settle_closed phase] at ends ⊢
        cases outcome with
        | success => simp [PeriodEnds, phase] at ends
        | permanent => simp [PeriodEnds, phase] at ends
        | ignored => simp [PeriodEnds, phase] at ends
        | transient =>
            dsimp only at ends ⊢
            split_ifs at ends ⊢
            · exact Nat.lt_succ_self _
            · simp [PeriodEnds, phase] at ends
    | halfOpen =>
        rw [CircuitBreaker.settle_halfOpen phase]
        cases outcome <;> exact Nat.lt_succ_self _
    | opened => simp [PeriodEnds, phase] at ends

/-- The call has captured the generation and keeps it as long as it is in flight. -/
structure Captured (call generation : ℕ) (system : CircuitSystem) : Prop where
  used : call ∈ system.calls
  bound : generation ≤ system.breaker.generation
  held : ∀ pending ∈ system.inFlight, pending.id = call → pending.generation = generation

theorem Captured.step {call generation : ℕ} (captured : Captured call generation system)
    (taken : CircuitStep options system event next) : Captured call generation next := by
  obtain ⟨used, bound, held⟩ := captured
  cases taken with
  | rejected later fresh refused => exact ⟨List.mem_cons_of_mem _ used, bound, held⟩
  | observed later => exact ⟨used, bound, held⟩
  | @admitted now other breaker later fresh accepted =>
      have generation_eq := CircuitBreaker.generation_enter accepted
      constructor
      · exact List.mem_cons_of_mem _ used
      · exact bound.trans_eq generation_eq.symm
      · intro pending member same
        rcases List.mem_cons.mp member with rfl | present
        · simp only at same
          exact absurd (same ▸ used) fresh
        · exact held pending present same
  | settled later pending =>
      constructor
      · exact used
      · exact bound.trans (CircuitBreaker.generation_le_settle _ _)
      · intro other member same
        exact held other (mem_finish.mp member).1 same

theorem captured_of_admitted {clock now : ℚ} {events : List CircuitEvent} {call : ℕ}
    (run : Run (CircuitStep options) (.initial clock) events system)
    (taken : CircuitStep options system (.admitted now call) next) :
    Captured call next.breaker.generation next := by
  obtain ⟨trace, _, invariant⟩ := exists_trace run
  cases taken with
  | admitted later fresh accepted =>
      constructor
      · exact List.mem_cons_self
      · exact le_rfl
      · intro pending member same
        rcases List.mem_cons.mp member with rfl | present
        · rfl
        · exact absurd (same ▸ invariant.tracked.known pending present) fresh

/-- The call is of an earlier generation. -/
structure Outlived (call : ℕ) (system : CircuitSystem) : Prop where
  used : call ∈ system.calls
  older : ∀ pending ∈ system.inFlight, pending.id = call →
    pending.generation < system.breaker.generation

theorem Outlived.step {call : ℕ} (outlived : Outlived call system)
    (taken : CircuitStep options system event next) : Outlived call next := by
  obtain ⟨used, older⟩ := outlived
  cases taken with
  | rejected later fresh refused => exact ⟨List.mem_cons_of_mem _ used, older⟩
  | observed later => exact ⟨used, older⟩
  | @admitted now other breaker later fresh accepted =>
      have generation_eq := CircuitBreaker.generation_enter accepted
      constructor
      · exact List.mem_cons_of_mem _ used
      · intro pending member same
        rcases List.mem_cons.mp member with rfl | present
        · simp only at same
          exact absurd (same ▸ used) fresh
        · exact (older pending present same).trans_eq generation_eq.symm
  | settled later pending =>
      constructor
      · exact used
      · intro other member same
        exact (older other (mem_finish.mp member).1 same).trans_le
          (CircuitBreaker.generation_le_settle _ _)

/-- A late settlement changes neither the breaker nor any other call. -/
theorem Outlived.settled {now : ℚ} {call : ℕ} {outcome : Settlement}
    (outlived : Outlived call system)
    (taken : CircuitStep options system (.settled now call outcome) next) :
    next = system.finish now call system.breaker := by
  cases taken with
  | settled later pending =>
      have stale := (outlived.older _ pending rfl).ne
      rw [CircuitBreaker.settle_stale stale]

def CircuitSystem.others (system : CircuitSystem) (call : ℕ) : List CircuitCall :=
  system.inFlight.filter (fun pending => pending.id ≠ call)

/-- Two systems that differ at most in the clock and in whether the late call is
still in flight. -/
structure SameBut (call : ℕ) (left right : CircuitSystem) : Prop where
  breaker : left.breaker = right.breaker
  calls : left.calls = right.calls
  others : left.others call = right.others call
  distinct : ((left.others call).map CircuitCall.id).Nodup
  known : ∀ pending ∈ left.others call, pending.id ∈ left.calls
  outlivedLeft : Outlived call left
  outlivedRight : Outlived call right

variable {call : ℕ} {left left' right right' : CircuitSystem} {event' : CircuitEvent}

theorem SameBut.symm (same : SameBut call left right) : SameBut call right left :=
  { breaker := same.breaker.symm
    calls := same.calls.symm
    others := same.others.symm
    distinct := same.others ▸ same.distinct
    known := by
      rw [← same.others, ← same.calls]
      exact same.known
    outlivedLeft := same.outlivedRight
    outlivedRight := same.outlivedLeft }

theorem others_finish (system : CircuitSystem) (now : ℚ) (call : ℕ) (breaker : CircuitBreaker) :
    (system.finish now call breaker).others call = system.others call := by
  simp [CircuitSystem.others, CircuitSystem.finish]

theorem SameBut.settle_left (same : SameBut call left right)
    (taken : CircuitStep options left event left') (late : event.otherThan call = false) :
    SameBut call left' right := by
  cases event with
  | rejected now other error => cases late
  | admitted now other => cases late
  | observed now snapshot => cases late
  | settled now other outcome =>
      obtain rfl : other = call := by simpa [CircuitEvent.otherThan] using late
      have outlived := same.outlivedLeft.step taken
      obtain rfl := same.outlivedLeft.settled taken
      exact
        { breaker := same.breaker
          calls := same.calls
          others := (others_finish left now other left.breaker).trans same.others
          distinct := by
            rw [others_finish]
            exact same.distinct
          known := by
            rw [others_finish]
            exact same.known
          outlivedLeft := outlived
          outlivedRight := same.outlivedRight }

theorem others_start (system : CircuitSystem) (now : ℚ) {call other : ℕ}
    (breaker : CircuitBreaker) (different : other ≠ call) :
    (system.start now other breaker).others call =
      ⟨other, breaker.generation⟩ :: system.others call := by
  simp [CircuitSystem.others, CircuitSystem.start, different]

theorem others_finish_other (system : CircuitSystem) (now : ℚ) (call other : ℕ)
    (breaker : CircuitBreaker) :
    (system.finish now other breaker).others call =
      (system.others call).filter (fun pending => pending.id ≠ other) := by
  simp only [CircuitSystem.others, CircuitSystem.finish, List.filter_filter]
  exact List.filter_congr (fun pending _ => Bool.and_comm _ _)

theorem SameBut.start (same : SameBut call left right) {now : ℚ} {other : ℕ}
    {breaker : CircuitBreaker} (fresh : other ∉ left.calls)
    (outlivedLeft : Outlived call (left.start now other breaker))
    (outlivedRight : Outlived call (right.start now other breaker)) :
    SameBut call (left.start now other breaker) (right.start now other breaker) := by
  have different : other ≠ call := by
    rintro rfl
    exact fresh same.outlivedLeft.used
  constructor
  · rfl
  · exact congrArg (List.cons other) same.calls
  · rw [others_start _ _ _ different, others_start _ _ _ different, same.others]
  · rw [others_start _ _ _ different, List.map_cons, List.nodup_cons]
    refine ⟨?_, same.distinct⟩
    intro member
    obtain ⟨pending, present, sameId⟩ := List.mem_map.mp member
    have known := same.known pending present
    rw [sameId] at known
    exact fresh known
  · intro pending member
    rw [others_start _ _ _ different] at member
    rcases List.mem_cons.mp member with rfl | present
    · exact List.mem_cons_self
    · exact List.mem_cons_of_mem _ (same.known pending present)
  · exact outlivedLeft
  · exact outlivedRight

theorem SameBut.finish (same : SameBut call left right) {now : ℚ} {other : ℕ}
    {breaker : CircuitBreaker}
    (outlivedLeft : Outlived call (left.finish now other breaker))
    (outlivedRight : Outlived call (right.finish now other breaker)) :
    SameBut call (left.finish now other breaker) (right.finish now other breaker) := by
  constructor
  · rfl
  · exact same.calls
  · rw [others_finish_other, others_finish_other, same.others]
  · rw [others_finish_other]
    exact same.distinct.sublist (List.filter_sublist.map _)
  · intro pending member
    rw [others_finish_other] at member
    exact same.known pending (List.mem_filter.mp member).1
  · exact outlivedLeft
  · exact outlivedRight

theorem SameBut.generation_eq (same : SameBut call left right) {other generation generation' : ℕ}
    (different : other ≠ call) (pending : ⟨other, generation⟩ ∈ left.inFlight)
    (pending' : ⟨other, generation'⟩ ∈ right.inFlight) : generation = generation' := by
  have member : ⟨other, generation⟩ ∈ left.others call := by
    simp [CircuitSystem.others, pending, different]
  have member' : ⟨other, generation'⟩ ∈ left.others call := by
    rw [same.others]
    simp [CircuitSystem.others, pending', different]
  have equal := List.inj_on_of_nodup_map same.distinct member member' rfl
  exact congrArg CircuitCall.generation equal

/-- The same input is answered alike. -/
theorem SameBut.both (same : SameBut call left right)
    (takenLeft : CircuitStep options left event left')
    (takenRight : CircuitStep options right event' right')
    (concerned : event.otherThan call = true) (inputs : event.input = event'.input) :
    SameBut call left' right' ∧ event = event' := by
  have outlivedLeft := same.outlivedLeft.step takenLeft
  have outlivedRight := same.outlivedRight.step takenRight
  have breaker := same.breaker
  cases takenLeft with
  | rejected later fresh refused =>
      cases takenRight with
      | rejected later' fresh' refused' =>
          simp only [CircuitEvent.input, CircuitInput.execute.injEq] at inputs
          obtain ⟨rfl, rfl⟩ := inputs
          rw [breaker, refused'] at refused
          cases refused
          exact ⟨⟨breaker, congrArg (List.cons _) same.calls, same.others, same.distinct,
            fun pending member => List.mem_cons_of_mem _ (same.known pending member),
            outlivedLeft, outlivedRight⟩, rfl⟩
      | admitted later' fresh' accepted' =>
          simp only [CircuitEvent.input, CircuitInput.execute.injEq] at inputs
          obtain ⟨rfl, rfl⟩ := inputs
          rw [breaker, accepted'] at refused
          cases refused
      | settled later' pending' => cases inputs
      | observed later' => cases inputs
  | admitted later fresh accepted =>
      cases takenRight with
      | admitted later' fresh' accepted' =>
          simp only [CircuitEvent.input, CircuitInput.execute.injEq] at inputs
          obtain ⟨rfl, rfl⟩ := inputs
          rw [breaker, accepted'] at accepted
          cases accepted
          exact ⟨same.start fresh outlivedLeft outlivedRight, rfl⟩
      | rejected later' fresh' refused' =>
          simp only [CircuitEvent.input, CircuitInput.execute.injEq] at inputs
          obtain ⟨rfl, rfl⟩ := inputs
          rw [breaker, refused'] at accepted
          cases accepted
      | settled later' pending' => cases inputs
      | observed later' => cases inputs
  | settled later pending =>
      cases takenRight with
      | settled later' pending' =>
          simp only [CircuitEvent.input, CircuitInput.settle.injEq] at inputs
          obtain ⟨rfl, rfl, rfl⟩ := inputs
          have different := by simpa [CircuitEvent.otherThan] using concerned
          obtain rfl := same.generation_eq different pending pending'
          rw [breaker] at outlivedLeft ⊢
          exact ⟨same.finish outlivedLeft outlivedRight, rfl⟩
      | rejected later' fresh' refused' => cases inputs
      | admitted later' fresh' accepted' => cases inputs
      | observed later' => cases inputs
  | observed later =>
      cases takenRight with
      | observed later' =>
          simp only [CircuitEvent.input, CircuitInput.snapshot.injEq] at inputs
          subst inputs
          exact ⟨⟨breaker, same.calls, same.others, same.distinct, same.known, outlivedLeft,
            outlivedRight⟩, by rw [breaker]⟩
      | rejected later' fresh' refused' => cases inputs
      | admitted later' fresh' accepted' => cases inputs
      | settled later' pending' => cases inputs

theorem sameBut_of_outlived {clock : ℚ} {events : List CircuitEvent}
    (run : Run (CircuitStep options) (.initial clock) events system)
    (outlived : Outlived call system) : SameBut call system system := by
  obtain ⟨trace, _, invariant⟩ := exists_trace run
  exact
    { breaker := rfl
      calls := rfl
      others := rfl
      distinct := invariant.tracked.distinct.sublist (List.filter_sublist.map _)
      known := fun pending member =>
        invariant.tracked.known pending (List.mem_filter.mp member).1
      outlivedLeft := outlived
      outlivedRight := outlived }

/-- The other system can take the same step, if its clock allows it. -/
theorem SameBut.follow (same : SameBut call left right)
    (taken : CircuitStep options left event left') (concerned : event.otherThan call = true)
    (later : right.clock ≤ event.now) :
    ∃ right', CircuitStep options right event right' ∧ SameBut call left' right' := by
  have finish : ∀ right', CircuitStep options right event right' →
      ∃ right', CircuitStep options right event right' ∧ SameBut call left' right' :=
    fun right' taken' => ⟨right', taken', (same.both taken taken' concerned rfl).1⟩
  cases taken with
  | rejected _ fresh refused =>
      rw [same.calls] at fresh
      rw [same.breaker] at refused
      exact finish _ (.rejected later fresh refused)
  | admitted _ fresh accepted =>
      rw [same.calls] at fresh
      rw [same.breaker] at accepted
      exact finish _ (.admitted later fresh accepted)
  | @settled now other generation outcome _ pending =>
      have different : other ≠ call := by simpa [CircuitEvent.otherThan] using concerned
      have member : ⟨other, generation⟩ ∈ left.others call := by
        simp [CircuitSystem.others, pending, different]
      rw [same.others] at member
      exact finish _ (.settled later (List.mem_filter.mp member).1)
  | observed _ =>
      rw [same.breaker] at finish ⊢
      exact finish _ (.observed later)

theorem SameBut.followRun {events : List CircuitEvent} (same : SameBut call left right)
    (run : Run (CircuitStep options) left events left')
    (concerned : ∀ event ∈ events, event.otherThan call = true)
    (later : ∀ event ∈ events, right.clock ≤ event.now) :
    ∃ right', Run (CircuitStep options) right events right' ∧ SameBut call left' right' ∧
      (right'.clock = left'.clock ∨ right'.clock = right.clock) := by
  induction run with
  | refl => exact ⟨right, Run.refl right, same, .inr rfl⟩
  | @snoc middle last events event _ taken ih =>
      obtain ⟨right', earlier, sameMiddle, clocks⟩ :=
        ih (fun event member => concerned event (List.mem_append_left _ member))
          (fun event member => later event (List.mem_append_left _ member))
      have last := List.mem_append_right events (List.mem_singleton_self event)
      have reached : right'.clock ≤ event.now := by
        rcases clocks with level | untouched
        · rw [level]
          exact (clock_step taken).1
        · rw [untouched]
          exact later event last
      obtain ⟨right'', taken', sameLast⟩ := sameMiddle.follow taken (concerned event last) reached
      refine ⟨right'', earlier.snoc taken', sameLast, .inl ?_⟩
      rw [(clock_step taken).2, (clock_step taken').2]

/-- Without the settlements of the late call the run is still a run. -/
theorem SameBut.drop {events : List CircuitEvent} (same : SameBut call left right)
    (level : right.clock ≤ left.clock) (run : Run (CircuitStep options) left events left') :
    ∃ right', Run (CircuitStep options) right (events.filter (CircuitEvent.otherThan call)) right' ∧
      SameBut call left' right' ∧ right'.clock ≤ left'.clock := by
  induction run with
  | refl => exact ⟨right, Run.refl right, same, level⟩
  | @snoc middle last events event _ taken ih =>
      obtain ⟨right', earlier, sameMiddle, behind⟩ := ih
      obtain ⟨later, reading⟩ := clock_step taken
      rw [List.filter_append]
      cases concerned : event.otherThan call with
      | false =>
          refine ⟨right', ?_, sameMiddle.settle_left taken concerned, ?_⟩
          · simpa [concerned] using earlier
          · exact behind.trans (later.trans_eq reading.symm)
      | true =>
          obtain ⟨right'', taken', sameLast⟩ :=
            sameMiddle.follow taken concerned (behind.trans later)
          refine ⟨right'', ?_, sameLast, ?_⟩
          · simpa [concerned] using earlier.snoc taken'
          · rw [reading, (clock_step taken').2]

theorem inFlight_run {events : List CircuitEvent} {pending : CircuitCall}
    (run : Run (CircuitStep options) left events left')
    (concerned : ∀ event ∈ events, event.otherThan pending.id = true)
    (member : pending ∈ left.inFlight) : pending ∈ left'.inFlight := by
  refine (run.restrict _ concerned).invariant (fun state => pending ∈ state.inFlight) member ?_
  rintro state event next held ⟨taken, other⟩
  cases taken with
  | rejected later fresh refused => exact held
  | observed later => exact held
  | admitted later fresh accepted => exact List.mem_cons_of_mem _ held
  | @settled _ settling _ _ later _ =>
      have different : settling ≠ pending.id := by simpa [CircuitEvent.otherThan] using other
      exact mem_finish.mpr ⟨held, different.symm⟩

/-- The late call may settle at any point of a run in which it does not. -/
theorem Outlived.insert {clock now : ℚ} {history earlier later : List CircuitEvent}
    {generation : ℕ} (outlived : Outlived call left)
    (reached : Run (CircuitStep options) (.initial clock) history left)
    (run : Run (CircuitStep options) left (earlier ++ later) left')
    (concerned : ∀ event ∈ earlier ++ later, event.otherThan call = true)
    (pending : ⟨call, generation⟩ ∈ left.inFlight) (begun : left.clock ≤ now)
    (before : ∀ event ∈ earlier, event.now ≤ now) (after : ∀ event ∈ later, now ≤ event.now)
    (outcome : Settlement) :
    ∃ right',
      Run (CircuitStep options) left (earlier ++ .settled now call outcome :: later) right' ∧
        SameBut call left' right' := by
  obtain ⟨middle, upTo, rest⟩ := Run.split earlier later run
  have present : ⟨call, generation⟩ ∈ middle.inFlight :=
    inFlight_run upTo (fun event member => concerned event (List.mem_append_left _ member)) pending
  have outlivedMiddle : Outlived call middle :=
    upTo.invariant _ outlived (fun _ _ _ held taken => held.step taken)
  have settled : CircuitStep options middle (.settled now call outcome) _ :=
    .settled (clock_le_of_events upTo begun before) present
  have same := sameBut_of_outlived (reached.append upTo) outlivedMiddle
  have sameMiddle := (same.settle_left settled (by simp [CircuitEvent.otherThan])).symm
  obtain ⟨right', followed, sameLast, _⟩ := sameMiddle.followRun rest
    (fun event member => concerned event (List.mem_append_right _ member)) after
  exact ⟨right', upTo.append ((Run.single settled).append followed), sameLast⟩

theorem outlived_of_periodEnds {clock now : ℚ} {before between : List CircuitEvent}
    {started admitted pending resolved : CircuitSystem}
    (run : Run (CircuitStep options) (.initial clock) before started)
    (admission : CircuitStep options started (.admitted now call) admitted)
    (waiting : Run (CircuitStep options) admitted between pending)
    (transition : CircuitStep options pending event resolved)
    (ends : PeriodEnds pending.breaker.state resolved.breaker.state) : Outlived call resolved := by
  have captured : Captured call admitted.breaker.generation pending :=
    waiting.invariant _ (captured_of_admitted run admission)
      (fun _ _ _ captured taken => captured.step taken)
  have advanced := generation_lt_of_periodEnds transition ends
  obtain ⟨used, _, held⟩ := captured.step transition
  refine ⟨used, ?_⟩
  intro entry member same
  rw [held entry member same]
  exact captured.bound.trans_lt advanced

/-- A call admitted before the circuit opened, or before a probe resolved, does
not interfere with the circuit afterwards.  The run goes on alike without its
settlement and with any settlement at any other point, and all runs with the
same inputs apart from its settlements have the same decisions and snapshots
and leave the same breaker. -/
theorem late_outcome_isolated (options : CircuitBreakerOptions) {clock now : ℚ} {call : ℕ}
    {before between events : List CircuitEvent} {event : CircuitEvent}
    {started admitted pending resolved last : CircuitSystem}
    (run : Run (CircuitStep options) (.initial clock) before started)
    (admission : CircuitStep options started (.admitted now call) admitted)
    (waiting : Run (CircuitStep options) admitted between pending)
    (transition : CircuitStep options pending event resolved)
    (ends : PeriodEnds pending.breaker.state resolved.breaker.state)
    (continued : Run (CircuitStep options) resolved events last) :
    (∃ last', Run (CircuitStep options) resolved (events.filter (CircuitEvent.otherThan call))
      last' ∧ last'.breaker = last.breaker) ∧
    (∀ generation earlier later t outcome, ⟨call, generation⟩ ∈ resolved.inFlight →
      events.filter (CircuitEvent.otherThan call) = earlier ++ later → resolved.clock ≤ t →
      (∀ event ∈ earlier, event.now ≤ t) → (∀ event ∈ later, t ≤ event.now) →
      ∃ last', Run (CircuitStep options) resolved (earlier ++ .settled t call outcome :: later)
        last' ∧ last'.breaker = last.breaker) ∧
    ∀ events' last', Run (CircuitStep options) resolved events' last' →
      (events'.filter (CircuitEvent.otherThan call)).map CircuitEvent.input =
        (events.filter (CircuitEvent.otherThan call)).map CircuitEvent.input →
      events'.filter (CircuitEvent.otherThan call) = events.filter (CircuitEvent.otherThan call) ∧
        last'.breaker = last.breaker := by
  have outlived := outlived_of_periodEnds run admission waiting transition ends
  have reached := ((run.snoc admission).append waiting).snoc transition
  have same := sameBut_of_outlived reached outlived
  obtain ⟨dropped, without, sameDropped, _⟩ := same.drop le_rfl continued
  refine ⟨⟨dropped, without, sameDropped.breaker.symm⟩, ?_, ?_⟩
  · intro generation earlier later t outcome inFlight split begun beforeIt afterIt
    have concerned : ∀ event ∈ earlier ++ later, event.otherThan call = true := by
      rw [← split]
      intro event member
      exact (List.mem_filter.mp member).2
    rw [split] at without
    obtain ⟨moved, inserted, sameMoved⟩ := outlived.insert reached without concerned inFlight begun
      beforeIt afterIt outcome
    exact ⟨moved, inserted, (sameDropped.breaker.trans sameMoved.breaker).symm⟩
  · intro events' last' other inputs
    rw [← List.forall₂_eq_eq_eq, List.forall₂_map_left_iff, List.forall₂_map_right_iff] at inputs
    have paired := other.pair continued (CircuitEvent.otherThan call) (CircuitEvent.otherThan call)
      (fun event event' => event.input = event'.input) Eq (SameBut call) same
      (fun _ _ _ _ same taken late => same.settle_left taken late)
      (fun _ _ _ _ same taken late => (same.symm.settle_left taken late).symm)
      (fun _ _ _ _ _ _ same taken taken' concerned _ inputs =>
        same.both taken taken' concerned inputs) inputs
    obtain ⟨sameLast, answers⟩ := paired
    rw [List.forall₂_eq_eq_eq] at answers
    exact ⟨answers, sameLast.breaker⟩

/-- The call left in flight by the sample run fails while the probe is in flight,
or succeeds during the cooldown. -/
theorem late_outcome_isolated_sample :
    ∃ last : CircuitSystem,
      Run (CircuitStep sampleOptions) sampleOpened
        [.settled 500 1 .success, .admitted 1002 2] last ∧
      last.breaker = sampleHalfOpen.breaker := by
  have settled := @CircuitStep.settled sampleOptions sampleHalfOpen 1003 1 0 .transient
    (by decide) (by decide)
  have isolated := late_outcome_isolated sampleOptions sample_run_started sample_admits
    (Run.refl sampleClosed) sample_opens (by decide) ((Run.single sample_probes).snoc settled)
  exact isolated.2.1 0 [] [.admitted 1002 2] 500 .success (by decide) rfl (by decide) (by simp)
    (by decide)

/-! ### The cooldown -/

def CircuitEvent.executes : CircuitEvent → Bool
  | .rejected _ _ _ => true
  | .admitted _ _ => true
  | .settled _ _ _ => false
  | .observed _ _ => false

/-- The breaker is open and no call in flight can change it. -/
structure Resting (breaker : CircuitBreaker) (system : CircuitSystem) : Prop where
  same : system.breaker = breaker
  isOpen : breaker.state = .opened
  vacant : ∀ pending ∈ system.inFlight, pending.generation ≠ breaker.generation

theorem resting_of_run {clock : ℚ} {events : List CircuitEvent}
    (run : Run (CircuitStep options) (.initial clock) events system)
    (isOpen : system.breaker.state = .opened) : Resting system.breaker system := by
  obtain ⟨trace, _, invariant⟩ := exists_trace run
  refine ⟨rfl, isOpen, ?_⟩
  intro pending member current
  have admitted := (invariant.tracked.current pending member).mp current
  exact invariant.not_opened member admitted isOpen

/-- Only the admission of a probe, after the cooldown, ends the rest. -/
theorem Resting.step {breaker : CircuitBreaker} (resting : Resting breaker system)
    (taken : CircuitStep options system event next) :
    (Resting breaker next ∧ (∀ now call, event ≠ .admitted now call) ∧
      (event.executes = true → event.now < breaker.openedAt + options.resetTimeoutMs)) ∨
    (∃ now call, event = .admitted now call ∧ breaker.openedAt + options.resetTimeoutMs ≤ now ∧
      next.breaker = { breaker with state := .halfOpen }) := by
  obtain ⟨rfl, isOpen, vacant⟩ := resting
  cases taken with
  | rejected later fresh refused =>
      obtain ⟨_, half | ⟨_, early⟩⟩ := CircuitBreaker.enter_error_iff.mp refused
      · rw [isOpen] at half
        cases half
      · exact .inl ⟨⟨rfl, isOpen, vacant⟩, by simp, fun _ => early⟩
  | observed later => exact .inl ⟨⟨rfl, isOpen, vacant⟩, by simp, by simp [CircuitEvent.executes]⟩
  | settled later pending =>
      have stale := vacant _ pending
      refine .inl ⟨⟨CircuitBreaker.settle_stale stale _, isOpen, ?_⟩, by simp,
        by simp [CircuitEvent.executes]⟩
      intro other member
      exact vacant other (mem_finish.mp member).1
  | @admitted now call breaker later fresh accepted =>
      rcases CircuitBreaker.enter_ok_iff.mp accepted with ⟨closed, _⟩ | ⟨_, elapsed, probe⟩
      · rw [isOpen] at closed
        cases closed
      · exact .inr ⟨now, call, rfl, elapsed, probe⟩

theorem Resting.run {breaker : CircuitBreaker} {last : CircuitSystem} {events : List CircuitEvent}
    (resting : Resting breaker system) (run : Run (CircuitStep options) system events last) :
    (∀ now call, .admitted now call ∈ events →
      breaker.openedAt + options.resetTimeoutMs ≤ now) ∧
    (Resting breaker last ∨
      (breaker.openedAt + options.resetTimeoutMs ≤ last.clock ∧
        ∃ now call, .admitted now call ∈ events)) := by
  refine run.historyInvariant
    (fun history state =>
      (∀ now call, .admitted now call ∈ history →
        breaker.openedAt + options.resetTimeoutMs ≤ now) ∧
      (Resting breaker state ∨
        (breaker.openedAt + options.resetTimeoutMs ≤ state.clock ∧
          ∃ now call, .admitted now call ∈ history)))
    ⟨by simp, .inl resting⟩ ?_
  intro history state event next earlier taken
  obtain ⟨cooled, phase⟩ := earlier
  obtain ⟨later, reading⟩ := clock_step taken
  rcases phase with rests | ⟨elapsed, now, call, probed⟩
  · rcases rests.step taken with ⟨restsOn, silent, _⟩ | ⟨now, call, rfl, elapsed, _⟩
    · refine ⟨?_, .inl restsOn⟩
      intro now call member
      rcases List.mem_append.mp member with old | new
      · exact cooled now call old
      · exact absurd (List.mem_singleton.mp new).symm (silent now call)
    · refine ⟨?_, .inr ⟨elapsed.trans_eq reading.symm, now, call, by simp⟩⟩
      intro now' call' member
      rcases List.mem_append.mp member with old | new
      · exact cooled now' call' old
      · cases List.mem_singleton.mp new
        exact elapsed
  · have elapsedNext := elapsed.trans later
    refine ⟨?_, .inr ⟨elapsedNext.trans_eq reading.symm, now, call,
      List.mem_append_left _ probed⟩⟩
    intro now' call' member
    rcases List.mem_append.mp member with old | new
    · exact cooled now' call' old
    · cases List.mem_singleton.mp new
      exact elapsedNext

/-- A rest in which no operation is invoked ends with the first call of `execute`
that comes after the cooldown, and that call is the probe. -/
theorem Resting.first_execute {breaker : CircuitBreaker} {last : CircuitSystem}
    {events : List CircuitEvent} (resting : Resting breaker system)
    (run : Run (CircuitStep options) system events last)
    (idle : ∀ now call, .admitted now call ∉ events)
    (taken : CircuitStep options last event next) (executes : event.executes = true)
    (elapsed : breaker.openedAt + options.resetTimeoutMs ≤ event.now) :
    (∃ call, event = .admitted event.now call) ∧
      next.breaker = { breaker with state := .halfOpen } := by
  have rests : Resting breaker last := by
    rcases (resting.run run).2 with rests | ⟨_, now, call, probed⟩
    · exact rests
    · exact absurd probed (idle now call)
  rcases rests.step taken with ⟨_, _, early⟩ | ⟨now, call, rfl, _, probe⟩
  · exact absurd (early executes) (not_lt.mpr elapsed)
  · exact ⟨⟨call, rfl⟩, probe⟩

theorem openedAt_of_transient {now : ℚ} {call : ℕ}
    (taken : CircuitStep options system (.settled now call .transient) next)
    (before : system.breaker.state ≠ .opened) (after : next.breaker.state = .opened) :
    next.breaker.openedAt = now := by
  rcases breaker_cases taken with same | ⟨_, _, impossible, _⟩ | ⟨_, _, _, same, settled⟩
  · rw [same] at after
    exact absurd after before
  · cases impossible
  · cases same
    rw [settled] at after ⊢
    cases phase : system.breaker.state with
    | opened => exact absurd phase before
    | halfOpen => rw [CircuitBreaker.settle_halfOpen phase]
    | closed =>
        rw [CircuitBreaker.settle_closed phase] at after ⊢
        dsimp only at after ⊢
        split_ifs at after ⊢
        · rfl
        · rw [phase] at after
          cases after

theorem retryAfterMs_le {clock now : ℚ} {events : List CircuitEvent}
    (run : Run (CircuitStep options) (.initial clock) events system)
    (later : system.clock ≤ now) :
    system.breaker.retryAfterMs options now ≤ options.resetTimeoutMs := by
  obtain ⟨trace, _, invariant⟩ := exists_trace run
  have cooldown : (0 : ℚ) ≤ options.resetTimeoutMs := Nat.cast_nonneg _
  unfold CircuitBreaker.retryAfterMs
  cases phase : system.breaker.state with
  | closed => exact cooldown
  | halfOpen => exact le_rfl
  | opened =>
      have opened := (invariant.openedBefore phase).trans later
      exact max_le cooldown (by linarith)

theorem retryAfterMs_exact {breaker : CircuitBreaker} {now : ℚ} (isOpen : breaker.state = .opened)
    (early : now < breaker.openedAt + options.resetTimeoutMs) :
    now + breaker.retryAfterMs options now = breaker.openedAt + options.resetTimeoutMs := by
  have positive : 0 ≤ options.resetTimeoutMs - (now - breaker.openedAt) := by linarith
  simp only [CircuitBreaker.retryAfterMs, isOpen, max_eq_right positive]
  ring

theorem breaker_of_released {now : ℚ} {call : ℕ}
    (taken : CircuitStep options system (.settled now call .ignored) next)
    (half : system.breaker.state = .halfOpen) (resolved : next.breaker.state ≠ .halfOpen) :
    next.breaker = ⟨.opened, system.breaker.consecutiveFailures, now - options.resetTimeoutMs,
      system.breaker.generation + 1⟩ := by
  rcases breaker_cases taken with same | ⟨_, _, impossible, _⟩ | ⟨_, _, _, same, settled⟩
  · rw [same] at resolved
    exact absurd half resolved
  · cases impossible
  · cases same
    rw [settled, CircuitBreaker.settle_halfOpen half]

structure CooldownContract (options : CircuitBreakerOptions) (history : List CircuitEvent)
    (system : CircuitSystem) : Prop where
  /-- A transient failure opens the circuit for the whole cooldown. -/
  honoured : ∀ (t : ℚ) (call : ℕ) (opened last : CircuitSystem) (later : List CircuitEvent),
    CircuitStep options system (.settled t call .transient) opened →
    system.breaker.state ≠ .opened → opened.breaker.state = .opened →
    Run (CircuitStep options) opened later last →
    ∀ now other, .admitted now other ∈ later → t + options.resetTimeoutMs ≤ now
  bounded : ∀ (now : ℚ) (snapshot : CircuitSnapshot), .observed now snapshot ∈ history →
    0 ≤ snapshot.retryAfterMs ∧ snapshot.retryAfterMs ≤ options.resetTimeoutMs
  /-- The hint of a rejection by an open circuit is the time to the next probe. -/
  exactHint : ∀ (t : ℚ) (call : ℕ) (error : CircuitOpenError) (refused last : CircuitSystem)
      (later : List CircuitEvent),
    CircuitStep options system (.rejected t call error) refused →
    system.breaker.state = .opened →
    Run (CircuitStep options) refused later last →
    (∀ now other, .admitted now other ∈ later → t + error.retryAfterMs ≤ now) ∧
    ∀ event next, CircuitStep options last event next → event.executes = true →
      t + error.retryAfterMs ≤ event.now →
      (∀ earlier ∈ later, earlier.executes = true → earlier.now < t + error.retryAfterMs) →
      (∃ other, event = .admitted event.now other) ∧
        last.breaker.state = .opened ∧ next.breaker.state = .halfOpen
  /-- An abandoned probe is followed by another one. -/
  released : ∀ (t : ℚ) (call : ℕ) (resolved last next : CircuitSystem)
      (later : List CircuitEvent) (event : CircuitEvent),
    CircuitStep options system (.settled t call .ignored) resolved →
    system.breaker.state = .halfOpen → resolved.breaker.state ≠ .halfOpen →
    Run (CircuitStep options) resolved later last →
    (∀ earlier ∈ later, earlier.executes = false) →
    CircuitStep options last event next → event.executes = true →
    (∃ other, event = .admitted event.now other) ∧ next.breaker.state = .halfOpen ∧
      next.breaker.consecutiveFailures = system.breaker.consecutiveFailures

/-- The cooldown is honoured and the retry hint is exact in every run. -/
theorem cooldown_exact (options : CircuitBreakerOptions) {clock : ℚ} {history : List CircuitEvent}
    {system : CircuitSystem} (run : Run (CircuitStep options) (.initial clock) history system) :
    CooldownContract options history system where
  honoured := by
    intro t call opened last later taken before after continued now other member
    have rests := resting_of_run (run.snoc taken) after
    rw [← openedAt_of_transient taken before after]
    exact (rests.run continued).1 now other member
  bounded := by
    intro now snapshot member
    obtain ⟨left, right, rfl⟩ := List.append_of_mem member
    obtain ⟨earlier, _, upTo, taken, _⟩ := run.split_event left right _
    cases taken with
    | observed later => exact ⟨CircuitBreaker.retryAfterMs_nonneg, retryAfterMs_le upTo later⟩
  exactHint := by
    intro t call error refused last later taken isOpen continued
    have rests : Resting system.breaker refused := by
      cases taken with
      | rejected _ _ _ =>
          obtain ⟨_, _, vacant⟩ := resting_of_run run isOpen
          exact ⟨rfl, isOpen, vacant⟩
    have hint : t + error.retryAfterMs =
        system.breaker.openedAt + options.resetTimeoutMs := by
      cases taken with
      | rejected _ _ rejection =>
          obtain ⟨rfl, half | ⟨_, early⟩⟩ := CircuitBreaker.enter_error_iff.mp rejection
          · rw [isOpen] at half
            cases half
          · exact retryAfterMs_exact isOpen early
    rw [hint]
    refine ⟨(rests.run continued).1, ?_⟩
    intro event next following executes elapsed first
    have idle : ∀ now other, .admitted now other ∉ later := by
      intro now other member
      have late := (rests.run continued).1 now other member
      exact absurd (first _ member rfl) (not_lt.mpr late)
    obtain ⟨admitted, probe⟩ := rests.first_execute continued idle following executes elapsed
    refine ⟨admitted, ?_, by rw [probe]⟩
    rcases (rests.run continued).2 with restsOn | ⟨_, now, other, member⟩
    · rw [restsOn.same]
      exact isOpen
    · exact absurd member (idle now other)
  released := by
    intro t call resolved last next later event taken half ended continued quiet following executes
    have breaker := breaker_of_released taken half ended
    have rests := resting_of_run (run.snoc taken) (by rw [breaker])
    have idle : ∀ now other, .admitted now other ∉ later := by
      intro now other member
      have silent := quiet _ member
      cases silent
    have elapsed : resolved.breaker.openedAt + options.resetTimeoutMs ≤ event.now := by
      have reading := (clock_step taken).2
      have passed := (clock_run continued).trans (clock_step following).1
      rw [reading] at passed
      simp only [breaker, sub_add_cancel]
      exact passed
    obtain ⟨admitted, probe⟩ := rests.first_execute continued idle following executes elapsed
    exact ⟨admitted, by rw [probe], by rw [probe, breaker]⟩

theorem cooldown_exact_sample :
    CooldownContract sampleOptions [.admitted 0 0, .admitted 1 1] sampleClosed ∧
      (2 : ℚ) + sampleOptions.resetTimeoutMs ≤ 1002 := by
  have contract := cooldown_exact sampleOptions sample_run_closed
  refine ⟨contract, ?_⟩
  exact contract.honoured 2 0 sampleOpened sampleHalfOpen _ sample_opens (by decide) rfl
    (Run.single sample_probes) 1002 2 (by simp)

end ModelMux.Providers
