/-
`withProviderDeadline` for any operation.

The promise of the operation races with an abort of the controller, so the operation
may go on after the call has settled.  A step of a call is labelled with its input and
with what the operation emits in it; the deadline and an abort of the parent signal are
inputs of their own and may come at any time.
-/

import ModelMux.Foundation.LabelledRun

namespace ModelMux.Providers

inductive Interrupt where
  | deadline
  | parent
deriving DecidableEq

/-- An operation that goes on from an await with what the await gives, and whose own
promise settles at some phases.  It emits nothing once its signal is aborted. -/
structure DeadlineOperation (Phase Input Emission Value Error : Type) where
  timeoutError : Error
  requestAbortedError : Error
  abortError : Error
  start : Phase
  operate : Option Error → Phase → Input → Option (Phase × Option Emission)
  settled? : Phase → Option (Except Error Value)
  silent : ∀ {reason phase input next emission},
    operate (some reason) phase input = some (next, emission) → emission = none
  rests : ∀ {signal phase input outcome},
    settled? phase = some outcome → operate signal phase input = none

inductive DeadlineInput (Input : Type) where
  | operated (input : Input)
  | deadline
  | parentAborted
  | relayed
  | continued

inductive Outer (Value Error : Type) where
  | awaiting (raced : Option (Except Error Value))
  | settled (outcome : Except Error Value)

/-- `signal` is the reason of the controller's signal once it is aborted; without a
phase the operation has not been started. -/
structure DeadlineCall (Phase Value Error : Type) where
  phase : Option Phase
  signal : Option Error
  outer : Outer Value Error

variable {Phase Input Emission Value Error : Type}

def DeadlineInput.interrupt? : DeadlineInput Input → Option Interrupt
  | .deadline => some .deadline
  | .parentAborted => some .parent
  | _ => none

def DeadlineInput.stops : DeadlineInput Input → Bool
  | .operated _ => false
  | .relayed => false
  | _ => true

def DeadlineOperation.reason (operation : DeadlineOperation Phase Input Emission Value Error) :
    Interrupt → Error
  | .deadline => operation.timeoutError
  | .parent => operation.requestAbortedError

namespace DeadlineCall

variable (operation : DeadlineOperation Phase Input Emission Value Error)

/-- The call is made; a parent signal that is aborted already refuses it. -/
def start (parentAborted : Bool) : DeadlineCall Phase Value Error :=
  if parentAborted then
    { phase := none
      signal := some operation.requestAbortedError
      outer := .settled (.error operation.requestAbortedError) }
  else { phase := some operation.start, signal := none, outer := .awaiting none }

/-- Only the first abort of the controller has an effect, and it wins the race unless
the operation has. -/
def abort (call : DeadlineCall Phase Value Error) (interrupt : Interrupt) :
    DeadlineCall Phase Value Error :=
  match call.outer, call.signal with
  | .awaiting raced, none =>
      { call with
        signal := some (operation.reason interrupt)
        outer := .awaiting (some (raced.getD (.error (operation.reason interrupt)))) }
  | _, _ => call

def outcome (signal : Option Error) (raced : Except Error Value) : Except Error Value :=
  match raced, signal with
  | .ok _, some reason => .error reason
  | raced, _ => raced

def step (call : DeadlineCall Phase Value Error) :
    DeadlineInput Input → Option (DeadlineCall Phase Value Error × Option Emission)
  | .operated input =>
      call.phase.bind (fun phase =>
        (operation.operate call.signal phase input).map (fun stepped =>
          ({ call with phase := some stepped.1 }, stepped.2)))
  | .deadline =>
      match call.outer with
      | .awaiting _ => some (call.abort operation .deadline, none)
      | .settled _ => none
  | .parentAborted => some (call.abort operation .parent, none)
  | .relayed =>
      match call.phase.bind operation.settled?, call.outer with
      | some outcome, .awaiting none =>
          some ({ call with outer := .awaiting (some outcome) }, none)
      | _, _ => none
  | .continued =>
      match call.outer with
      | .awaiting (some raced) =>
          some
            ({ call with
                signal := some (call.signal.getD operation.abortError)
                outer := .settled (outcome call.signal raced) }, none)
      | _ => none

end DeadlineCall

/-- A step with its input and what it emits. -/
def DeadlineStep (operation : DeadlineOperation Phase Input Emission Value Error)
    (call : DeadlineCall Phase Value Error) (label : DeadlineInput Input × Option Emission)
    (next : DeadlineCall Phase Value Error) : Prop :=
  call.step operation label.1 = some (next, label.2)

variable {operation : DeadlineOperation Phase Input Emission Value Error}
  {call next : DeadlineCall Phase Value Error}
  {trace later : List (DeadlineInput Input × Option Emission)}
  {label : DeadlineInput Input × Option Emission} {interrupt : Interrupt}

/-! ### Steps -/

inductive DeadlineChange (operation : DeadlineOperation Phase Input Emission Value Error)
    (call : DeadlineCall Phase Value Error) :
    DeadlineInput Input × Option Emission → DeadlineCall Phase Value Error → Prop
  | aborted {input : DeadlineInput Input} {interrupt : Interrupt}
      {raced : Option (Except Error Value)} (interrupts : input.interrupt? = some interrupt)
      (pending : call.outer = .awaiting raced) (calm : call.signal = none) :
      DeadlineChange operation call (input, none)
        { call with
          signal := some (operation.reason interrupt)
          outer := .awaiting (some (raced.getD (.error (operation.reason interrupt)))) }
  | ignored {input : DeadlineInput Input} {interrupt : Interrupt}
      (interrupts : input.interrupt? = some interrupt)
      (late : call.signal = none → ∃ outcome, call.outer = .settled outcome) :
      DeadlineChange operation call (input, none) call
  | relayed {outcome : Except Error Value}
      (finished : call.phase.bind operation.settled? = some outcome)
      (pending : call.outer = .awaiting none) :
      DeadlineChange operation call (.relayed, none) { call with outer := .awaiting (some outcome) }
  | continued {raced : Except Error Value} (pending : call.outer = .awaiting (some raced)) :
      DeadlineChange operation call (.continued, none)
        { call with
          signal := some (call.signal.getD operation.abortError)
          outer := .settled (DeadlineCall.outcome call.signal raced) }
  | operated {phase next : Phase} {input : Input} {emission : Option Emission}
      (running : call.phase = some phase)
      (went : operation.operate call.signal phase input = some (next, emission)) :
      DeadlineChange operation call (.operated input, emission) { call with phase := some next }

theorem abort_change {input : DeadlineInput Input} (interrupts : input.interrupt? = some interrupt) :
    DeadlineChange operation call (input, none) (call.abort operation interrupt) := by
  unfold DeadlineCall.abort
  split
  · rename_i raced pending calm
    exact .aborted interrupts pending calm
  · rename_i late
    refine .ignored interrupts ?_
    intro calm
    cases outer : call.outer with
    | awaiting raced => exact absurd calm (late raced outer)
    | settled outcome => exact ⟨outcome, rfl⟩

theorem DeadlineStep.change (taken : DeadlineStep operation call label next) :
    DeadlineChange operation call label next := by
  obtain ⟨input, emission⟩ := label
  cases input with
  | operated input =>
      obtain ⟨phase, running, stepped⟩ := Option.bind_eq_some_iff.mp taken
      obtain ⟨result, went, same⟩ := Option.map_eq_some_iff.mp stepped
      cases same
      exact .operated running went
  | deadline =>
      simp only [DeadlineStep, DeadlineCall.step] at taken
      split at taken
      · cases taken
        exact abort_change rfl
      · cases taken
  | parentAborted =>
      cases taken
      exact abort_change rfl
  | relayed =>
      simp only [DeadlineStep, DeadlineCall.step] at taken
      split at taken
      · rename_i outcome finished pending
        cases taken
        exact .relayed finished pending
      · cases taken
  | continued =>
      simp only [DeadlineStep, DeadlineCall.step] at taken
      split at taken
      · rename_i raced pending
        cases taken
        exact .continued pending
      · cases taken

/-- Only the operation emits, and only while the signal is not aborted. -/
theorem DeadlineStep.emits {input : DeadlineInput Input} {emission : Emission}
    (taken : DeadlineStep operation call (input, some emission) next) :
    call.signal = none ∧ input.stops = false := by
  cases taken.change with
  | operated running went =>
      refine ⟨?_, rfl⟩
      cases aborted : call.signal with
      | none => rfl
      | some reason =>
          rw [aborted] at went
          cases operation.silent went

theorem DeadlineStep.settled {outcome : Except Error Value}
    (taken : DeadlineStep operation call label next) (settled : call.outer = .settled outcome) :
    next.outer = .settled outcome := by
  cases taken.change with
  | aborted interrupts pending => cases settled.symm.trans pending
  | ignored => exact settled
  | relayed finished pending => cases settled.symm.trans pending
  | continued pending => cases settled.symm.trans pending
  | operated => exact settled

theorem DeadlineCall.step_continued {raced : Except Error Value}
    (pending : call.outer = .awaiting (some raced)) :
    DeadlineStep operation call (.continued, none)
      { call with
        signal := some (call.signal.getD operation.abortError)
        outer := .settled (outcome call.signal raced) } := by
  simp [DeadlineStep, step, pending]

/-- The parent signal may be aborted at any time and the deadline pass while the call has
not settled. -/
theorem DeadlineCall.interruptible (call : DeadlineCall Phase Value Error) :
    (∃ next, DeadlineStep operation call (.parentAborted, none) next) ∧
      ∀ raced, call.outer = .awaiting raced →
        ∃ next, DeadlineStep operation call (.deadline, none) next := by
  refine ⟨⟨_, rfl⟩, ?_⟩
  intro raced pending
  exact ⟨call.abort operation .deadline, by simp [DeadlineStep, step, pending]⟩

/-! ### Interrupts of a run -/

def Uninterrupted (trace : List (DeadlineInput Input × Option Emission)) : Prop :=
  ∀ label ∈ trace, label.1.interrupt? = none

/-- The first interrupt of all. -/
def FirstOf (interrupt : Interrupt) (trace : List (DeadlineInput Input × Option Emission)) : Prop :=
  ∃ before label after, trace = before ++ label :: after ∧
    label.1.interrupt? = some interrupt ∧ Uninterrupted before

/-- The interrupt comes before every other one and before the result of the operation
has reached the race. -/
def ComesFirst (interrupt : Interrupt) (trace : List (DeadlineInput Input × Option Emission)) :
    Prop :=
  ∃ before label after, trace = before ++ label :: after ∧
    label.1.interrupt? = some interrupt ∧ Uninterrupted before ∧ ∀ other ∈ before, other.1 ≠ .relayed

theorem uninterrupted_snoc :
    Uninterrupted (trace ++ [label]) ↔ Uninterrupted trace ∧ label.1.interrupt? = none := by
  simp only [Uninterrupted, List.forall_mem_append, List.forall_mem_singleton]

theorem FirstOf.snoc (first : FirstOf interrupt trace)
    (label : DeadlineInput Input × Option Emission) : FirstOf interrupt (trace ++ [label]) := by
  obtain ⟨before, own, after, rfl, interrupts, quiet⟩ := first
  exact ⟨before, own, after ++ [label], by simp, interrupts, quiet⟩

theorem ComesFirst.firstOf (first : ComesFirst interrupt trace) : FirstOf interrupt trace := by
  obtain ⟨before, own, after, split, interrupts, quiet, _⟩ := first
  exact ⟨before, own, after, split, interrupts, quiet⟩

theorem comesFirst_snoc :
    ComesFirst interrupt (trace ++ [label]) ↔
      ComesFirst interrupt trace ∨ label.1.interrupt? = some interrupt ∧ Uninterrupted trace ∧
        ∀ other ∈ trace, other.1 ≠ .relayed := by
  constructor
  · rintro ⟨before, own, after, split, interrupts, quiet, unrelayed⟩
    rcases split_snoc split with ⟨rfl, rfl, rfl⟩ | ⟨rest, rfl, rfl⟩
    · exact Or.inr ⟨interrupts, quiet, unrelayed⟩
    · exact Or.inl ⟨before, own, rest, rfl, interrupts, quiet, unrelayed⟩
  · rintro (⟨before, own, after, rfl, interrupts, quiet, unrelayed⟩ | ⟨interrupts, quiet, unrelayed⟩)
    · exact ⟨before, own, after ++ [label], by simp, interrupts, quiet, unrelayed⟩
    · exact ⟨trace, label, [], rfl, interrupts, quiet, unrelayed⟩

theorem FirstOf.interrupted (first : FirstOf interrupt trace) : ¬ Uninterrupted trace := by
  obtain ⟨before, own, after, rfl, interrupts, _⟩ := first
  intro quiet
  cases (quiet own (by simp)).symm.trans interrupts

theorem stops_of_interrupt {input : DeadlineInput Input}
    (interrupts : input.interrupt? = some interrupt) : input.stops = true := by
  cases input <;> first | rfl | cases interrupts

theorem Uninterrupted.of_unstopped (unstopped : ∀ label ∈ trace, label.1.stops = false) :
    Uninterrupted trace := by
  intro label member
  cases interrupts : label.1.interrupt? with
  | none => rfl
  | some interrupt => cases (unstopped label member).symm.trans (stops_of_interrupt interrupts)

def arrivals (trace : List (DeadlineInput Input × Option Emission)) : List Input :=
  trace.filterMap (fun label =>
    match label.1 with
    | .operated input => some input
    | _ => none)

theorem arrivals_operated (input : Input) (emission : Option Emission) :
    arrivals (trace ++ [(.operated input, emission)]) = arrivals trace ++ [input] := by
  simp [arrivals]

theorem arrivals_foreign {input : DeadlineInput Input} (foreign : ∀ own, input ≠ .operated own) :
    arrivals (trace ++ [(input, none)]) = arrivals trace := by
  cases input with
  | operated own => exact absurd rfl (foreign own)
  | deadline | parentAborted | relayed | continued => simp [arrivals]

/-! ### The invariant -/

/-- The result that wins the race is that of the operation or the cause of an abort. -/
def Raced (operation : DeadlineOperation Phase Input Emission Value Error)
    (call : DeadlineCall Phase Value Error) (result : Except Error Value) : Prop :=
  call.phase.bind operation.settled? = some result ∨
    ∃ reason, call.signal = some reason ∧ result = .error reason

def SettledBy (operation : DeadlineOperation Phase Input Emission Value Error)
    (trace : List (DeadlineInput Input × Option Emission)) (outcome : Except Error Value) : Prop :=
  (∀ interrupt, ComesFirst interrupt trace → outcome = .error (operation.reason interrupt)) ∧
    ∀ value, outcome = .ok value → ∃ before after, trace = before ++ (.continued, none) :: after ∧
      Uninterrupted before

/-- How the inputs of a run explain the state of the call. -/
structure DeadlineInvariant (operation : DeadlineOperation Phase Input Emission Value Error)
    (parentAborted : Bool) (trace : List (DeadlineInput Input × Option Emission))
    (call : DeadlineCall Phase Value Error) : Prop where
  calm : call.signal = none → parentAborted = false ∧ ∀ label ∈ trace, label.1.stops = false
  open' : call.signal = none → ∃ raced, call.outer = .awaiting raced
  unraced : call.outer = .awaiting none → call.signal = none ∧ ∀ label ∈ trace, label.1 ≠ .relayed
  decided : ∀ result, call.outer = .awaiting (some result) →
    Raced operation call result ∧
      ∀ interrupt, ComesFirst interrupt trace → result = .error (operation.reason interrupt)
  spent : call.outer ≠ .awaiting none → parentAborted = true ∨ ¬ Uninterrupted trace ∨
    ∃ label ∈ trace, label.1 = .relayed
  unrefused : ∀ raced, call.outer = .awaiting raced → parentAborted = false
  cause : ∀ raced reason, call.outer = .awaiting raced → call.signal = some reason →
    ∃ interrupt, FirstOf interrupt trace ∧ reason = operation.reason interrupt
  settled : ∀ outcome, call.outer = .settled outcome →
    parentAborted = true ∧ outcome = .error operation.requestAbortedError ∨
      parentAborted = false ∧ SettledBy operation trace outcome
  finished : (∃ label ∈ trace, label.1 = .relayed) →
    ∃ outcome, call.phase.bind operation.settled? = some outcome

theorem deadlineInvariant_start (operation : DeadlineOperation Phase Input Emission Value Error)
    (parentAborted : Bool) :
    DeadlineInvariant operation parentAborted [] (.start operation parentAborted) := by
  cases parentAborted with
  | false =>
      exact
        { calm := fun _ => ⟨rfl, by simp⟩
          open' := fun _ => ⟨none, rfl⟩
          unraced := fun _ => ⟨rfl, by simp⟩
          decided := by intro result pending; cases pending
          spent := fun raced => absurd rfl raced
          unrefused := fun _ _ => rfl
          cause := by intro raced reason _ aborted; cases aborted
          settled := by intro outcome settled; cases settled
          finished := by simp }
  | true =>
      exact
        { calm := by intro calm; cases calm
          open' := by intro calm; cases calm
          unraced := by intro pending; cases pending
          decided := by intro result pending; cases pending
          spent := fun _ => Or.inl rfl
          unrefused := by intro raced pending; cases pending
          cause := by intro raced reason pending; cases pending
          settled := by rintro outcome ⟨⟩; exact Or.inl ⟨rfl, rfl⟩
          finished := by simp }

theorem ComesFirst.of_snoc (first : ComesFirst interrupt (trace ++ [label]))
    (calm : label.1.interrupt? = none) : ComesFirst interrupt trace := by
  rcases comesFirst_snoc.mp first with earlier | ⟨interrupts, _⟩
  · exact earlier
  · cases calm.symm.trans interrupts

theorem SettledBy.snoc {outcome : Except Error Value} (settled : SettledBy operation trace outcome)
    (first : ∀ interrupt, ComesFirst interrupt (trace ++ [label]) → ComesFirst interrupt trace) :
    SettledBy operation (trace ++ [label]) outcome := by
  refine ⟨fun interrupt comes => settled.1 interrupt (first interrupt comes), ?_⟩
  intro value resolved
  obtain ⟨before, after, rfl, quiet⟩ := settled.2 value resolved
  exact ⟨before, after ++ [label], by simp, quiet⟩

theorem relayed_snoc (other : label.1 ≠ .relayed)
    (relayed : ∃ member ∈ trace ++ [label], member.1 = .relayed) :
    ∃ member ∈ trace, member.1 = .relayed := by
  obtain ⟨member, present, same⟩ := relayed
  rcases List.mem_append.mp present with old | new
  · exact ⟨member, old, same⟩
  · rw [List.mem_singleton.mp new] at same
    exact absurd same other

namespace DeadlineInvariant

variable {parentAborted : Bool}

theorem not_comesFirst (sound : DeadlineInvariant operation parentAborted trace call)
    (calm : call.signal = none) (interrupt : Interrupt) : ¬ ComesFirst interrupt trace :=
  fun first => first.firstOf.interrupted (.of_unstopped (sound.calm calm).2)

theorem comesFirst_earlier (sound : DeadlineInvariant operation parentAborted trace call)
    (decided : call.outer ≠ .awaiting none) (made : parentAborted = false)
    (first : ComesFirst interrupt (trace ++ [label])) : ComesFirst interrupt trace := by
  rcases comesFirst_snoc.mp first with earlier | ⟨_, quiet, unrelayed⟩
  · exact earlier
  · rcases sound.spent decided with refused | interrupted | ⟨relay, member, same⟩
    · cases made.symm.trans refused
    · exact absurd quiet interrupted
    · exact absurd same (unrelayed relay member)

theorem aborted (sound : DeadlineInvariant operation parentAborted trace call)
    {input : DeadlineInput Input} {raced : Option (Except Error Value)}
    (interrupts : input.interrupt? = some interrupt) (pending : call.outer = .awaiting raced)
    (calm : call.signal = none) :
    DeadlineInvariant operation parentAborted (trace ++ [(input, none)])
      { call with
        signal := some (operation.reason interrupt)
        outer := .awaiting (some (raced.getD (.error (operation.reason interrupt)))) } := by
  obtain ⟨made, unstopped⟩ := sound.calm calm
  have interrupted : ¬ Uninterrupted (trace ++ [(input, (none : Option Emission))]) := by
    rw [uninterrupted_snoc, interrupts]
    simp
  have other : input ≠ .relayed := by
    rintro rfl
    cases interrupts
  refine
    { calm := by intro impossible; cases impossible
      open' := by intro impossible; cases impossible
      unraced := by intro impossible; cases impossible
      decided := ?_
      spent := fun _ => Or.inr (Or.inl interrupted)
      unrefused := fun _ _ => made
      cause := ?_
      settled := by intro outcome impossible; cases impossible
      finished := fun relayed => sound.finished (relayed_snoc other relayed) }
  · rintro result ⟨⟩
    cases raced with
    | none =>
        refine ⟨Or.inr ⟨_, rfl, rfl⟩, ?_⟩
        intro first comes
        rcases comesFirst_snoc.mp comes with earlier | ⟨same, _⟩
        · exact absurd earlier (sound.not_comesFirst calm first)
        · rw [interrupts] at same
          cases same
          rfl
    | some result =>
        obtain ⟨won, _⟩ := sound.decided result pending
        refine ⟨?_, ?_⟩
        · rcases won with own | ⟨reason, impossible, _⟩
          · exact Or.inl own
          · cases calm.symm.trans impossible
        · intro first comes
          have undecided : call.outer ≠ .awaiting none := by simp [pending]
          exact absurd (sound.comesFirst_earlier undecided made comes)
            (sound.not_comesFirst calm first)
  · rintro raced reason _ ⟨⟩
    exact ⟨interrupt, ⟨trace, _, [], rfl, interrupts, .of_unstopped unstopped⟩, rfl⟩

theorem ignored (sound : DeadlineInvariant operation parentAborted trace call)
    {input : DeadlineInput Input} (interrupts : input.interrupt? = some interrupt)
    (late : call.signal = none → ∃ outcome, call.outer = .settled outcome) :
    DeadlineInvariant operation parentAborted (trace ++ [(input, none)]) call := by
  have aborted : call.signal ≠ none := by
    intro calm
    obtain ⟨outcome, settled⟩ := late calm
    obtain ⟨raced, pending⟩ := sound.open' calm
    cases settled.symm.trans pending
  have undecided : call.outer ≠ .awaiting none :=
    fun pending => aborted (sound.unraced pending).1
  have interrupted : ¬ Uninterrupted (trace ++ [(input, (none : Option Emission))]) := by
    rw [uninterrupted_snoc, interrupts]
    simp
  have other : input ≠ .relayed := by
    rintro rfl
    cases interrupts
  refine
    { calm := fun calm => absurd calm aborted
      open' := fun calm => absurd calm aborted
      unraced := fun pending => absurd pending undecided
      decided := ?_
      spent := fun _ => Or.inr (Or.inl interrupted)
      unrefused := sound.unrefused
      cause := ?_
      settled := ?_
      finished := fun relayed => sound.finished (relayed_snoc other relayed) }
  · intro result pending
    obtain ⟨won, first⟩ := sound.decided result pending
    have made := sound.unrefused _ pending
    exact ⟨won, fun interrupt comes =>
      first interrupt (sound.comesFirst_earlier undecided made comes)⟩
  · intro raced reason pending signal
    obtain ⟨interrupt, first, same⟩ := sound.cause raced reason pending signal
    exact ⟨interrupt, first.snoc _, same⟩
  · intro outcome settled
    rcases sound.settled outcome settled with refused | ⟨made, explained⟩
    · exact Or.inl refused
    · exact Or.inr ⟨made,
        explained.snoc (fun _ comes => sound.comesFirst_earlier undecided made comes)⟩

theorem relayed (sound : DeadlineInvariant operation parentAborted trace call)
    {outcome : Except Error Value}
    (finished : call.phase.bind operation.settled? = some outcome)
    (pending : call.outer = .awaiting none) :
    DeadlineInvariant operation parentAborted (trace ++ [(.relayed, none)])
      { call with outer := .awaiting (some outcome) } := by
  obtain ⟨calm, _⟩ := sound.unraced pending
  obtain ⟨made, unstopped⟩ := sound.calm calm
  refine
    { calm := ?_
      open' := fun _ => ⟨some outcome, rfl⟩
      unraced := by intro impossible; cases impossible
      decided := ?_
      spent := fun _ => Or.inr (Or.inr ⟨(.relayed, none), by simp, rfl⟩)
      unrefused := fun _ _ => made
      cause := by intro raced reason _ aborted; cases calm.symm.trans aborted
      settled := by intro outcome impossible; cases impossible
      finished := fun _ => ⟨outcome, finished⟩ }
  · intro _
    refine ⟨made, ?_⟩
    intro label member
    rcases List.mem_append.mp member with old | new
    · exact unstopped label old
    · rw [List.mem_singleton.mp new]
      rfl
  · rintro result ⟨⟩
    exact ⟨Or.inl finished, fun interrupt comes =>
      absurd (comes.of_snoc rfl) (sound.not_comesFirst calm interrupt)⟩

theorem outcome_error {signal : Option Error} {error : Error} :
    DeadlineCall.outcome signal (.error error : Except Error Value) = .error error := rfl

theorem outcome_ok {signal : Option Error} {raced : Except Error Value} {value : Value}
    (resolves : DeadlineCall.outcome signal raced = .ok value) :
    signal = none ∧ raced = .ok value := by
  cases raced with
  | error error => cases resolves
  | ok own =>
      cases signal with
      | some reason => cases resolves
      | none => exact ⟨rfl, resolves⟩

theorem continued (sound : DeadlineInvariant operation parentAborted trace call)
    {raced : Except Error Value} (pending : call.outer = .awaiting (some raced)) :
    DeadlineInvariant operation parentAborted (trace ++ [(.continued, none)])
      { call with
        signal := some (call.signal.getD operation.abortError)
        outer := .settled (DeadlineCall.outcome call.signal raced) } := by
  have made := sound.unrefused _ pending
  obtain ⟨_, first⟩ := sound.decided raced pending
  have undecided : call.outer ≠ .awaiting none := by simp [pending]
  refine
    { calm := by intro impossible; cases impossible
      open' := by intro impossible; cases impossible
      unraced := by intro impossible; cases impossible
      decided := by intro result impossible; cases impossible
      spent := ?_
      unrefused := by intro raced impossible; cases impossible
      cause := by intro raced reason impossible; cases impossible
      settled := ?_
      finished := fun relayed => sound.finished (relayed_snoc (by simp) relayed) }
  · intro _
    rcases sound.spent undecided with refused | interrupted | ⟨relay, member, same⟩
    · exact Or.inl refused
    · exact Or.inr (Or.inl (fun quiet => interrupted (uninterrupted_snoc.mp quiet).1))
    · exact Or.inr (Or.inr ⟨relay, List.mem_append_left _ member, same⟩)
  · rintro outcome ⟨⟩
    refine Or.inr ⟨made, ?_, ?_⟩
    · intro interrupt comes
      rw [first interrupt (comes.of_snoc rfl), outcome_error]
    · intro value resolved
      obtain ⟨calm, _⟩ := outcome_ok resolved
      exact ⟨trace, [], rfl, .of_unstopped (sound.calm calm).2⟩

theorem operated (sound : DeadlineInvariant operation parentAborted trace call)
    {phase next : Phase} {input : Input} {emission : Option Emission}
    (running : call.phase = some phase)
    (went : operation.operate call.signal phase input = some (next, emission)) :
    DeadlineInvariant operation parentAborted (trace ++ [(.operated input, emission)])
      { call with phase := some next } := by
  have unfinished : ∀ outcome, call.phase.bind operation.settled? ≠ some outcome := by
    intro outcome finished
    rw [running, Option.bind_some] at finished
    rw [operation.rests finished] at went
    cases went
  refine
    { calm := ?_
      open' := sound.open'
      unraced := ?_
      decided := ?_
      spent := ?_
      unrefused := sound.unrefused
      cause := ?_
      settled := ?_
      finished := ?_ }
  · intro calm
    obtain ⟨made, unstopped⟩ := sound.calm calm
    refine ⟨made, ?_⟩
    intro label member
    rcases List.mem_append.mp member with old | new
    · exact unstopped label old
    · rw [List.mem_singleton.mp new]
      rfl
  · intro pending
    obtain ⟨calm, unrelayed⟩ := sound.unraced pending
    refine ⟨calm, ?_⟩
    intro label member
    rcases List.mem_append.mp member with old | new
    · exact unrelayed label old
    · rw [List.mem_singleton.mp new]
      simp
  · intro result pending
    obtain ⟨won, first⟩ := sound.decided result pending
    refine ⟨?_, fun interrupt comes => first interrupt (comes.of_snoc rfl)⟩
    rcases won with finished | aborted
    · exact absurd finished (unfinished result)
    · exact Or.inr aborted
  · intro undecided
    rcases sound.spent undecided with refused | interrupted | ⟨relay, member, same⟩
    · exact Or.inl refused
    · exact Or.inr (Or.inl (fun quiet => interrupted (uninterrupted_snoc.mp quiet).1))
    · exact Or.inr (Or.inr ⟨relay, List.mem_append_left _ member, same⟩)
  · intro raced reason pending aborted
    obtain ⟨interrupt, first, same⟩ := sound.cause raced reason pending aborted
    exact ⟨interrupt, first.snoc _, same⟩
  · intro outcome settled
    rcases sound.settled outcome settled with refused | ⟨made, explained⟩
    · exact Or.inl refused
    · exact Or.inr ⟨made, explained.snoc (fun _ comes => comes.of_snoc rfl)⟩
  · intro relayed
    obtain ⟨outcome, finished⟩ := sound.finished (relayed_snoc (by simp) relayed)
    exact absurd finished (unfinished outcome)

theorem step (sound : DeadlineInvariant operation parentAborted trace call)
    (taken : DeadlineStep operation call label next) :
    DeadlineInvariant operation parentAborted (trace ++ [label]) next := by
  cases taken.change with
  | aborted interrupts pending calm => exact sound.aborted interrupts pending calm
  | ignored interrupts late => exact sound.ignored interrupts late
  | relayed finished pending => exact sound.relayed finished pending
  | continued pending => exact sound.continued pending
  | operated running went => exact sound.operated running went

end DeadlineInvariant

/-! ### Runs -/

/-- The steps of a call for given inputs, with what they emit. -/
def DeadlineCall.replay (operation : DeadlineOperation Phase Input Emission Value Error)
    (call : DeadlineCall Phase Value Error) :
    List (DeadlineInput Input) →
      Option (List (DeadlineInput Input × Option Emission) × DeadlineCall Phase Value Error)
  | [] => some ([], call)
  | input :: inputs =>
      (call.step operation input).bind (fun stepped =>
        (stepped.1.replay operation inputs).map (fun rest =>
          ((input, stepped.2) :: rest.1, rest.2)))

theorem run_replay {inputs : List (DeadlineInput Input)}
    (traced : call.replay operation inputs = some (trace, next)) :
    Run (DeadlineStep operation) call trace next := by
  induction inputs generalizing call trace with
  | nil =>
      cases traced
      exact .refl _
  | cons input inputs ih =>
      obtain ⟨⟨middle, emission⟩, stepped, rest⟩ := Option.bind_eq_some_iff.mp traced
      obtain ⟨⟨later, last⟩, run, same⟩ := Option.map_eq_some_iff.mp rest
      cases same
      have taken : DeadlineStep operation call (input, emission) middle := stepped
      exact (Run.single taken).append (ih run)

theorem run_deadlineInvariant {parentAborted : Bool}
    (run : Run (DeadlineStep operation) (.start operation parentAborted) trace call) :
    DeadlineInvariant operation parentAborted trace call :=
  run.historyInvariant (DeadlineInvariant operation parentAborted)
    (deadlineInvariant_start operation parentAborted) (fun _ _ _ _ sound taken => sound.step taken)

/-- A property of the operation holds throughout a call when its own steps keep it and
an abort of its signal does not take it away. -/
theorem run_phase {parentAborted : Bool}
    (run : Run (DeadlineStep operation) (.start operation parentAborted) trace call)
    (holds : Option Error → List (DeadlineInput Input × Option Emission) → Phase → Prop)
    (starts : holds none [] operation.start)
    (operates : ∀ signal trace phase input next emission, holds signal trace phase →
      operation.operate signal phase input = some (next, emission) →
        holds signal (trace ++ [(.operated input, emission)]) next)
    (stays : ∀ signal later trace phase input, holds signal trace phase →
      (signal ≠ none → later = signal) → (∀ own, input ≠ .operated own) →
        holds later (trace ++ [(input, none)]) phase) :
    ∀ phase, call.phase = some phase → holds call.signal trace phase := by
  apply run.historyInvariant (fun trace call =>
    ∀ phase, call.phase = some phase → holds call.signal trace phase)
  · intro phase running
    cases parentAborted with
    | true => cases running
    | false =>
        cases running
        exact starts
  · intro history call label next held taken
    cases taken.change with
    | @aborted input _ _ interrupts _ calm =>
        intro phase running
        refine stays _ _ _ _ _ (held phase running) (fun aborted => absurd calm aborted) ?_
        rintro own rfl
        cases interrupts
    | @ignored input _ interrupts =>
        intro phase running
        refine stays _ _ _ _ _ (held phase running) (fun _ => rfl) ?_
        rintro own rfl
        cases interrupts
    | relayed =>
        intro phase running
        exact stays _ _ _ _ _ (held phase running) (fun _ => rfl) (by simp)
    | continued =>
        intro phase running
        refine stays _ _ _ _ _ (held phase running) ?_ (by simp)
        intro aborted
        obtain ⟨reason, same⟩ := Option.ne_none_iff_exists'.mp aborted
        rw [same, Option.getD_some]
    | operated before went =>
        rintro phase ⟨⟩
        exact operates _ _ _ _ _ _ (held _ before) went

theorem run_running (run : Run (DeadlineStep operation) (.start operation false) trace call) :
    ∃ phase, call.phase = some phase := by
  apply run.invariant (fun call => ∃ phase, call.phase = some phase) ⟨_, rfl⟩
  intro call label next started taken
  cases taken.change with
  | aborted | ignored | relayed | continued => exact started
  | operated => exact ⟨_, rfl⟩

theorem run_refused (run : Run (DeadlineStep operation) (.start operation true) trace call) :
    call.outer = .settled (.error operation.requestAbortedError) :=
  run.invariant (fun call => call.outer = .settled (.error operation.requestAbortedError)) rfl
    (fun _ _ _ settled taken => taken.settled settled)

/-- Nothing is emitted after an interrupt or after the call has settled. -/
theorem run_silent {parentAborted : Bool}
    (run : Run (DeadlineStep operation) (.start operation parentAborted) trace call)
    {before after : List (DeadlineInput Input × Option Emission)} {input : DeadlineInput Input}
    {emission : Emission} (split : trace = before ++ (input, some emission) :: after) :
    parentAborted = false ∧ ∀ label ∈ before ++ [(input, some emission)], label.1.stops = false := by
  subst split
  obtain ⟨middle, next, upTo, taken, _⟩ := run.split_event _ _ _
  obtain ⟨calm, quiet⟩ := taken.emits
  obtain ⟨made, unstopped⟩ := (run_deadlineInvariant upTo).calm calm
  refine ⟨made, ?_⟩
  intro label member
  rcases List.mem_append.mp member with old | new
  · exact unstopped label old
  · rw [List.mem_singleton.mp new]
    exact quiet

theorem comesFirst_of_running {before after : List (DeadlineInput Input × Option Emission)}
    {middle : DeadlineCall Phase Value Error}
    (run : Run (DeadlineStep operation) (.start operation false) before middle)
    (running : middle.phase.bind operation.settled? = none)
    (interrupts : label.1.interrupt? = some interrupt) (quiet : Uninterrupted before) :
    ComesFirst interrupt (before ++ label :: after) := by
  refine ⟨before, label, after, rfl, interrupts, quiet, ?_⟩
  intro other member same
  obtain ⟨outcome, finished⟩ := (run_deadlineInvariant run).finished ⟨other, member, same⟩
  cases running.symm.trans finished

/-- The interrupt that comes first decides the outcome of the call. -/
theorem run_rejects (run : Run (DeadlineStep operation) (.start operation false) trace call)
    (first : ComesFirst interrupt trace) :
    call.outer = .settled (.error (operation.reason interrupt)) ∨
      ∃ next, DeadlineStep operation call (.continued, none) next ∧
        next.outer = .settled (.error (operation.reason interrupt)) := by
  have sound := run_deadlineInvariant run
  cases outer : call.outer with
  | settled outcome =>
      rcases sound.settled outcome outer with ⟨refused, _⟩ | ⟨_, explained⟩
      · cases refused
      · rw [explained.1 interrupt first]
        exact Or.inl rfl
  | awaiting raced =>
      cases raced with
      | none => exact absurd first (sound.not_comesFirst (sound.unraced outer).1 interrupt)
      | some result =>
          have cause := (sound.decided result outer).2 interrupt first
          subst cause
          exact Or.inr ⟨_, DeadlineCall.step_continued outer, rfl⟩

/-- The call resolves only if nothing has interrupted it before it settled. -/
theorem run_resolves {parentAborted : Bool} {value : Value}
    (run : Run (DeadlineStep operation) (.start operation parentAborted) trace call)
    (resolved : call.outer = .settled (.ok value)) :
    parentAborted = false ∧ ∃ before after, trace = before ++ (.continued, none) :: after ∧
      Uninterrupted before := by
  rcases (run_deadlineInvariant run).settled _ resolved with ⟨_, impossible⟩ | ⟨made, explained⟩
  · cases impossible
  · exact ⟨made, explained.2 value rfl⟩

theorem run_settled {outcome : Except Error Value} {last : DeadlineCall Phase Value Error}
    (run : Run (DeadlineStep operation) call later last) (settled : call.outer = .settled outcome) :
    last.outer = .settled outcome :=
  run.invariant (fun call => call.outer = .settled outcome) settled
    (fun _ _ _ settled taken => taken.settled settled)

end ModelMux.Providers
