/-
Finite runs of a labelled transition relation.

A run lists its events oldest first and grows at the end, so that a history
can be compared with the state it has produced.  The rules below are the only
inductions over runs that the rest of the development needs: invariants,
invariants over the history, splitting at an intermediate state and
simulation by another relation.
-/

import Mathlib.Data.List.Induction
import Mathlib.Data.List.Forall2

namespace ModelMux

variable {State Event : Type}

inductive Run (step : State → Event → State → Prop) : State → List Event → State → Prop
  | refl (state : State) : Run step state [] state
  | snoc {first middle last : State} {events : List Event} {event : Event}
      (before : Run step first events middle) (taken : step middle event last) :
      Run step first (events ++ [event]) last

namespace Run

variable {step : State → Event → State → Prop}

theorem single {first last : State} {event : Event} (taken : step first event last) :
    Run step first [event] last :=
  snoc (refl first) taken

theorem append {first middle last : State} {left right : List Event}
    (before : Run step first left middle) (after : Run step middle right last) :
    Run step first (left ++ right) last := by
  induction after with
  | refl => simpa using before
  | snoc _ taken ih =>
      rw [← List.append_assoc]
      exact snoc ih taken

theorem of_foldlM {next : State → Event → Option State} {first last : State}
    {events : List Event} (computed : events.foldlM next first = some last) :
    Run (fun state event later => next state event = some later) first events last := by
  induction events generalizing first with
  | nil =>
      cases computed
      exact refl _
  | cons event events ih =>
      obtain ⟨middle, taken, rest⟩ := Option.bind_eq_some_iff.mp computed
      exact append (single taken) (ih rest)

theorem last_step {first last : State} {events : List Event} {event : Event}
    (run : Run step first (events ++ [event]) last) :
    ∃ middle, Run step first events middle ∧ step middle event last := by
  generalize whole : events ++ [event] = history at run
  cases run with
  | refl => simp at whole
  | snoc before taken =>
      obtain ⟨sameEvents, sameEvent⟩ := List.append_inj' whole rfl
      cases sameEvent
      subst sameEvents
      exact ⟨_, before, taken⟩

theorem split {first last : State} (left right : List Event)
    (run : Run step first (left ++ right) last) :
    ∃ middle, Run step first left middle ∧ Run step middle right last := by
  induction right using List.reverseRecOn generalizing last with
  | nil => exact ⟨last, by simpa using run, refl last⟩
  | append_singleton right event ih =>
      rw [← List.append_assoc] at run
      obtain ⟨previous, before, taken⟩ := last_step run
      obtain ⟨middle, start, finish⟩ := ih before
      exact ⟨middle, start, snoc finish taken⟩

theorem split_event {first last : State} (left right : List Event) (event : Event)
    (run : Run step first (left ++ event :: right) last) :
    ∃ before after, Run step first left before ∧ step before event after ∧
      Run step after right last := by
  have regrouped : left ++ event :: right = (left ++ [event]) ++ right := by simp
  rw [regrouped] at run
  obtain ⟨after, upTo, finish⟩ := split (left ++ [event]) right run
  obtain ⟨before, start, taken⟩ := last_step upTo
  exact ⟨before, after, start, taken, finish⟩

theorem eq_of_nil {first last : State} (run : Run step first [] last) : last = first := by
  generalize empty : ([] : List Event) = history at run
  cases run with
  | refl => rfl
  | snoc before taken => simp at empty

theorem step_of_single {first last : State} {event : Event} (run : Run step first [event] last) :
    step first event last := by
  obtain ⟨middle, none, taken⟩ := last_step (show Run step first ([] ++ [event]) last from run)
  cases eq_of_nil none
  exact taken

theorem first_step {first last : State} {event : Event} {events : List Event}
    (run : Run step first (event :: events) last) :
    ∃ middle, step first event middle ∧ Run step middle events last := by
  obtain ⟨before, middle, none, taken, finish⟩ := split_event [] events event run
  cases eq_of_nil none
  exact ⟨middle, taken, finish⟩

theorem invariant {first last : State} {events : List Event}
    (run : Run step first events last) (holds : State → Prop) (initially : holds first)
    (preserved : ∀ state event next, holds state → step state event next → holds next) :
    holds last := by
  induction run with
  | refl => exact initially
  | snoc _ taken ih => exact preserved _ _ _ ih taken

/-- The invariant may speak about the events taken so far. -/
theorem historyInvariant {first last : State} {events : List Event}
    (run : Run step first events last) (holds : List Event → State → Prop)
    (initially : holds [] first)
    (preserved : ∀ history state event next,
      holds history state → step state event next → holds (history ++ [event]) next) :
    holds events last := by
  induction run with
  | refl => exact initially
  | snoc _ taken ih => exact preserved _ _ _ _ ih taken

/-- A property that all events have may be assumed of every step. -/
theorem restrict {first last : State} {events : List Event} (run : Run step first events last)
    (allowed : Event → Prop) (all : ∀ event ∈ events, allowed event) :
    Run (fun state event next => step state event next ∧ allowed event) first events last := by
  induction run with
  | refl => exact refl _
  | snoc _ taken ih =>
      have earlier := ih (fun event member => all event (List.mem_append_left _ member))
      exact snoc earlier ⟨taken, all _ (List.mem_append_right _ (List.mem_singleton_self _))⟩

theorem strengthen {step' : State → Event → State → Prop} {first last : State}
    {events : List Event} (run : Run step first events last)
    (matched : ∀ history state event next, Run step first history state →
      step state event next → step' state event next) :
    Run step' first events last := by
  induction run with
  | refl => exact refl _
  | snoc before taken ih => exact snoc ih (matched _ _ _ _ before taken)

/-- A step relation whose steps are matched, under an invariant, by runs of
another one. -/
theorem simulate {State' Event' : Type} {step' : State' → Event' → State' → Prop}
    {first last : State} {events : List Event} (run : Run step first events last)
    (holds : State → Prop) (initially : holds first)
    (preserved : ∀ state event next, holds state → step state event next → holds next)
    (project : State → State') (trace : Event → List Event')
    (matched : ∀ state event next, holds state → step state event next →
      Run step' (project state) (trace event) (project next)) :
    Run step' (project first) (events.flatMap trace) (project last) := by
  induction run with
  | refl => exact refl _
  | snoc before taken ih =>
      have holdsMiddle := before.invariant holds initially preserved
      rw [List.flatMap_append]
      simpa using append ih (matched _ _ _ holdsMiddle taken)

/-! ### Steps of a run -/

/-- A step that a run has taken. -/
def Taken (step : State → Event → State → Prop) (first : State) (events : List Event)
    (last before : State) (event : Event) (after : State) : Prop :=
  ∃ earlier later, events = earlier ++ event :: later ∧ Run step first earlier before ∧
    step before event after ∧ Run step after later last

theorem Taken.append {first last before after next : State} {events more : List Event}
    {event : Event} (taken : Taken step first events last before event after)
    (run : Run step last more next) :
    Taken step first (events ++ more) next before event after := by
  obtain ⟨earlier, later, rfl, start, here, finish⟩ := taken
  exact ⟨earlier, later ++ more, by simp, start, here, finish.append run⟩

theorem Taken.snoc {first last before after next : State} {events : List Event}
    {event added : Event} (taken : Taken step first events last before event after)
    (more : step last added next) :
    Taken step first (events ++ [added]) next before event after :=
  taken.append (single more)

theorem taken_last {first last next : State} {events : List Event} {event : Event}
    (run : Run step first events last) (more : step last event next) :
    Taken step first (events ++ [event]) next last event next :=
  ⟨events, [], rfl, run, more, refl next⟩

/-! ### Ghost state -/

/-- A ghost value is updated from what a step shows and never guards it. -/
def Instrumented {Ghost : Type} (step : State → Event → State → Prop)
    (observe : Ghost → State → Event → State → Ghost) :
    State × Ghost → Event → State × Ghost → Prop :=
  fun before event after =>
    step before.1 event after.1 ∧ after.2 = observe before.2 before.1 event after.1

theorem instrument {Ghost : Type} {first last : State} {events : List Event}
    (run : Run step first events last) (observe : Ghost → State → Event → State → Ghost)
    (ghost : Ghost) :
    ∃ ghost', Run (Instrumented step observe) (first, ghost) events (last, ghost') := by
  induction run with
  | refl => exact ⟨ghost, refl _⟩
  | @snoc middle last events event _ taken ih =>
      obtain ⟨ghost', earlier⟩ := ih
      exact ⟨observe ghost' middle event last, snoc earlier ⟨taken, rfl⟩⟩

/-! ### Two runs -/

private theorem filter_snoc_true {concerns : Event → Bool} {events : List Event} {event : Event}
    (concerned : concerns event = true) :
    (events ++ [event]).filter concerns = events.filter concerns ++ [event] := by
  rw [List.filter_append, List.filter_cons_of_pos concerned, List.filter_nil]

private theorem filter_snoc_false {concerns : Event → Bool} {events : List Event} {event : Event}
    (silent : concerns event = false) :
    (events ++ [event]).filter concerns = events.filter concerns := by
  rw [List.filter_append, List.filter_cons_of_neg (by simp [silent]), List.filter_nil,
    List.append_nil]

private theorem forall₂_snoc {Event' : Type} {matched : Event → Event' → Prop}
    {left : List Event} {right : List Event'} {event : Event} {event' : Event'} :
    List.Forall₂ matched (left ++ [event]) (right ++ [event']) ↔
      List.Forall₂ matched left right ∧ matched event event' := by
  rw [← List.forall₂_reverse_iff, List.reverse_append, List.reverse_append]
  simp only [List.reverse_singleton, List.singleton_append, List.forall₂_cons]
  rw [List.forall₂_reverse_iff, and_comm]

/-- Two runs stay related when the steps that concern only one of them keep the
relation and the others are taken in matching pairs. -/
theorem pair {State' Event' : Type} {step' : State' → Event' → State' → Prop}
    {first last : State} {first' last' : State'} {events : List Event} {events' : List Event'}
    (run : Run step first events last) (run' : Run step' first' events' last')
    (concerns : Event → Bool) (concerns' : Event' → Bool)
    (matched answers : Event → Event' → Prop) (related : State → State' → Prop)
    (initially : related first first')
    (left : ∀ state event next state', related state state' → step state event next →
      concerns event = false → related next state')
    (right : ∀ state state' event' next', related state state' → step' state' event' next' →
      concerns' event' = false → related state next')
    (both : ∀ state event next state' event' next', related state state' →
      step state event next → step' state' event' next' → concerns event = true →
        concerns' event' = true → matched event event' →
          related next next' ∧ answers event event')
    (paired : List.Forall₂ matched (events.filter concerns) (events'.filter concerns')) :
    related last last' ∧
      List.Forall₂ answers (events.filter concerns) (events'.filter concerns') := by
  induction run generalizing events' last' with
  | refl =>
      induction run' with
      | refl => exact ⟨initially, .nil⟩
      | @snoc middle' last' events' event' before' taken' ih' =>
          cases concerned : concerns' event' with
          | true =>
              rw [filter_snoc_true concerned] at paired
              cases List.append_eq_nil_iff.mp (List.forall₂_nil_left_iff.mp paired)
              contradiction
          | false =>
              rw [filter_snoc_false concerned] at paired ⊢
              obtain ⟨held, answered⟩ := ih' paired
              exact ⟨right _ _ _ _ held taken' concerned, answered⟩
  | @snoc middle last events event before taken ih =>
      cases concerned : concerns event with
      | false =>
          rw [filter_snoc_false concerned] at paired ⊢
          obtain ⟨held, answered⟩ := ih run' paired
          exact ⟨left _ _ _ _ held taken concerned, answered⟩
      | true =>
          rw [filter_snoc_true concerned] at paired ⊢
          induction run' with
          | refl =>
              cases List.append_eq_nil_iff.mp (List.forall₂_nil_right_iff.mp paired)
              contradiction
          | @snoc middle' last' events' event' before' taken' ih' =>
              cases concerned' : concerns' event' with
              | false =>
                  rw [filter_snoc_false concerned'] at paired ⊢
                  obtain ⟨held, answered⟩ := ih' paired
                  exact ⟨right _ _ _ _ held taken' concerned', answered⟩
              | true =>
                  rw [filter_snoc_true concerned'] at paired ⊢
                  obtain ⟨earlier, now⟩ := forall₂_snoc.mp paired
                  obtain ⟨held, answered⟩ := ih before' earlier
                  obtain ⟨heldNext, answeredNow⟩ :=
                    both _ _ _ _ _ _ held taken taken' concerned concerned' now
                  exact ⟨heldNext, forall₂_snoc.mpr ⟨answered, answeredNow⟩⟩

end Run

/-! ### Histories -/

theorem split_snoc {history before after : List Event} {last event : Event}
    (split : history ++ [last] = before ++ event :: after) :
    (history = before ∧ last = event ∧ after = []) ∨
      ∃ rest, after = rest ++ [last] ∧ history = before ++ event :: rest := by
  rcases List.eq_nil_or_concat after with rfl | ⟨rest, final, rfl⟩
  · obtain ⟨same, sameEvent⟩ := List.append_inj' split rfl
    exact Or.inl ⟨same, List.singleton_inj.mp sameEvent, rfl⟩
  · rw [List.concat_eq_append, ← List.cons_append, ← List.append_assoc] at split
    obtain ⟨same, sameEvent⟩ := List.append_inj' split rfl
    cases sameEvent
    exact Or.inr ⟨rest, List.concat_eq_append, same⟩

/-- Every event stands in the given relation to the events before it. -/
def Throughout (holds : List Event → Event → Prop) (history : List Event) : Prop :=
  ∀ before event after, history = before ++ event :: after → holds before event

theorem throughout_nil (holds : List Event → Event → Prop) : Throughout holds [] := by
  intro before event after split
  simp at split

theorem Throughout.earlier {holds : List Event → Event → Prop} {history later : List Event}
    (all : Throughout holds (history ++ later)) : Throughout holds history := by
  rintro before event after rfl
  exact all before event (after ++ later) (by simp)

theorem throughout_snoc {holds : List Event → Event → Prop} {history : List Event} {last : Event} :
    Throughout holds (history ++ [last]) ↔ Throughout holds history ∧ holds history last := by
  constructor
  · intro all
    exact ⟨all.earlier, all history last [] rfl⟩
  · rintro ⟨earlier, now⟩ before event after split
    rcases split_snoc split with ⟨rfl, rfl, rfl⟩ | ⟨rest, rfl, rfl⟩
    · exact now
    · exact earlier before event rest rfl

end ModelMux
