/-
What a shutdown of the worker keeps in order.

The calls that are waiting know that no handler can start any more, and those that
have waited that none is running.  A worker that closes the connection has waited for
its loop, so that no consumer can be registered behind its back.
-/

import ModelMux.Queue.DeliveryLog

namespace ModelMux.Queue

variable {Error : Type}

open BrokerEntry (isAbout)

/-! ### Calls that wait -/

structure Quiet (broker : BrokerState Error) : Prop where
  draining : broker.draining = true
  idle : ∀ tag, broker.tasks tag ≠ some .handling

/-- No handler can start, and those that are running are awaited. -/
structure Covered (broker : BrokerState Error) (snapshot : List ℕ) : Prop where
  draining : broker.draining = true
  awaited : ∀ tag, broker.tasks tag = some .handling → tag ∈ snapshot

/-- Once the broker is draining, no handler starts. -/
def DrainsOn (broker next : BrokerState Error) : Prop :=
  broker.draining = true → next.draining = true ∧
    ∀ tag, next.tasks tag = some .handling → broker.tasks tag = some .handling

theorem Quiet.later {broker next : BrokerState Error} (quiet : Quiet broker)
    (later : DrainsOn broker next) : Quiet next :=
  ⟨(later quiet.draining).1, fun tag handling => quiet.idle tag ((later quiet.draining).2 tag handling)⟩

theorem Covered.later {broker next : BrokerState Error} {snapshot : List ℕ}
    (covered : Covered broker snapshot) (later : DrainsOn broker next) : Covered next snapshot :=
  ⟨(later covered.draining).1,
    fun tag handling => covered.awaited tag ((later covered.draining).2 tag handling)⟩

theorem Covered.quiet {broker : BrokerState Error} {snapshot : List ℕ}
    (covered : Covered broker snapshot) (settled : snapshot.all broker.isSettled = true) :
    Quiet broker := by
  refine ⟨covered.draining, fun tag handling => ?_⟩
  have ended := List.all_eq_true.mp settled tag (covered.awaited tag handling)
  simp [BrokerState.isSettled, handling] at ended

def StopPhase.Sound (broker : BrokerState Error) : StopPhase Error → Prop
  | .waiting snapshot => Covered broker snapshot
  | _ => Quiet broker

def ClosePhase.Sound (broker : BrokerState Error) : ClosePhase Error → Prop
  | .stopping inner => inner.Sound broker
  | _ => Quiet broker

def DrainPhase.Sound (broker : BrokerState Error) : DrainPhase Error → Prop
  | .stopping inner => inner.Sound broker
  | .closing _ inner => inner.Sound broker
  | _ => Quiet broker

def BrokerCall.Sound (broker : BrokerState Error) : BrokerCall Error → Prop
  | .stopConsuming phase => phase.Sound broker
  | .close phase => phase.Sound broker

theorem StopPhase.Sound.later {broker next : BrokerState Error} {phase : StopPhase Error}
    (sound : phase.Sound broker) (later : DrainsOn broker next) : phase.Sound next := by
  cases phase with
  | waiting snapshot => exact Covered.later sound later
  | _ => exact Quiet.later sound later

theorem ClosePhase.Sound.later {broker next : BrokerState Error} {phase : ClosePhase Error}
    (sound : phase.Sound broker) (later : DrainsOn broker next) : phase.Sound next := by
  cases phase with
  | stopping inner => exact StopPhase.Sound.later sound later
  | _ => exact Quiet.later sound later

theorem DrainPhase.Sound.later {broker next : BrokerState Error} {phase : DrainPhase Error}
    (sound : phase.Sound broker) (later : DrainsOn broker next) : phase.Sound next := by
  cases phase with
  | stopping inner => exact StopPhase.Sound.later sound later
  | closing pending inner => exact ClosePhase.Sound.later sound later
  | _ => exact Quiet.later sound later

theorem BrokerCall.Sound.later {broker next : BrokerState Error} {call : BrokerCall Error}
    (sound : call.Sound broker) (later : DrainsOn broker next) : call.Sound next := by
  cases call with
  | stopConsuming phase => exact StopPhase.Sound.later sound later
  | close phase => exact ClosePhase.Sound.later sound later

/-! ### What a call does to the broker -/

inductive Effect (broker : BrokerState Error) :
    BrokerState Error → List (BrokerEntry Error) → Prop
  | idle : Effect broker broker []
  | stop (closing : Bool) :
      Effect broker { broker with closing := closing, draining := true } [.stopped]
  | cancel {consumer : ConsumerTag} (tagged : broker.consumerTag = some consumer)
      (quiet : Quiet broker) :
      Effect broker { broker with consumerTag := none } [.cancelled consumer]
  | close (quiet : Quiet broker) : Effect broker broker [.closed]

theorem DrainsOn.refl (broker : BrokerState Error) : DrainsOn broker broker :=
  fun draining => ⟨draining, fun _ handling => handling⟩

theorem Effect.drainsOn {broker next : BrokerState Error} {added : List (BrokerEntry Error)}
    (effect : Effect broker next added) : DrainsOn broker next := by
  intro draining
  cases effect with
  | stop closing => exact ⟨rfl, fun _ handling => handling⟩
  | _ => exact ⟨draining, fun _ handling => handling⟩

theorem LogInvariant.noneRunning {broker : BrokerState Error} {log : List (BrokerEntry Error)}
    (held : LogInvariant broker log) (quiet : Quiet broker) : NoneRunning log := by
  intro tag started
  have about : .started tag ∈ log.filter (isAbout tag) :=
    List.mem_filter.mpr ⟨started, by simp [isAbout, BrokerEntry.tag?]⟩
  obtain ⟨result, returned⟩ := (held.stories tag).handler_returned (quiet.idle tag) about
  exact ⟨result, List.mem_of_mem_filter returned⟩

theorem LogInvariant.effect {broker next : BrokerState Error} {log added : List (BrokerEntry Error)}
    (held : LogInvariant broker log) (effect : Effect broker next added) :
    LogInvariant next (log ++ added) := by
  cases effect with
  | idle =>
      rw [List.append_nil]
      exact held
  | stop closing =>
      have drained : LogInvariant { broker with closing := closing, draining := true } log :=
        held.keep rfl rfl rfl (fun _ => rfl)
      exact drained.other rfl trivial (fun _ => rfl)
  | @cancel consumer tagged quiet =>
      have called : LogInvariant broker (log ++ [.cancelled consumer]) :=
        held.other rfl (held.noneRunning quiet) (by simp)
      exact called.keep rfl rfl rfl id
  | close quiet => exact held.other rfl (held.noneRunning quiet) (by simp)

/-- A call has an effect that is allowed, and knows what it knew. -/
structure Advances {Phase : Type} (sound : BrokerState Error → Phase → Prop)
    (broker : BrokerState Error) (advance : Advance Phase Error) : Prop where
  effect : Effect broker advance.broker advance.added
  sound : sound advance.broker advance.phase

section Calls

variable {broker : BrokerState Error}

theorem stopConsuming_advances (active : ∀ tag, broker.tasks tag = some .handling → tag ∈ broker.active) :
    Advances StopPhase.Sound broker (stopConsuming broker) :=
  ⟨.stop broker.closing, rfl, active⟩

theorem close_advances (active : ∀ tag, broker.tasks tag = some .handling → tag ∈ broker.active) :
    Advances ClosePhase.Sound broker (close broker) :=
  ⟨.stop true, rfl, active⟩

theorem StopPhase.step_advances {phase : StopPhase Error} {answer : Answer Error}
    {advance : Advance (StopPhase Error) Error}
    (stepped : phase.step broker answer = some advance) (sound : phase.Sound broker) :
    Advances StopPhase.Sound broker advance := by
  unfold StopPhase.step at stepped
  split at stepped
  · split_ifs at stepped with settled
    have quiet := Covered.quiet sound settled
    split at stepped
    · rename_i tagged _
      cases stepped
      exact ⟨.cancel tagged quiet, quiet.draining, quiet.idle⟩
    · cases stepped
      exact ⟨.idle, quiet⟩
  · cases stepped
    exact ⟨.idle, sound⟩
  · cases stepped
    exact ⟨.idle, sound⟩
  · cases stepped

theorem closeConnection_advances (quiet : Quiet broker) (pending : Option (BrokerError Error)) :
    Advances ClosePhase.Sound broker (closeConnection broker pending) := by
  refine ⟨?_, quiet⟩
  unfold closeConnection
  cases broker.hasConnection with
  | false => exact .idle
  | true => exact .close quiet

/-- A call that awaits another advances with it. -/
theorem Advances.of_map {Inner Outer : Type} {innerSound : BrokerState Error → Inner → Prop}
    {outerSound : BrokerState Error → Outer → Prop} {wrap : Inner → Outer}
    {stepped : Option (Advance Inner Error)} {advance : Advance Outer Error}
    (mapped : stepped.map (Advance.map wrap) = some advance)
    (inner : ∀ result, stepped = some result → Advances innerSound broker result)
    (wraps : ∀ next phase, innerSound next phase → outerSound next (wrap phase)) :
    Advances outerSound broker advance := by
  obtain ⟨result, same, rfl⟩ := Option.map_eq_some_iff.mp mapped
  exact ⟨(inner result same).effect, wraps _ _ (inner result same).sound⟩

theorem ClosePhase.step_advances {phase : ClosePhase Error} {answer : Answer Error}
    {advance : Advance (ClosePhase Error) Error}
    (stepped : phase.step broker answer = some advance) (sound : phase.Sound broker) :
    Advances ClosePhase.Sound broker advance := by
  unfold ClosePhase.step at stepped
  split at stepped
  · cases stepped
    exact ⟨.idle, sound⟩
  · cases stepped
    exact closeConnection_advances sound _
  · exact .of_map stepped (fun _ inner => StopPhase.step_advances inner sound) (fun _ _ => id)
  · split_ifs at stepped
    cases stepped
    exact closeConnection_advances sound _
  · cases stepped
    exact ⟨.idle, sound⟩
  · cases stepped
    exact ⟨.idle, sound⟩
  · cases stepped

theorem DrainPhase.step_advances {phase : DrainPhase Error} {loop : Option (LoopPhase Error)}
    {answer : Answer Error} {advance : Advance (DrainPhase Error) Error}
    (stepped : phase.step broker loop answer = some advance) (sound : phase.Sound broker)
    (active : ∀ tag, broker.tasks tag = some .handling → tag ∈ broker.active) :
    Advances DrainPhase.Sound broker advance := by
  have closes (pending : Option (BrokerError Error)) :
      Advances DrainPhase.Sound broker ((close broker).map (.closing pending)) :=
    ⟨(close_advances active).effect, (close_advances active).sound⟩
  unfold DrainPhase.step at stepped
  split at stepped
  · cases stepped
    exact ⟨.idle, sound⟩
  · cases stepped
    exact closes _
  · exact .of_map stepped (fun _ inner => StopPhase.step_advances inner sound) (fun _ _ => id)
  · split_ifs at stepped
    cases stepped
    exact closes _
  · cases stepped
    exact ⟨.idle, sound⟩
  · cases stepped
    exact ⟨.idle, sound⟩
  · exact .of_map stepped (fun _ inner => ClosePhase.step_advances inner sound) (fun _ _ => id)
  · cases stepped

theorem BrokerCall.step_advances {call : BrokerCall Error} {answer : Answer Error}
    {advance : Advance (BrokerCall Error) Error}
    (stepped : call.step broker answer = some advance) (sound : call.Sound broker) :
    Advances BrokerCall.Sound broker advance := by
  cases call with
  | stopConsuming phase =>
      exact .of_map stepped (fun _ inner => StopPhase.step_advances inner sound) (fun _ _ => id)
  | close phase =>
      exact .of_map stepped (fun _ inner => ClosePhase.step_advances inner sound) (fun _ _ => id)

end Calls

/-! ### Tasks of a broker that is draining -/

theorem DrainsOn.of_same {broker next : BrokerState Error} (tasks : next.tasks = broker.tasks)
    (draining : next.draining = broker.draining) : DrainsOn broker next := by
  intro drained
  rw [tasks, draining]
  exact ⟨drained, fun _ handling => handling⟩

theorem setTask_drainsOn (broker : BrokerState Error) (tag : ℕ) {phase : TaskPhase Error}
    (moved : phase ≠ .handling) : DrainsOn broker (broker.setTask tag phase) := by
  refine fun draining => ⟨draining, fun other handling => ?_⟩
  by_cases same : other = tag
  · subst same
    simp [BrokerState.setTask, moved] at handling
  · simpa [BrokerState.setTask, same] using handling

theorem deliver_drainsOn {broker next : BrokerState Error} {content : JsString}
    {thrown : Option (Option Error)} {added : List (BrokerEntry Error)}
    (delivered : broker.deliver content thrown = some (next, added)) : DrainsOn broker next := by
  intro draining
  simp only [BrokerState.deliver, draining, if_true] at delivered
  split_ifs at delivered
  cases delivered
  exact ⟨rfl, fun _ handling => handling⟩

theorem handlerReturns_drainsOn {broker next : BrokerState Error} {tag : ℕ}
    {result : Except (Option Error) Action} {added : List (BrokerEntry Error)}
    (returned : broker.handlerReturns tag result = some (next, added)) :
    DrainsOn broker next := by
  unfold BrokerState.handlerReturns at returned
  split at returned
  · cases returned
    exact setTask_drainsOn broker tag (by simp)
  · cases returned

theorem handle_drainsOn {broker next : BrokerState Error} {tag : ℕ}
    {thrown : Option (Option Error)} {added : List (BrokerEntry Error)}
    (handled : broker.handle tag thrown = some (next, added)) : DrainsOn broker next := by
  unfold BrokerState.handle at handled
  split at handled
  · cases handled
    exact setTask_drainsOn broker tag (by simp)
  · cases handled
    exact setTask_drainsOn broker tag (by simp)
  · cases handled
    exact setTask_drainsOn broker tag (by simp)
  · cases handled

theorem settleTask_drainsOn {broker next : BrokerState Error} {tag : ℕ}
    (settled : broker.settleTask tag = some next) : DrainsOn broker next := by
  unfold BrokerState.settleTask at settled
  split at settled
  · cases settled
    exact setTask_drainsOn broker tag (by simp)
  · cases settled

theorem deleteTask_drainsOn {broker next : BrokerState Error} {tag : ℕ}
    (deleted : broker.deleteTask tag = some next) : DrainsOn broker next := by
  unfold BrokerState.deleteTask at deleted
  split_ifs at deleted
  cases deleted
  exact .refl broker

/-! ### Steps that do not concern the deliveries -/

/-- The tasks and the flag that guards them are left alone. -/
structure SameTasks (broker next : BrokerState Error) : Prop where
  tasks : next.tasks = broker.tasks
  arrived : next.arrived = broker.arrived
  active : next.active = broker.active
  draining : next.draining = broker.draining

theorem LogInvariant.sameTasks {broker next : BrokerState Error} {log : List (BrokerEntry Error)}
    (held : LogInvariant broker log) (same : SameTasks broker next) : LogInvariant next log :=
  held.keep same.tasks same.arrived same.active (fun draining => same.draining ▸ draining)

theorem SameTasks.drainsOn {broker next : BrokerState Error} (same : SameTasks broker next) :
    DrainsOn broker next :=
  .of_same same.tasks same.draining

theorem consumerCancelled_sameTasks (broker : BrokerState Error) :
    SameTasks broker broker.consumerCancelled := by
  unfold BrokerState.consumerCancelled
  split_ifs <;> exact ⟨rfl, rfl, rfl, rfl⟩

theorem observeError_sameTasks (broker : BrokerState Error) (error : Error) :
    SameTasks broker (broker.observeError error) := by
  unfold BrokerState.observeError
  split_ifs <;> exact ⟨rfl, rfl, rfl, rfl⟩

theorem observeClose_sameTasks (broker : BrokerState Error) :
    SameTasks broker broker.observeClose := by
  unfold BrokerState.observeClose
  split_ifs <;> exact ⟨rfl, rfl, rfl, rfl⟩

/-- The loop only connects, subscribes and learns the tag of its consumer. -/
theorem LoopPhase.step_sameTasks {broker : BrokerState Error} {aborted : Bool}
    {phase : LoopPhase Error} {answer : LoopAnswer Error}
    {advance : Advance (LoopPhase Error) Error}
    (stepped : phase.step aborted broker answer = some advance) :
    SameTasks broker advance.broker ∧
      (advance.added = [] ∨ ∃ consumer, advance.added = [.registered consumer]) := by
  unfold LoopPhase.step at stepped
  split at stepped
  · rename_i stage
    cases stepped
    cases stage <;> exact ⟨⟨rfl, rfl, rfl, rfl⟩, Or.inl rfl⟩
  · cases stepped
    exact ⟨⟨rfl, rfl, rfl, rfl⟩, Or.inl rfl⟩
  · cases stepped
    unfold LoopPhase.afterConnect
    split_ifs <;> exact ⟨⟨rfl, rfl, rfl, rfl⟩, Or.inl rfl⟩
  · rename_i consumer
    cases stepped
    exact ⟨⟨rfl, rfl, rfl, rfl⟩, Or.inr ⟨consumer, rfl⟩⟩
  all_goals
    cases stepped
    try exact ⟨⟨rfl, rfl, rfl, rfl⟩, Or.inl rfl⟩

/-! ### Whole runs -/

namespace WorkerProcess

structure Invariant (process : WorkerProcess Error) : Prop where
  log : LogInvariant process.broker process.log
  drain : ∀ phase, process.drain = some phase → phase.Sound process.broker
  calls : ∀ call ∈ process.calls, call.Sound process.broker

theorem Invariant.initial (Error : Type) : Invariant (initial Error) where
  log := .initial Error
  drain := by simp [WorkerProcess.initial]
  calls := by simp [WorkerProcess.initial]

variable {process next : WorkerProcess Error}

theorem Invariant.update (held : process.Invariant) {broker : BrokerState Error}
    {added : List (BrokerEntry Error)} (log : LogInvariant broker (process.log ++ added))
    (later : DrainsOn process.broker broker) : (process.update (broker, added)).Invariant where
  log := log
  drain := fun phase drains => (held.drain phase drains).later later
  calls := fun call member => (held.calls call member).later later

theorem Invariant.same (held : process.Invariant) {broker : BrokerState Error}
    (same : SameTasks process.broker broker) : (process.update (broker, [])).Invariant := by
  refine held.update ?_ same.drainsOn
  rw [List.append_nil]
  exact held.log.sameTasks same

theorem Invariant.effect (held : process.Invariant) {broker : BrokerState Error}
    {added : List (BrokerEntry Error)} (effect : Effect process.broker broker added) :
    (process.update (broker, added)).Invariant :=
  held.update (held.log.effect effect) effect.drainsOn

theorem Invariant.loopAnswered (held : process.Invariant) {phase : LoopPhase Error} {aborted : Bool}
    {answer : LoopAnswer Error} {advance : Advance (LoopPhase Error) Error}
    (stepped : phase.step aborted process.broker answer = some advance) :
    (process.update (advance.broker, advance.added)).Invariant := by
  obtain ⟨same, added⟩ := LoopPhase.step_sameTasks stepped
  refine held.update ?_ same.drainsOn
  rcases added with none | ⟨consumer, registered⟩
  · rw [none, List.append_nil]
    exact held.log.sameTasks same
  · rw [registered]
    have called : LogInvariant process.broker (process.log ++ [.registered consumer]) :=
      held.log.other rfl trivial (by simp)
    exact called.sameTasks same

theorem Invariant.close (held : process.Invariant) (stepped : process.step .close = some next) :
    next.Invariant := by
  rw [step] at stepped
  split at stepped
  · cases stepped
    exact held
  · cases stepped
    have advances := stopConsuming_advances held.log.active
    have updated := held.effect advances.effect
    refine ⟨updated.log, ?_, updated.calls⟩
    rintro phase ⟨⟩
    exact advances.sound

theorem Invariant.drainAnswered (held : process.Invariant) {answer : Answer Error}
    (stepped : process.step (.drainAnswered answer) = some next) : next.Invariant := by
  rw [step] at stepped
  split at stepped
  · cases stepped
  · rename_i phase drains
    obtain ⟨advance, advanced, rfl⟩ := Option.map_eq_some_iff.mp stepped
    have advances := DrainPhase.step_advances advanced (held.drain phase drains) held.log.active
    have updated := held.effect advances.effect
    refine ⟨updated.log, ?_, updated.calls⟩
    rintro phase ⟨⟩
    exact advances.sound

theorem Invariant.called (held : process.Invariant) {call : BrokerCall Error}
    {broker : BrokerState Error} {added : List (BrokerEntry Error)}
    (effect : Effect process.broker broker added)
    (sound : call.Sound broker) :
    Invariant { process.update (broker, added) with calls := process.calls ++ [call] } := by
  have updated := held.effect effect
  refine ⟨updated.log, updated.drain, ?_⟩
  intro other member
  rcases List.mem_append.mp member with earlier | now
  · exact updated.calls other earlier
  · rw [List.mem_singleton.mp now]
    exact sound

theorem Invariant.callAnswered (held : process.Invariant) {index : ℕ} {answer : Answer Error}
    (stepped : process.step (.callAnswered index answer) = some next) : next.Invariant := by
  rw [step] at stepped
  split at stepped
  · cases stepped
  · rename_i call here
    obtain ⟨advance, advanced, rfl⟩ := Option.map_eq_some_iff.mp stepped
    have advances := BrokerCall.step_advances advanced (held.calls call (List.mem_of_getElem? here))
    have updated := held.effect advances.effect
    refine ⟨updated.log, updated.drain, ?_⟩
    intro other member
    rcases List.mem_or_eq_of_mem_set member with earlier | rfl
    · exact updated.calls other earlier
    · exact advances.sound

theorem Invariant.step (held : process.Invariant) {input : WorkerInput Error}
    (stepped : process.step input = some next) : next.Invariant := by
  cases input with
  | run =>
      cases stepped
      exact ⟨held.log, held.drain, held.calls⟩
  | close => exact held.close stepped
  | loopAnswered answer =>
      rw [WorkerProcess.step] at stepped
      split at stepped
      · cases stepped
      · obtain ⟨advance, advanced, rfl⟩ := Option.map_eq_some_iff.mp stepped
        have updated := held.loopAnswered advanced
        exact ⟨updated.log, updated.drain, updated.calls⟩
  | drainAnswered answer => exact held.drainAnswered stepped
  | delivered content thrown =>
      obtain ⟨⟨broker, added⟩, delivered, rfl⟩ := Option.map_eq_some_iff.mp stepped
      exact held.update (held.log.deliver delivered) (deliver_drainsOn delivered)
  | handlerReturned tag result =>
      obtain ⟨⟨broker, added⟩, returned, rfl⟩ := Option.map_eq_some_iff.mp stepped
      exact held.update (held.log.handlerReturns returned) (handlerReturns_drainsOn returned)
  | handled tag thrown =>
      obtain ⟨⟨broker, added⟩, handled, rfl⟩ := Option.map_eq_some_iff.mp stepped
      exact held.update (held.log.handle handled) (handle_drainsOn handled)
  | taskSettled tag =>
      obtain ⟨broker, settled, rfl⟩ := Option.map_eq_some_iff.mp stepped
      refine held.update ?_ (settleTask_drainsOn settled)
      rw [List.append_nil]
      exact held.log.settleTask settled
  | taskDeleted tag =>
      obtain ⟨broker, deleted, rfl⟩ := Option.map_eq_some_iff.mp stepped
      refine held.update ?_ (deleteTask_drainsOn deleted)
      rw [List.append_nil]
      exact held.log.deleteTask deleted
  | consumerCancelled =>
      rw [WorkerProcess.step] at stepped
      split_ifs at stepped
      cases stepped
      exact held.same (consumerCancelled_sameTasks _)
  | observedError error =>
      rw [WorkerProcess.step] at stepped
      split_ifs at stepped
      cases stepped
      exact held.same (observeError_sameTasks _ error)
  | observedClose =>
      rw [WorkerProcess.step] at stepped
      split_ifs at stepped
      cases stepped
      exact held.same (observeClose_sameTasks _)
  | stopConsumingCalled =>
      cases stepped
      have advances := stopConsuming_advances held.log.active
      exact held.called advances.effect advances.sound
  | closeCalled =>
      cases stepped
      have advances := close_advances held.log.active
      exact held.called advances.effect advances.sound
  | callAnswered index answer => exact held.callAnswered stepped

end WorkerProcess

/-- The order that a shutdown keeps. -/
structure GracefulDrain (log : List (BrokerEntry Error)) : Prop where
  rules : Throughout MayBeCalled log
  once : ∀ tag, log.countP (BrokerEntry.answers tag) ≤ 1
  thrown : ∀ tag error, .returned tag (.error error) ∈ log →
    ∀ entry ∈ log, entry.answers tag = false
  drained : ∀ before tag content after, log = before ++ .arrived tag content :: after →
    .stopped ∈ before → ∀ entry ∈ log, entry.answers tag = false

theorem LogInvariant.graceful {broker : BrokerState Error} {log : List (BrokerEntry Error)}
    (held : LogInvariant broker log) : GracefulDrain log := by
  have about {tag : ℕ} {entry : BrokerEntry Error} (member : entry ∈ log)
      (tagged : entry.isAbout tag = true) : entry ∈ log.filter (isAbout tag) :=
    List.mem_filter.mpr ⟨member, tagged⟩
  refine ⟨held.rules, ?_, ?_, ?_⟩
  · intro tag
    have counted : log.countP (BrokerEntry.answers tag) =
        (log.filter (isAbout tag)).countP (BrokerEntry.answers tag) := by
      rw [List.countP_filter]
      apply List.countP_congr
      intro entry _
      simp only [Bool.and_eq_true, iff_self_and]
      exact BrokerEntry.isAbout_of_answers
    rw [counted]
    exact (held.stories tag).answered_once
  · intro tag error threw entry member
    by_contra answered
    rw [Bool.not_eq_false] at answered
    have unanswered := (held.stories tag).thrown_unanswered
      (about threw (by simp [isAbout, BrokerEntry.tag?])) entry
      (about member (BrokerEntry.isAbout_of_answers answered))
    rw [answered] at unanswered
    cases unanswered
  · intro before tag content after split stopped entry member
    by_contra answered
    rw [Bool.not_eq_false] at answered
    have tasked := (held.stories tag).answered_task
      (about member (BrokerEntry.isAbout_of_answers answered)) answered
    exact held.undrained tag tasked before content after split stopped

end ModelMux.Queue
