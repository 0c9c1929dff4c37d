/-
The consumer of a worker that shuts down.

The stop signal is checked between `connect` and `consume`, so that after `close`
has been called a consumer can only come from a call of `consume` that is pending.
The worker awaits its loop before it closes the connection, and a cancellation that
fails tells that the consumer has been registered already.
-/

import ModelMux.Queue.BrokerDrain

namespace ModelMux.Queue

variable {Error : Type}

/-! ### Entries about consumers -/

def BrokerEntry.isConsumer : BrokerEntry Error → Bool
  | .registered _ => true
  | .cancelled _ => true
  | .closed => true
  | _ => false

/-- The connection is closed when every consumer has been cancelled, and none is
registered after that. -/
def ConsumerOrder (before : List (BrokerEntry Error)) : BrokerEntry Error → Prop
  | .closed => ∀ consumer, .registered consumer ∈ before → .cancelled consumer ∈ before
  | .registered _ => .closed ∉ before
  | _ => True

theorem consumerOrder_of_silent {before : List (BrokerEntry Error)} {entry : BrokerEntry Error}
    (silent : entry.isConsumer = false) : ConsumerOrder before entry := by
  cases entry with
  | registered consumer => cases silent
  | closed => cases silent
  | _ => trivial

theorem throughout_silent {log added : List (BrokerEntry Error)}
    (order : Throughout ConsumerOrder log) (silent : ∀ entry ∈ added, entry.isConsumer = false) :
    Throughout ConsumerOrder (log ++ added) := by
  induction added using List.reverseRecOn with
  | nil => simpa using order
  | append_singleton added entry ih =>
      rw [← List.append_assoc]
      exact throughout_snoc.mpr
        ⟨ih (fun earlier member => silent earlier (List.mem_append_left _ member)),
          consumerOrder_of_silent (silent entry (by simp))⟩

theorem mem_append_silent {log added : List (BrokerEntry Error)}
    (silent : ∀ entry ∈ added, entry.isConsumer = false) {entry : BrokerEntry Error}
    (consumer : entry.isConsumer = true) : entry ∈ log ++ added ↔ entry ∈ log := by
  rw [List.mem_append]
  refine ⟨fun member => ?_, Or.inl⟩
  rcases member with earlier | now
  · exact earlier
  · simp [silent entry now] at consumer

/-! ### Phases -/

def isPastConsume : Option (LoopPhase Error) → Bool
  | none => false
  | some (.connecting _) => false
  | some .connected => false
  | some .consuming => false
  | some _ => true

def StopPhase.hasCancelled : StopPhase Error → Bool
  | .waiting _ => false
  | .cancelling => true
  | .finished (.ok ()) => false
  | .finished (.error _) => true

def ClosePhase.hasStopped : ClosePhase Error → Bool
  | .stopping (.waiting _) => false
  | _ => true

namespace DrainPhase

def hasCancelled : DrainPhase Error → Bool
  | .stopping inner => inner.hasCancelled
  | _ => false

def isAlone : DrainPhase Error → Bool
  | .stopping _ => false
  | .joining joined => !joined
  | _ => true

def hasStopped : DrainPhase Error → Bool
  | .closing _ inner => inner.hasStopped
  | .finished _ => true
  | _ => false

/-- What a shutdown knows of the loop and of the consumer. -/
structure Shuts (tag : Option ConsumerTag) (loop : Option (LoopPhase Error))
    (phase : DrainPhase Error) : Prop where
  past : phase.hasCancelled = true → isPastConsume loop = true
  idle : phase.isAlone = true → loop ≠ some .consuming
  untagged : phase.hasStopped = true → tag = none

theorem isAlone_of_hasStopped {phase : DrainPhase Error} (stopped : phase.hasStopped = true) :
    phase.isAlone = true := by
  cases phase with
  | closing pending inner => rfl
  | finished outcome => rfl
  | _ => cases stopped

namespace Shuts

variable {tag later : Option ConsumerTag} {loop next : Option (LoopPhase Error)}
  {phase : DrainPhase Error}

theorem afterLoop (shuts : phase.Shuts tag loop) (idle : next ≠ some .consuming)
    (past : isPastConsume loop = true → isPastConsume next = true) : phase.Shuts tag next :=
  ⟨fun cancelled => past (shuts.past cancelled), fun _ => idle, shuts.untagged⟩

/-- A shutdown that has awaited the loop does not see it register a consumer. -/
theorem registered (shuts : phase.Shuts tag (some .consuming)) :
    phase.Shuts later (some .consumed) :=
  ⟨fun _ => rfl, by simp,
    fun stopped => absurd rfl (shuts.idle (isAlone_of_hasStopped stopped))⟩

theorem stopping {inner : StopPhase Error}
    (past : inner.hasCancelled = true → isPastConsume loop = true) :
    DrainPhase.Shuts tag loop (.stopping inner) :=
  ⟨past, by simp [isAlone], by simp [hasStopped]⟩

theorem closing {inner : ClosePhase Error} {pending : Option (BrokerError Error)}
    (idle : loop ≠ some .consuming) (untagged : inner.hasStopped = true → tag = none) :
    DrainPhase.Shuts tag loop (.closing pending inner) :=
  ⟨by simp [hasCancelled], fun _ => idle, untagged⟩

theorem finished {outcome : Except (BrokerError Error) Unit}
    (shuts : phase.Shuts tag loop) (stopped : phase.hasStopped = true) :
    DrainPhase.Shuts tag loop (.finished outcome) :=
  ⟨by simp [hasCancelled], fun _ => shuts.idle (isAlone_of_hasStopped stopped),
    fun _ => shuts.untagged stopped⟩

theorem cleared (shuts : phase.Shuts tag loop) : phase.Shuts none loop :=
  ⟨shuts.past, shuts.idle, fun _ => rfl⟩

end Shuts

end DrainPhase

/-! ### Steps of the loop -/

inductive LoopChange (aborted : Bool) (broker : BrokerState Error) :
    LoopPhase Error → Advance (LoopPhase Error) Error → Prop
  | registers (consumer : ConsumerTag) :
      LoopChange aborted broker .consuming
        ⟨.consumed, { broker with consumerTag := some consumer }, [.registered consumer]⟩
  | subscribes (running : aborted = false) (channel : broker.hasConsumer = true) :
      LoopChange aborted broker .connected ⟨.consuming, { broker with subscribed := true }, []⟩
  | other {phase next : LoopPhase Error} {later : BrokerState Error} (idle : next ≠ .consuming)
      (tag : later.consumerTag = broker.consumerTag)
      (channel : broker.hasConsumer = true → later.hasConsumer = true)
      (past : isPastConsume (some phase) = true → isPastConsume (some next) = true) :
      LoopChange aborted broker phase ⟨next, later, []⟩

theorem head_past (aborted : Bool) (broker : BrokerState Error) :
    LoopPhase.head aborted broker ≠ .consuming ∧
      isPastConsume (some (LoopPhase.head aborted broker)) = true := by
  unfold LoopPhase.head
  split_ifs
  · exact ⟨by simp, rfl⟩
  · split <;> exact ⟨by simp, rfl⟩

theorem dispatchHead_past (aborted : Bool) (count : ℕ) :
    (LoopPhase.dispatchHead aborted count : LoopPhase Error) ≠ .consuming ∧
      isPastConsume (some (LoopPhase.dispatchHead aborted count : LoopPhase Error)) = true := by
  unfold LoopPhase.dispatchHead
  split_ifs <;> exact ⟨by simp, rfl⟩

theorem LoopPhase.step_change {broker : BrokerState Error} {aborted : Bool}
    {phase : LoopPhase Error} {answer : LoopAnswer Error}
    {advance : Advance (LoopPhase Error) Error}
    (stepped : phase.step aborted broker answer = some advance) :
    LoopChange aborted broker phase advance := by
  unfold LoopPhase.step at stepped
  split at stepped
  · rename_i stage
    cases stepped
    cases stage with
    | openingConsumer => exact .other (by simp) rfl (fun _ => rfl) (by simp [isPastConsume])
    | _ => exact .other (by simp) rfl id (by simp [isPastConsume])
  · cases stepped
    exact .other (by simp) rfl id (fun _ => rfl)
  · cases stepped
    unfold LoopPhase.afterConnect
    split_ifs with stopped channel
    · exact .other (by simp) rfl id (fun _ => rfl)
    · exact .subscribes (by simpa using stopped) channel
    · exact .other (by simp) rfl id (fun _ => rfl)
  · cases stepped
    exact .registers _
  · cases stepped
    exact .other (by simp) rfl id (fun _ => rfl)
  · cases stepped
    exact .other (head_past _ _).1 rfl id (fun _ => (head_past _ _).2)
  · cases stepped
    exact .other (dispatchHead_past _ _).1 rfl id (fun _ => (dispatchHead_past _ _).2)
  · cases stepped
    exact .other (by simp) rfl id (fun _ => rfl)
  · cases stepped
    exact .other (dispatchHead_past _ _).1 rfl id (fun _ => (dispatchHead_past _ _).2)
  · cases stepped
    exact .other (by simp) rfl id (fun _ => rfl)
  · cases stepped
    exact .other (by simp) rfl id (fun _ => rfl)
  · cases stepped
    exact .other (head_past _ _).1 rfl id (fun _ => (head_past _ _).2)
  · cases stepped
    split_ifs
    · exact .other (head_past _ _).1 rfl id (fun _ => (head_past _ _).2)
    · exact .other (by simp) rfl id (fun _ => rfl)
  · cases stepped

/-! ### Steps of the shutdown -/

inductive StopChange (broker : BrokerState Error) :
    StopPhase Error → Advance (StopPhase Error) Error → Prop
  | cancels (snapshot : List ℕ) {consumer : ConsumerTag}
      (tagged : broker.consumerTag = some consumer) :
      StopChange broker (.waiting snapshot)
        ⟨.cancelling, { broker with consumerTag := none }, [.cancelled consumer]⟩
  | returns (snapshot : List ℕ) (untagged : broker.consumerTag = none) :
      StopChange broker (.waiting snapshot) ⟨.finished (.ok ()), broker, []⟩
  | cancelled (outcome : Except (BrokerError Error) Unit) :
      StopChange broker .cancelling ⟨.finished outcome, broker, []⟩

theorem StopPhase.step_change {broker : BrokerState Error} {phase : StopPhase Error}
    {answer : Answer Error} {advance : Advance (StopPhase Error) Error}
    (stepped : phase.step broker answer = some advance)
    (channel : broker.consumerTag ≠ none → broker.hasConsumer = true) :
    StopChange broker phase advance := by
  unfold StopPhase.step at stepped
  split at stepped
  · split_ifs at stepped
    split at stepped
    · rename_i tagged _
      cases stepped
      exact .cancels _ tagged
    · rename_i unfit
      cases stepped
      refine .returns _ ?_
      cases tagged : broker.consumerTag with
      | none => rfl
      | some consumer => exact absurd (channel (by simp [tagged])) (unfit consumer tagged)
  · cases stepped
    exact .cancelled _
  · cases stepped
    exact .cancelled _
  · cases stepped

theorem ClosePhase.step_shuts {broker : BrokerState Error} {phase : ClosePhase Error}
    {answer : Answer Error} {advance : Advance (ClosePhase Error) Error}
    (stepped : phase.step broker answer = some advance)
    (channel : broker.consumerTag ≠ none → broker.hasConsumer = true)
    (untagged : phase.hasStopped = true → broker.consumerTag = none) :
    (advance.phase.hasStopped = true → advance.broker.consumerTag = none) ∧
      (.closed ∈ advance.added → broker.consumerTag = none) := by
  unfold ClosePhase.step at stepped
  split at stepped
  · cases stepped
    exact ⟨fun _ => untagged rfl, by simp⟩
  · cases stepped
    exact ⟨fun _ => untagged rfl, fun _ => untagged rfl⟩
  · rename_i inner _ _
    obtain ⟨result, inside, rfl⟩ := Option.map_eq_some_iff.mp stepped
    cases StopPhase.step_change inside channel with
    | cancels snapshot tagged => exact ⟨fun _ => rfl, by simp [Advance.map]⟩
    | returns snapshot clear => exact ⟨fun _ => clear, by simp [Advance.map]⟩
    | cancelled outcome => exact ⟨fun _ => untagged rfl, by simp [Advance.map]⟩
  · split_ifs at stepped
    cases stepped
    exact ⟨fun _ => untagged rfl, fun _ => untagged rfl⟩
  · cases stepped
    exact ⟨fun _ => untagged rfl, by simp⟩
  · cases stepped
    exact ⟨fun _ => untagged rfl, by simp⟩
  · cases stepped

theorem ne_consuming_of_past {loop : Option (LoopPhase Error)} (past : isPastConsume loop = true) :
    loop ≠ some .consuming := by
  rintro rfl
  cases past

/-- `close` is called when no consumer can be registered any more. -/
theorem shuts_close {broker : BrokerState Error} {loop : Option (LoopPhase Error)}
    (idle : loop ≠ some .consuming) (pending : Option (BrokerError Error)) :
    DrainPhase.Shuts (close broker).broker.consumerTag loop
      (.closing pending (close broker).phase) :=
  .closing idle (by simp [close, stopConsuming, Advance.map, ClosePhase.hasStopped])

theorem DrainPhase.step_shuts {broker : BrokerState Error} {loop : Option (LoopPhase Error)}
    {phase : DrainPhase Error} {answer : Answer Error}
    {advance : Advance (DrainPhase Error) Error}
    (stepped : phase.step broker loop answer = some advance)
    (channel : broker.consumerTag ≠ none → broker.hasConsumer = true)
    (early : isPastConsume loop = false → broker.consumerTag = none)
    (shuts : phase.Shuts broker.consumerTag loop) :
    advance.phase.Shuts advance.broker.consumerTag loop ∧
      (.closed ∈ advance.added → loop ≠ some .consuming ∧ broker.consumerTag = none) := by
  unfold DrainPhase.step at stepped
  split at stepped
  · cases stepped
    refine ⟨⟨by simp [hasCancelled], ?_, by simp [hasStopped]⟩, by simp⟩
    intro alone
    cases loop with
    | none => simp
    | some running => cases alone
  · cases stepped
    exact ⟨shuts_close (ne_consuming_of_past (shuts.past rfl)) _,
      by simp [Advance.map, close, stopConsuming]⟩
  · obtain ⟨result, inside, rfl⟩ := Option.map_eq_some_iff.mp stepped
    cases StopPhase.step_change inside channel with
    | cancels snapshot tagged =>
        refine ⟨.stopping (fun _ => ?_), by simp [Advance.map]⟩
        by_contra unpast
        simp [early (by simpa using unpast)] at tagged
    | returns snapshot clear =>
        exact ⟨.stopping (by simp [StopPhase.hasCancelled]), by simp [Advance.map]⟩
    | cancelled outcome => exact ⟨.stopping (fun _ => shuts.past rfl), by simp [Advance.map]⟩
  · rename_i joined
    split_ifs at stepped with waited
    cases stepped
    refine ⟨shuts_close ?_ _, by simp [Advance.map, close, stopConsuming]⟩
    cases joined with
    | false => exact shuts.idle rfl
    | true =>
        rintro rfl
        cases waited
  · cases stepped
    exact ⟨shuts.finished rfl, by simp⟩
  · cases stepped
    exact ⟨shuts.finished rfl, by simp⟩
  · obtain ⟨result, inside, rfl⟩ := Option.map_eq_some_iff.mp stepped
    obtain ⟨untagged, closes⟩ := ClosePhase.step_shuts inside channel shuts.untagged
    exact ⟨.closing (shuts.idle rfl) untagged, fun closed => ⟨shuts.idle rfl, closes closed⟩⟩
  · cases stepped

/-- How the log explains the consumer of a worker whose broker nobody else calls. -/
structure ConsumerInvariant (process : WorkerProcess Error) : Prop where
  direct : process.calls = []
  order : Throughout ConsumerOrder process.log
  tags : ∀ consumer, .registered consumer ∈ process.log →
    process.broker.consumerTag = some consumer ∨ .cancelled consumer ∈ process.log
  early : isPastConsume process.loop = false →
    process.broker.consumerTag = none ∧ ∀ consumer, .registered consumer ∉ process.log
  channel : process.loop = some .consuming ∨ process.broker.consumerTag ≠ none →
    process.broker.hasConsumer = true
  drains : ∀ phase, process.drain = some phase →
    phase.Shuts process.broker.consumerTag process.loop
  closed : .closed ∈ process.log → process.drain ≠ none ∧ process.loop ≠ some .consuming ∧
    process.broker.consumerTag = none

theorem ConsumerInvariant.initial (Error : Type) : ConsumerInvariant (.initial Error) where
  direct := rfl
  order := throughout_nil _
  tags := by simp [WorkerProcess.initial]
  early := fun _ => ⟨rfl, by simp [WorkerProcess.initial]⟩
  channel := by simp [WorkerProcess.initial, BrokerState.initial]
  drains := by simp [WorkerProcess.initial]
  closed := by simp [WorkerProcess.initial]

namespace ConsumerInvariant

variable {process next : WorkerProcess Error}

theorem silent (held : ConsumerInvariant process) {broker : BrokerState Error}
    {added : List (BrokerEntry Error)} (tag : broker.consumerTag = process.broker.consumerTag)
    (channel : broker.hasConsumer = process.broker.hasConsumer)
    (quiet : ∀ entry ∈ added, entry.isConsumer = false) :
    ConsumerInvariant (process.update (broker, added)) where
  direct := held.direct
  order := throughout_silent held.order quiet
  tags := by
    intro consumer registered
    rw [show (process.update (broker, added)).broker.consumerTag = process.broker.consumerTag
      from tag]
    have earlier := (mem_append_silent quiet rfl).mp registered
    rcases held.tags consumer earlier with kept | cancelled
    · exact Or.inl kept
    · exact Or.inr (List.mem_append_left _ cancelled)
  early := by
    intro early
    refine ⟨tag.trans (held.early early).1, fun consumer registered => ?_⟩
    exact (held.early early).2 consumer ((mem_append_silent quiet rfl).mp registered)
  channel := by
    intro needed
    refine channel.trans (held.channel ?_)
    rcases needed with consuming | tagged
    · exact Or.inl consuming
    · exact Or.inr (tag ▸ tagged)
  drains := by
    intro phase drains
    have shuts := held.drains phase drains
    rw [← tag] at shuts
    exact shuts
  closed := by
    intro closed
    obtain ⟨drained, idle, untagged⟩ := held.closed ((mem_append_silent quiet rfl).mp closed)
    exact ⟨drained, idle, tag.trans untagged⟩

theorem run (held : ConsumerInvariant process) (stepped : process.step .run = some next) :
    ConsumerInvariant next := by
  cases stepped
  cases running : process.loop with
  | some phase =>
      rw [Option.some_or]
      rw [← running]
      exact held
  | none =>
      have early := held.early (by rw [running]; rfl)
      refine ⟨held.direct, held.order, held.tags, fun _ => early, ?_, ?_, ?_⟩
      · rintro (consuming | tagged)
        · simp at consuming
        · exact absurd early.1 tagged
      · intro phase drains
        have shuts := held.drains phase drains
        rw [running] at shuts
        exact shuts.afterLoop (by simp) (fun past => by cases past)
      · intro closed
        obtain ⟨drained, _, untagged⟩ := held.closed closed
        exact ⟨drained, by simp, untagged⟩

theorem redrain (held : ConsumerInvariant process) {phase : DrainPhase Error}
    (shuts : phase.Shuts process.broker.consumerTag process.loop) :
    ConsumerInvariant { process with drain := some phase } where
  direct := held.direct
  order := held.order
  tags := held.tags
  early := held.early
  channel := held.channel
  drains := by
    rintro phase ⟨⟩
    exact shuts
  closed := fun closed => ⟨by simp, (held.closed closed).2⟩

theorem close (held : ConsumerInvariant process) (stepped : process.step .close = some next) :
    ConsumerInvariant next := by
  rw [WorkerProcess.step] at stepped
  split at stepped
  · cases stepped
    exact held
  · cases stepped
    have called : ConsumerInvariant (process.update
        ((stopConsuming process.broker).broker, (stopConsuming process.broker).added)) :=
      held.silent rfl rfl (by simp [stopConsuming, BrokerEntry.isConsumer])
    exact called.redrain (.stopping (by simp [stopConsuming, StopPhase.hasCancelled]))

theorem registers (held : ConsumerInvariant process) (consuming : process.loop = some .consuming)
    (consumer : ConsumerTag) :
    ConsumerInvariant
      { process.update
          ({ process.broker with consumerTag := some consumer }, [.registered consumer]) with
        loop := some .consumed } := by
  obtain ⟨_, unregistered⟩ := held.early (by rw [consuming]; rfl)
  have open_ : .closed ∉ process.log := fun closed => (held.closed closed).2.1 consuming
  refine ⟨held.direct, throughout_snoc.mpr ⟨held.order, open_⟩, ?_, by simp [isPastConsume],
    fun _ => held.channel (Or.inl consuming), ?_, ?_⟩
  · intro other registered
    rcases List.mem_append.mp registered with earlier | now
    · exact absurd earlier (unregistered other)
    · cases List.mem_singleton.mp now
      exact Or.inl rfl
  · intro phase drains
    have shuts := held.drains phase drains
    rw [consuming] at shuts
    exact shuts.registered
  · intro closed
    rcases List.mem_append.mp closed with earlier | now
    · exact absurd earlier open_
    · simp at now

theorem loopAnswered (held : ConsumerInvariant process) {answer : LoopAnswer Error}
    (stepped : process.step (.loopAnswered answer) = some next) : ConsumerInvariant next := by
  rw [WorkerProcess.step] at stepped
  split at stepped
  · cases stepped
  · rename_i phase running
    obtain ⟨advance, advanced, rfl⟩ := Option.map_eq_some_iff.mp stepped
    cases LoopPhase.step_change advanced with
    | registers consumer => exact held.registers running consumer
    | subscribes unaborted channel =>
        have undrained : process.drain = none := by simpa using unaborted
        have early := held.early (by rw [running]; rfl)
        refine ⟨held.direct, ?_, ?_, ?_, fun _ => channel, ?_, ?_⟩
        · simpa [WorkerProcess.update] using held.order
        · simpa [WorkerProcess.update] using held.tags
        · simpa [WorkerProcess.update] using fun _ => early
        · simp [WorkerProcess.update, undrained]
        · intro closed
          rw [WorkerProcess.update, List.append_nil] at closed
          exact absurd undrained (held.closed closed).1
    | @other _ later broker idle tag channel past =>
        refine ⟨held.direct, ?_, ?_, ?_, ?_, ?_, ?_⟩
        · simpa [WorkerProcess.update] using held.order
        · simpa [WorkerProcess.update, tag] using held.tags
        · intro early
          have before : isPastConsume process.loop = false := by
            rw [running]
            by_contra late
            simp [past (by simpa using late)] at early
          simpa [WorkerProcess.update, tag] using held.early before
        · rintro (consuming | tagged)
          · exact absurd (Option.some.inj consuming) idle
          · exact channel (held.channel (Or.inr (tag ▸ tagged)))
        · intro phase drains
          have shuts := held.drains phase drains
          rw [running, ← tag] at shuts
          exact shuts.afterLoop (by simpa using idle) past
        · intro closed
          rw [WorkerProcess.update, List.append_nil] at closed
          exact ⟨(held.closed closed).1, by simpa using idle, tag.trans (held.closed closed).2.2⟩

theorem cancels (held : ConsumerInvariant process) {consumer : ConsumerTag}
    (tagged : process.broker.consumerTag = some consumer) :
    ConsumerInvariant (process.update
      ({ process.broker with consumerTag := none }, [.cancelled consumer])) where
  direct := held.direct
  order := throughout_snoc.mpr ⟨held.order, trivial⟩
  tags := by
    intro other registered
    rcases List.mem_append.mp registered with earlier | now
    · rcases held.tags other earlier with kept | cancelled
      · rw [tagged, Option.some.injEq] at kept
        rw [kept]
        exact Or.inr (by simp [WorkerProcess.update])
      · exact Or.inr (List.mem_append_left _ cancelled)
    · simp at now
  early := by
    intro early
    exact absurd (tagged.symm.trans (held.early early).1) (by simp)
  channel := by
    rintro (consuming | untagged)
    · exact held.channel (Or.inl consuming)
    · exact absurd rfl untagged
  drains := fun phase drains => (held.drains phase drains).cleared
  closed := by
    intro closed
    rcases List.mem_append.mp closed with earlier | now
    · exact ⟨(held.closed earlier).1, (held.closed earlier).2.1, rfl⟩
    · simp at now

theorem closes (held : ConsumerInvariant process) (drained : process.drain ≠ none)
    (idle : process.loop ≠ some .consuming) (untagged : process.broker.consumerTag = none) :
    ConsumerInvariant (process.update (process.broker, [.closed])) where
  direct := held.direct
  order := by
    refine throughout_snoc.mpr ⟨held.order, fun consumer registered => ?_⟩
    rcases held.tags consumer registered with kept | cancelled
    · simp [untagged] at kept
    · exact cancelled
  tags := by
    intro consumer registered
    rcases List.mem_append.mp registered with earlier | now
    · exact (held.tags consumer earlier).imp id (List.mem_append_left _)
    · simp at now
  early := by
    intro early
    refine ⟨untagged, fun consumer registered => ?_⟩
    rcases List.mem_append.mp registered with earlier | now
    · exact (held.early early).2 consumer earlier
    · simp at now
  channel := held.channel
  drains := held.drains
  closed := fun _ => ⟨drained, idle, untagged⟩

theorem effect (held : ConsumerInvariant process) {broker : BrokerState Error}
    {added : List (BrokerEntry Error)} (effect : Effect process.broker broker added)
    (drained : process.drain ≠ none)
    (closes : .closed ∈ added → process.loop ≠ some .consuming ∧
      process.broker.consumerTag = none) :
    ConsumerInvariant (process.update (broker, added)) := by
  cases effect with
  | idle => exact held.silent rfl rfl (by simp)
  | stop closing => exact held.silent rfl rfl (by simp [BrokerEntry.isConsumer])
  | cancel tagged quiet => exact held.cancels tagged
  | close quiet => exact held.closes drained (closes (by simp)).1 (closes (by simp)).2

theorem drainAnswered (held : ConsumerInvariant process) (sound : process.Invariant)
    {answer : Answer Error} (stepped : process.step (.drainAnswered answer) = some next) :
    ConsumerInvariant next := by
  rw [WorkerProcess.step] at stepped
  split at stepped
  · cases stepped
  · rename_i phase drains
    obtain ⟨advance, advanced, rfl⟩ := Option.map_eq_some_iff.mp stepped
    have advances := DrainPhase.step_advances advanced (sound.drain phase drains) sound.log.active
    obtain ⟨shuts, closes⟩ := DrainPhase.step_shuts advanced
      (fun tagged => held.channel (Or.inr tagged)) (fun early => (held.early early).1)
      (held.drains phase drains)
    exact (held.effect advances.effect (by simp [drains]) closes).redrain shuts

end ConsumerInvariant

/-! ### Whole runs -/

structure SameConsumer (broker next : BrokerState Error) (added : List (BrokerEntry Error)) :
    Prop where
  tag : next.consumerTag = broker.consumerTag
  channel : next.hasConsumer = broker.hasConsumer
  silent : ∀ entry ∈ added, entry.isConsumer = false

section Deliveries

variable {broker next : BrokerState Error} {added : List (BrokerEntry Error)} {tag : ℕ}

theorem deliver_sameConsumer {content : JsString} {thrown : Option (Option Error)}
    (delivered : broker.deliver content thrown = some (next, added)) :
    SameConsumer broker next added := by
  unfold BrokerState.deliver at delivered
  split_ifs at delivered
  · cases delivered
    exact ⟨rfl, rfl, by simp [BrokerEntry.isConsumer]⟩
  · split at delivered <;> cases delivered <;>
      exact ⟨rfl, rfl, by simp [BrokerEntry.isConsumer]⟩

theorem handlerReturns_sameConsumer {result : Except (Option Error) Action}
    (returned : broker.handlerReturns tag result = some (next, added)) :
    SameConsumer broker next added := by
  unfold BrokerState.handlerReturns at returned
  split at returned
  · cases returned
    exact ⟨rfl, rfl, by simp [BrokerEntry.isConsumer]⟩
  · cases returned

theorem handle_sameConsumer {thrown : Option (Option Error)}
    (handled : broker.handle tag thrown = some (next, added)) :
    SameConsumer broker next added := by
  unfold BrokerState.handle at handled
  split at handled
  · cases handled
    exact ⟨rfl, rfl, by simp [BrokerEntry.isConsumer]⟩
  · cases handled
    exact ⟨rfl, rfl, by simp [BrokerEntry.isConsumer]⟩
  · cases handled
    exact ⟨rfl, rfl, by simp⟩
  · cases handled

theorem settleTask_sameConsumer (settled : broker.settleTask tag = some next) :
    SameConsumer broker next [] := by
  unfold BrokerState.settleTask at settled
  split at settled
  · cases settled
    exact ⟨rfl, rfl, by simp⟩
  · cases settled

theorem deleteTask_sameConsumer (deleted : broker.deleteTask tag = some next) :
    SameConsumer broker next [] := by
  unfold BrokerState.deleteTask at deleted
  split_ifs at deleted
  cases deleted
  exact ⟨rfl, rfl, by simp⟩

theorem consumerCancelled_sameConsumer (broker : BrokerState Error) :
    SameConsumer broker broker.consumerCancelled [] := by
  unfold BrokerState.consumerCancelled
  split_ifs <;> exact ⟨rfl, rfl, by simp⟩

theorem observeError_sameConsumer (broker : BrokerState Error) (error : Error) :
    SameConsumer broker (broker.observeError error) [] := by
  unfold BrokerState.observeError
  split_ifs <;> exact ⟨rfl, rfl, by simp⟩

theorem observeClose_sameConsumer (broker : BrokerState Error) :
    SameConsumer broker broker.observeClose [] := by
  unfold BrokerState.observeClose
  split_ifs <;> exact ⟨rfl, rfl, by simp⟩

end Deliveries

def WorkerInput.isDirect : WorkerInput Error → Bool
  | .stopConsumingCalled => true
  | .closeCalled => true
  | _ => false

theorem ConsumerInvariant.same {process : WorkerProcess Error} (held : ConsumerInvariant process)
    {broker : BrokerState Error} {added : List (BrokerEntry Error)}
    (same : SameConsumer process.broker broker added) :
    ConsumerInvariant (process.update (broker, added)) :=
  held.silent same.tag same.channel same.silent

theorem ConsumerInvariant.step {process next : WorkerProcess Error} (held : ConsumerInvariant process)
    (sound : process.Invariant) {input : WorkerInput Error} (driven : input.isDirect = false)
    (stepped : process.step input = some next) : ConsumerInvariant next := by
  cases input with
  | run => exact held.run stepped
  | close => exact held.close stepped
  | loopAnswered answer => exact held.loopAnswered stepped
  | drainAnswered answer => exact held.drainAnswered sound stepped
  | delivered content thrown =>
      obtain ⟨⟨broker, added⟩, delivered, rfl⟩ := Option.map_eq_some_iff.mp stepped
      exact held.same (deliver_sameConsumer delivered)
  | handlerReturned tag result =>
      obtain ⟨⟨broker, added⟩, returned, rfl⟩ := Option.map_eq_some_iff.mp stepped
      exact held.same (handlerReturns_sameConsumer returned)
  | handled tag thrown =>
      obtain ⟨⟨broker, added⟩, handled, rfl⟩ := Option.map_eq_some_iff.mp stepped
      exact held.same (handle_sameConsumer handled)
  | taskSettled tag =>
      obtain ⟨broker, settled, rfl⟩ := Option.map_eq_some_iff.mp stepped
      exact held.same (settleTask_sameConsumer settled)
  | taskDeleted tag =>
      obtain ⟨broker, deleted, rfl⟩ := Option.map_eq_some_iff.mp stepped
      exact held.same (deleteTask_sameConsumer deleted)
  | consumerCancelled =>
      rw [WorkerProcess.step] at stepped
      split_ifs at stepped
      cases stepped
      exact held.same (consumerCancelled_sameConsumer _)
  | observedError error =>
      rw [WorkerProcess.step] at stepped
      split_ifs at stepped
      cases stepped
      exact held.same (observeError_sameConsumer _ error)
  | observedClose =>
      rw [WorkerProcess.step] at stepped
      split_ifs at stepped
      cases stepped
      exact held.same (observeClose_sameConsumer _)
  | stopConsumingCalled => cases driven
  | closeCalled => cases driven
  | callAnswered index answer =>
      rw [WorkerProcess.step, held.direct] at stepped
      cases stepped

/-- Every consumer is cancelled before the connection is closed, also one that is
registered while the worker is shutting down. -/
def ConsumersCancelled (log : List (BrokerEntry Error)) : Prop :=
  ∀ before after, log = before ++ .closed :: after →
    ∀ consumer, .registered consumer ∈ log → .cancelled consumer ∈ before

theorem consumersCancelled_of_order {log : List (BrokerEntry Error)}
    (order : Throughout ConsumerOrder log) : ConsumersCancelled log := by
  rintro before after rfl consumer registered
  rcases List.mem_append.mp registered with earlier | later
  · exact order before .closed after rfl consumer earlier
  · have behind : .registered consumer ∈ after := by simpa using later
    obtain ⟨middle, rest, rfl⟩ := List.append_of_mem behind
    have unclosed := order (before ++ .closed :: middle) (.registered consumer) rest (by simp)
    exact absurd (by simp) unclosed

theorem invariant_of_run {inputs : List (WorkerInput Error)} {process : WorkerProcess Error}
    (run : Run (fun process input next => process.step input = some next) (.initial Error)
      inputs process) : process.Invariant :=
  run.invariant WorkerProcess.Invariant (.initial Error) (fun _ _ _ held stepped => held.step stepped)

/-- Handlers, answers, cancellation and close keep their order in every run, with any
calls of the broker; the consumer is cancelled first whenever the worker is the only one
to call the broker. -/
theorem shutdown_graceful {inputs : List (WorkerInput Error)} {process : WorkerProcess Error}
    (run : Run (fun process input next => process.step input = some next) (.initial Error)
      inputs process) :
    GracefulDrain process.log ∧
      ((∀ input ∈ inputs, input.isDirect = false) → ConsumersCancelled process.log) := by
  refine ⟨(invariant_of_run run).log.graceful, fun driven => ?_⟩
  have drivenRun := run.restrict (fun input => input.isDirect = false) driven
  have invariants : process.Invariant ∧ ConsumerInvariant process :=
    drivenRun.invariant (fun process => process.Invariant ∧ ConsumerInvariant process)
      ⟨.initial Error, .initial Error⟩
      (fun _ _ _ held stepped => ⟨held.1.step stepped.1, held.2.step held.1 stepped.2 stepped.1⟩)
  exact consumersCancelled_of_order invariants.2.order

theorem sampleTag_ne : "amq.ctag-1" ≠ "" := by
  decide

/-- The worker is closed while a delivery is handled and its consumer is not registered
yet; a second delivery is left alone. -/
def shutdownInputs : List (WorkerInput Unit) :=
  let content := stringifyEnvelope { id := JsString.ofString "job_1", attempt := 1 }
  ([.run] : List (WorkerInput Unit)) ++ List.replicate 7 (WorkerInput.loopAnswered .resolved) ++
    ([.delivered content none, .close, .delivered content none, .handlerReturned 0 (.ok .ack),
      .handled 0 none, .taskSettled 0, .drainAnswered .resolved,
      .loopAnswered (.registered ⟨"amq.ctag-1", sampleTag_ne⟩),
      .loopAnswered .resolved] : List (WorkerInput Unit)) ++
    List.replicate 6 (WorkerInput.drainAnswered .resolved)

theorem shutdown_graceful_pending_consumer :
    ∃ process : WorkerProcess Unit,
      Run (fun process input next => process.step input = some next) (.initial Unit)
        shutdownInputs process ∧
      process.log.countP BrokerEntry.isConsumer = 3 ∧
      GracefulDrain process.log ∧ ConsumersCancelled process.log := by
  have computed : ((shutdownInputs.foldlM WorkerProcess.step (.initial Unit)).map
      (fun process => process.log.countP BrokerEntry.isConsumer)) = some 3 := by decide +kernel
  obtain ⟨process, folded, counted⟩ := Option.map_eq_some_iff.mp computed
  have run := Run.of_foldlM folded
  obtain ⟨graceful, cancelled⟩ := shutdown_graceful run
  exact ⟨process, run, counted, graceful, cancelled (by decide +kernel)⟩

end ModelMux.Queue
