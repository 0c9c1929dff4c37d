/-
The process of a worker, from its start to its exit.

`start` waits for the metrics listener and runs the worker, unless a signal has come
first; `shutdown` closes the worker, then the listener, and ends the pool of database
connections at last.  A signal, a failure of the loop and the answers of the server and
of the database may come in any order.  When the pool is ended no handler has work left,
and the loop has returned if the exit code is 0.
-/

import ModelMux.Foundation.LabelledRun
import ModelMux.Queue.ConsumerShutdown

namespace ModelMux.Jobs

open Queue

variable {Error : Type}

/-! ### The process -/

inductive StartPhase where
  | listening
  | running
  | returned
deriving DecidableEq

inductive ShutdownPhase where
  | closingWorker
  | closingMetrics
  | endingPool
  | returned
deriving DecidableEq

/-- An exit code that has not been set is 0. -/
structure WorkerMain (Error : Type) where
  worker : WorkerProcess Error
  isShuttingDown : Bool
  start : StartPhase
  shutdown : Option ShutdownPhase
  exitCode : ℕ

/-- `reacted` is anything that happens to the worker; the others are the awaits of the
process, and the signals. -/
inductive MainEvent (Error : Type) where
  | reacted (input : WorkerInput Error)
  | signalled
  | listened
  | ran
  | closed
  | metricsClosed
  | poolEnded (clean : Bool)

/-- The process itself calls only `run` and `close`, and nobody else calls the broker. -/
def isReaction : WorkerInput Error → Bool
  | .run | .close | .stopConsumingCalled | .closeCalled | .callAnswered _ _ => false
  | _ => true

namespace WorkerMain

def initial (Error : Type) : WorkerMain Error :=
  { worker := .initial Error
    isShuttingDown := false
    start := .listening
    shutdown := none
    exitCode := 0 }

def callShutdown (main : WorkerMain Error) : Option (WorkerMain Error) :=
  if main.isShuttingDown then some main
  else
    (main.worker.step .close).map (fun worker =>
      { main with worker := worker, isShuttingDown := true, shutdown := some .closingWorker })

def step (main : WorkerMain Error) : MainEvent Error → Option (WorkerMain Error)
  | .reacted input =>
      if isReaction input then
        (main.worker.step input).map (fun worker => { main with worker := worker })
      else none
  | .signalled => main.callShutdown
  | .listened =>
      if main.start = .listening then
        if main.isShuttingDown then some { main with start := .returned }
        else
          (main.worker.step .run).map (fun worker =>
            { main with worker := worker, start := .running })
      else none
  | .ran =>
      if main.start = .running then
        match main.worker.loop with
        | some (.finished (.ok ())) => some { main with start := .returned }
        | some (.finished (.error _)) =>
            { main with start := .returned, exitCode := 1 }.callShutdown
        | _ => none
      else none
  | .closed =>
      if main.shutdown = some .closingWorker then
        match main.worker.drain with
        | some (.finished (.ok ())) => some { main with shutdown := some .closingMetrics }
        | some (.finished (.error _)) =>
            some { main with shutdown := some .closingMetrics, exitCode := 1 }
        | _ => none
      else none
  | .metricsClosed =>
      if main.shutdown = some .closingMetrics then
        some { main with shutdown := some .endingPool }
      else none
  | .poolEnded clean =>
      if main.shutdown = some .endingPool then
        some { main with
          shutdown := some .returned
          exitCode := if clean then main.exitCode else 1 }
      else none

def hasEndedPool (main : WorkerMain Error) : Bool :=
  main.shutdown = some .endingPool || main.shutdown = some .returned

/-- `worker.close()` has settled and `shutdown` has gone on. -/
def hasClosed (main : WorkerMain Error) : Bool :=
  main.shutdown = some .closingMetrics || main.hasEndedPool

end WorkerMain

/-! ### The loop of a worker that is stopped -/

def usesStore : LoopPhase Error → Bool
  | .maintaining => true
  | .dispatching _ => true
  | _ => false

def LoopEnded (loop : Option (LoopPhase Error)) : Prop :=
  ∀ phase, loop = some phase → phase.isFinished = true

/-- A loop that is stopped does not call the store again. -/
theorem loopStep_stopped {broker : BrokerState Error} {phase : LoopPhase Error}
    {answer : LoopAnswer Error} {advance : Advance (LoopPhase Error) Error}
    (stepped : phase.step true broker answer = some advance) :
    usesStore advance.phase = false := by
  cases phase with
  | connecting stage =>
      cases answer with
      | resolved => cases stepped; cases stage <;> rfl
      | rejected error => cases stepped; rfl
      | registered consumer => cases stepped
      | dispatched sent => cases stepped
  | dispatching count =>
      cases answer with
      | resolved => cases stepped
      | rejected error => cases stepped; rfl
      | registered consumer => cases stepped
      | dispatched sent =>
          cases sent with
          | true =>
              cases stepped
              simp [LoopPhase.dispatchHead, usesStore]
          | false => cases stepped; rfl
  | maintaining =>
      cases answer with
      | resolved =>
          cases stepped
          simp [LoopPhase.dispatchHead, usesStore]
      | rejected error => cases stepped; rfl
      | registered consumer => cases stepped
      | dispatched sent => cases stepped
  | finished outcome => cases answer <;> cases stepped
  | connected | consuming | consumed | delaying => cases answer <;> cases stepped <;> rfl

theorem loopStep_unfinished {broker : BrokerState Error} {aborted : Bool} {phase : LoopPhase Error}
    {answer : LoopAnswer Error} {advance : Advance (LoopPhase Error) Error}
    (stepped : phase.step aborted broker answer = some advance) : phase.isFinished = false := by
  cases phase with
  | finished outcome => cases answer <;> cases stepped
  | _ => rfl

/-! ### The drain waits for the loop -/

def Joined (loop : Option (LoopPhase Error)) : DrainPhase Error → Prop
  | .joining joined => joined = loop.isSome
  | .closing none _ => LoopEnded loop
  | .finished (.ok ()) => LoopEnded loop
  | _ => True

theorem Joined.later {loop next : Option (LoopPhase Error)} {phase : DrainPhase Error}
    (joined : Joined loop phase) (started : next.isSome = loop.isSome)
    (ended : LoopEnded loop → LoopEnded next) : Joined next phase := by
  cases phase with
  | stopping inner => trivial
  | joining flag => exact joined.trans started.symm
  | closing pending inner =>
      cases pending with
      | none => exact ended joined
      | some error => trivial
  | finished outcome =>
      cases outcome with
      | ok result => exact ended joined
      | error error => trivial

theorem drainStep_joined {broker : BrokerState Error} {loop : Option (LoopPhase Error)}
    {phase : DrainPhase Error} {answer : Answer Error}
    {advance : Advance (DrainPhase Error) Error}
    (stepped : phase.step broker loop answer = some advance) (joined : Joined loop phase) :
    Joined loop advance.phase := by
  unfold DrainPhase.step at stepped
  split at stepped
  · cases stepped
    rfl
  · cases stepped
    trivial
  · obtain ⟨inner, _, rfl⟩ := Option.map_eq_some_iff.mp stepped
    trivial
  · split_ifs at stepped with finished
    cases stepped
    intro phase running
    subst running
    simp only [Joined, Option.isSome_some] at joined
    simpa [joined] using finished
  · rename_i pending
    cases stepped
    cases pending with
    | none => exact joined
    | some error => trivial
  · cases stepped
    trivial
  · rename_i pending inner _ _
    obtain ⟨closing, _, rfl⟩ := Option.map_eq_some_iff.mp stepped
    cases pending with
    | none => exact joined
    | some error => trivial
  · cases stepped

theorem drainStep_unfinished {broker : BrokerState Error} {loop : Option (LoopPhase Error)}
    {phase : DrainPhase Error} {answer : Answer Error}
    {advance : Advance (DrainPhase Error) Error}
    (stepped : phase.step broker loop answer = some advance)
    (outcome : Except (BrokerError Error) Unit) : phase ≠ .finished outcome := by
  intro finished
  subst finished
  cases answer <;> cases stepped

/-! ### Reactions -/

inductive ReactionChange (process next : WorkerProcess Error) : Prop
  | kept (loop : next.loop = process.loop) (drain : next.drain = process.drain)
  | looped {phase : LoopPhase Error} {answer : LoopAnswer Error}
      {advance : Advance (LoopPhase Error) Error} (running : process.loop = some phase)
      (stepped : phase.step process.drain.isSome process.broker answer = some advance)
      (loop : next.loop = some advance.phase) (drain : next.drain = process.drain)
  | drained {phase : DrainPhase Error} {answer : Answer Error}
      {advance : Advance (DrainPhase Error) Error} (draining : process.drain = some phase)
      (stepped : phase.step process.broker process.loop answer = some advance)
      (loop : next.loop = process.loop) (drain : next.drain = some advance.phase)

theorem reaction_change {process next : WorkerProcess Error} {input : WorkerInput Error}
    (reaction : isReaction input = true) (stepped : process.step input = some next) :
    process.log <+: next.log ∧ ReactionChange process next := by
  have extended (result : BrokerState Error × List (BrokerEntry Error)) :
      process.log <+: (process.update result).log := List.prefix_append _ _
  cases input with
  | run | close | stopConsumingCalled | closeCalled | callAnswered => cases reaction
  | loopAnswered answer =>
      simp only [WorkerProcess.step] at stepped
      split at stepped
      · cases stepped
      · rename_i phase running
        obtain ⟨advance, advanced, rfl⟩ := Option.map_eq_some_iff.mp stepped
        exact ⟨extended _, .looped running advanced rfl rfl⟩
  | drainAnswered answer =>
      simp only [WorkerProcess.step] at stepped
      split at stepped
      · cases stepped
      · rename_i phase draining
        obtain ⟨advance, advanced, rfl⟩ := Option.map_eq_some_iff.mp stepped
        exact ⟨extended _, .drained draining advanced rfl rfl⟩
  | consumerCancelled =>
      simp only [WorkerProcess.step] at stepped
      split_ifs at stepped
      cases stepped
      exact ⟨extended _, .kept rfl rfl⟩
  | observedError error =>
      simp only [WorkerProcess.step] at stepped
      split_ifs at stepped
      cases stepped
      exact ⟨extended _, .kept rfl rfl⟩
  | observedClose =>
      simp only [WorkerProcess.step] at stepped
      split_ifs at stepped
      cases stepped
      exact ⟨extended _, .kept rfl rfl⟩
  | delivered | handlerReturned | handled | taskSettled | taskDeleted =>
      obtain ⟨result, _, rfl⟩ := Option.map_eq_some_iff.mp stepped
      exact ⟨extended _, .kept rfl rfl⟩

namespace ReactionChange

variable {process next : WorkerProcess Error}

theorem started (change : ReactionChange process next) :
    next.loop.isSome = process.loop.isSome := by
  cases change with
  | kept loop drain => rw [loop]
  | looped running stepped loop drain => rw [loop, running]; rfl
  | drained draining stepped loop drain => rw [loop]

theorem ended (change : ReactionChange process next) (ended : LoopEnded process.loop) :
    next.loop = process.loop := by
  cases change with
  | kept loop drain => exact loop
  | looped running stepped loop drain =>
      have unfinished := loopStep_unfinished stepped
      rw [ended _ running] at unfinished
      cases unfinished
  | drained draining stepped loop drain => exact loop

theorem drain_isSome (change : ReactionChange process next) :
    next.drain.isSome = process.drain.isSome := by
  cases change with
  | kept loop drain => rw [drain]
  | looped running stepped loop drain => rw [drain]
  | drained draining stepped loop drain => rw [drain, draining]; rfl

theorem drain_finished (change : ReactionChange process next)
    {outcome : Except (BrokerError Error) Unit}
    (finished : process.drain = some (.finished outcome)) : next.drain = process.drain := by
  cases change with
  | kept loop drain => exact drain
  | looped running stepped loop drain => exact drain
  | drained draining stepped loop drain =>
      cases draining.symm.trans finished
      exact absurd rfl (drainStep_unfinished stepped outcome)

theorem joined (change : ReactionChange process next)
    (joined : ∀ phase, process.drain = some phase → Joined process.loop phase) :
    ∀ phase, next.drain = some phase → Joined next.loop phase := by
  intro phase found
  have later : LoopEnded process.loop → LoopEnded next.loop := by
    intro before
    rw [change.ended before]
    exact before
  have started := change.started
  cases change with
  | kept loop drain => exact (joined phase (drain ▸ found)).later started later
  | looped running stepped loop drain =>
      exact (joined phase (drain ▸ found)).later started later
  | drained draining stepped loop drain =>
      cases drain.symm.trans found
      rw [loop]
      exact drainStep_joined stepped (joined _ draining)

/-- While the worker drains, its loop does not call the store again. -/
theorem stopped (change : ReactionChange process next) (draining : process.drain.isSome = true)
    {phase : LoopPhase Error} (running : next.loop = some phase) (uses : usesStore phase = true) :
    process.loop = some phase := by
  cases change with
  | kept loop drain => exact loop ▸ running
  | looped before stepped loop drain =>
      rw [draining] at stepped
      cases loop.symm.trans running
      rw [loopStep_stopped stepped] at uses
      cases uses
  | drained before stepped loop drain => exact loop ▸ running

end ReactionChange

/-! ### The invariant of the process -/

def LoopFailed (main : WorkerMain Error) : Prop :=
  main.start = .returned ∧ ∃ error, main.worker.loop = some (.finished (.error error))

def CloseFailed (main : WorkerMain Error) : Prop :=
  main.hasClosed = true ∧ ∃ error, main.worker.drain = some (.finished (.error error))

def Failed (events : List (MainEvent Error)) (main : WorkerMain Error) : Prop :=
  LoopFailed main ∨ CloseFailed main ∨ .poolEnded false ∈ events

def ExitsAs (events : List (MainEvent Error)) (main : WorkerMain Error) : Prop :=
  (main.exitCode = 1 ∧ Failed events main) ∨ (main.exitCode = 0 ∧ ¬Failed events main)

structure MainInvariant (events : List (MainEvent Error)) (main : WorkerMain Error) : Prop where
  worker : main.worker.Invariant
  flag : main.isShuttingDown = main.shutdown.isSome
  drains : main.worker.drain.isSome = main.shutdown.isSome
  stopped : main.shutdown.isSome = true → .stopped ∈ main.worker.log
  joined : ∀ phase, main.worker.drain = some phase → Joined main.worker.loop phase
  closed : main.hasClosed = true → ∃ outcome, main.worker.drain = some (.finished outcome)
  listening : main.start = .listening → main.worker.loop = none
  returned : main.start = .returned → LoopEnded main.worker.loop
  exit : ExitsAs events main

theorem MainInvariant.initial (Error : Type) : MainInvariant [] (WorkerMain.initial Error) where
  worker := WorkerProcess.Invariant.initial Error
  flag := rfl
  drains := rfl
  stopped := by intro impossible; cases impossible
  joined := by intro phase impossible; cases impossible
  closed := by intro impossible; cases impossible
  listening := fun _ => rfl
  returned := by intro impossible; cases impossible
  exit := by
    refine Or.inr ⟨rfl, ?_⟩
    rintro (⟨impossible, _⟩ | ⟨impossible, _⟩ | impossible) <;> cases impossible

variable {events : List (MainEvent Error)} {main next : WorkerMain Error} {event : MainEvent Error}

theorem ExitsAs.kept (exit : ExitsAs events main) (code : next.exitCode = main.exitCode)
    (loop : LoopFailed next ↔ LoopFailed main) (close : CloseFailed next ↔ CloseFailed main)
    (clean : event ≠ .poolEnded false) : ExitsAs (events ++ [event]) next := by
  have listed : .poolEnded false ∈ events ++ [event] ↔ .poolEnded false ∈ events := by
    simp [Ne.symm clean]
  have failed : Failed (events ++ [event]) next ↔ Failed events main := by
    unfold Failed
    rw [loop, close, listed]
  unfold ExitsAs
  rw [code, failed]
  exact exit

theorem MainInvariant.reacted (held : MainInvariant events main) {input : WorkerInput Error}
    (taken : main.step (.reacted input) = some next) :
    MainInvariant (events ++ [.reacted input]) next := by
  simp only [WorkerMain.step] at taken
  split_ifs at taken with reaction
  obtain ⟨worker, stepped, rfl⟩ := Option.map_eq_some_iff.mp taken
  obtain ⟨log, change⟩ := reaction_change reaction stepped
  have closed : main.hasClosed = true → worker.drain = main.worker.drain := by
    intro closed
    obtain ⟨outcome, finished⟩ := held.closed closed
    exact change.drain_finished finished
  exact
    { worker := held.worker.step stepped
      flag := held.flag
      drains := change.drain_isSome.trans held.drains
      stopped := fun shutting => log.subset (held.stopped shutting)
      joined := change.joined held.joined
      closed := by
        intro hasClosed
        obtain ⟨outcome, finished⟩ := held.closed hasClosed
        exact ⟨outcome, (closed hasClosed).trans finished⟩
      listening := by
        intro listening
        have unstarted := change.started
        rw [held.listening listening] at unstarted
        simpa using unstarted
      returned := by
        intro returned
        rw [change.ended (held.returned returned)]
        exact held.returned returned
      exit := by
        refine held.exit.kept rfl ?_ ?_ (by simp)
        · apply and_congr_right
          intro returned
          rw [change.ended (held.returned returned)]
        · apply and_congr_right
          intro hasClosed
          rw [closed hasClosed] }

theorem close_change {process later : WorkerProcess Error} (idle : process.drain = none)
    (stepped : process.step .close = some later) :
    later.loop = process.loop ∧ later.log = process.log ++ [.stopped] ∧
      ∃ inner, later.drain = some (.stopping inner) := by
  simp only [WorkerProcess.step, idle] at stepped
  cases stepped
  exact ⟨rfl, rfl, _, rfl⟩

theorem MainInvariant.callShutdown (held : MainInvariant events main)
    (called : main.callShutdown = some next) : MainInvariant events next := by
  unfold WorkerMain.callShutdown at called
  split_ifs at called with shutting
  · cases called
    exact held
  · obtain ⟨worker, stepped, rfl⟩ := Option.map_eq_some_iff.mp called
    have flag := held.flag
    rw [Bool.not_eq_true] at shutting
    rw [shutting] at flag
    have unbegun : main.shutdown = none := by simpa using flag.symm
    have idle : main.worker.drain = none := by
      have drains := held.drains
      rw [← flag] at drains
      simpa using drains
    have unclosed : main.hasClosed = false := by
      simp [WorkerMain.hasClosed, WorkerMain.hasEndedPool, unbegun]
    obtain ⟨loop, log, inner, drain⟩ := close_change idle stepped
    exact
      { worker := held.worker.step stepped
        flag := rfl
        drains := by rw [drain]; rfl
        stopped := fun _ => by rw [log]; exact List.mem_append_right _ List.mem_cons_self
        joined := by
          intro phase found
          cases drain.symm.trans found
          trivial
        closed := by intro impossible; cases impossible
        listening := fun listening => loop.trans (held.listening listening)
        returned := fun returned => loop ▸ held.returned returned
        exit := by
          have failed : ∀ history : List (MainEvent Error),
              Failed history { main with
                worker := worker, isShuttingDown := true, shutdown := some .closingWorker } ↔
                Failed history main := by
            intro history
            unfold Failed LoopFailed CloseFailed
            rw [unclosed, loop]
            simp [WorkerMain.hasClosed, WorkerMain.hasEndedPool]
          unfold ExitsAs
          rw [failed]
          exact held.exit }

theorem MainInvariant.signalled (held : MainInvariant events main)
    (taken : main.step .signalled = some next) : MainInvariant (events ++ [.signalled]) next := by
  have listed : MainInvariant (events ++ [.signalled]) main :=
    { held with exit := held.exit.kept rfl Iff.rfl Iff.rfl (by simp) }
  exact listed.callShutdown taken

theorem MainInvariant.listened (held : MainInvariant events main)
    (taken : main.step .listened = some next) : MainInvariant (events ++ [.listened]) next := by
  simp only [WorkerMain.step] at taken
  split_ifs at taken with listening shutting
  · cases taken
    have unstarted := held.listening listening
    exact
      { held with
        listening := by intro impossible; cases impossible
        returned := by
          intro _ phase running
          cases unstarted.symm.trans running
        exit := by
          refine held.exit.kept rfl ?_ Iff.rfl (by simp)
          simp [LoopFailed, unstarted] }
  · obtain ⟨worker, stepped, rfl⟩ := Option.map_eq_some_iff.mp taken
    have running := held.worker.step stepped
    have flag := held.flag
    rw [Bool.not_eq_true] at shutting
    rw [shutting] at flag
    cases stepped
    exact
      { worker := running
        flag := held.flag
        drains := held.drains
        stopped := held.stopped
        joined := by
          intro phase found
          have drains := held.drains
          rw [← flag, show main.worker.drain = some phase from found] at drains
          cases drains
        closed := held.closed
        listening := by intro impossible; cases impossible
        returned := by intro impossible; cases impossible
        exit := by
          refine held.exit.kept rfl ?_ Iff.rfl (by simp)
          simp [LoopFailed, listening] }

theorem MainInvariant.ran (held : MainInvariant events main) (taken : main.step .ran = some next) :
    MainInvariant (events ++ [.ran]) next := by
  simp only [WorkerMain.step] at taken
  split_ifs at taken with running
  have finished {outcome : Except (BrokerError Error) Unit}
      (loop : main.worker.loop = some (.finished outcome)) : LoopEnded main.worker.loop := by
    intro phase found
    cases loop.symm.trans found
    rfl
  split at taken
  · rename_i loop
    cases taken
    exact
      { held with
        listening := by intro impossible; cases impossible
        returned := fun _ => finished loop
        exit := by
          refine held.exit.kept rfl ?_ Iff.rfl (by simp)
          simp [LoopFailed, loop] }
  · rename_i error loop
    have failed : MainInvariant (events ++ [.ran]) { main with start := .returned, exitCode := 1 } :=
      { held with
        listening := by intro impossible; cases impossible
        returned := fun _ => finished loop
        exit := Or.inl ⟨rfl, Or.inl ⟨rfl, error, loop⟩⟩ }
    exact failed.callShutdown taken
  · cases taken

theorem MainInvariant.closed_step (held : MainInvariant events main)
    (taken : main.step .closed = some next) :
    MainInvariant (events ++ [.closed]) next := by
  simp only [WorkerMain.step] at taken
  split_ifs at taken with closing
  have unclosed : main.hasClosed = false := by
    simp [WorkerMain.hasClosed, WorkerMain.hasEndedPool, closing]
  have shutting : main.shutdown.isSome = true := by rw [closing]; rfl
  split at taken
  · rename_i drained
    cases taken
    exact
      { held with
        flag := held.flag.trans shutting
        drains := held.drains.trans shutting
        stopped := fun _ => held.stopped shutting
        closed := fun _ => ⟨_, drained⟩
        exit := by
          refine held.exit.kept rfl Iff.rfl ?_ (by simp)
          simp [CloseFailed, unclosed, drained] }
  · rename_i error drained
    cases taken
    exact
      { held with
        flag := held.flag.trans shutting
        drains := held.drains.trans shutting
        stopped := fun _ => held.stopped shutting
        closed := fun _ => ⟨_, drained⟩
        exit := Or.inl ⟨rfl, Or.inr (Or.inl ⟨rfl, error, drained⟩)⟩ }
  · cases taken

theorem MainInvariant.shut (held : MainInvariant events main) {phase : ShutdownPhase} {code : ℕ}
    (closed : main.hasClosed = true)
    (exit : ExitsAs (events ++ [event]) { main with shutdown := some phase, exitCode := code }) :
    MainInvariant (events ++ [event]) { main with shutdown := some phase, exitCode := code } := by
  have shutting : main.shutdown.isSome = true := by
    cases found : main.shutdown with
    | none => simp [WorkerMain.hasClosed, WorkerMain.hasEndedPool, found] at closed
    | some phase => rfl
  exact
    { held with
      flag := held.flag.trans shutting
      drains := held.drains.trans shutting
      stopped := fun _ => held.stopped shutting
      closed := fun _ => held.closed closed
      exit := exit }

theorem MainInvariant.step (held : MainInvariant events main) (taken : main.step event = some next) :
    MainInvariant (events ++ [event]) next := by
  cases event with
  | reacted input => exact held.reacted taken
  | signalled => exact held.signalled taken
  | listened => exact held.listened taken
  | ran => exact held.ran taken
  | closed => exact held.closed_step taken
  | metricsClosed =>
      simp only [WorkerMain.step] at taken
      split_ifs at taken with closing
      cases taken
      have closed : main.hasClosed = true := by simp [WorkerMain.hasClosed, closing]
      refine held.shut closed (held.exit.kept rfl Iff.rfl ?_ (by simp))
      unfold CloseFailed
      rw [closed]
      exact Iff.rfl
  | poolEnded clean =>
      simp only [WorkerMain.step] at taken
      by_cases ending : main.shutdown = some .endingPool
      · rw [if_pos ending] at taken
        cases taken
        have closed : main.hasClosed = true := by
          simp [WorkerMain.hasClosed, WorkerMain.hasEndedPool, ending]
        apply held.shut closed
        cases clean with
        | true =>
            refine held.exit.kept rfl Iff.rfl ?_ (by simp)
            unfold CloseFailed
            rw [closed]
            exact Iff.rfl
        | false =>
            exact Or.inl ⟨rfl, Or.inr (Or.inr (List.mem_append_right _ List.mem_cons_self))⟩
      · rw [if_neg ending] at taken
        cases taken

theorem run_mainInv (run : Run (fun main event next => WorkerMain.step main event = some next)
      (.initial Error) events main) : MainInvariant events main := by
  apply run.historyInvariant MainInvariant (MainInvariant.initial Error)
  intro events main event next held taken
  exact held.step taken

/-! ### After the shutdown has begun -/

structure Winds (process later : WorkerProcess Error) : Prop where
  log : process.log <+: later.log
  loop : ∀ phase, later.loop = some phase → usesStore phase = true → process.loop = some phase

theorem Winds.refl (process : WorkerProcess Error) : Winds process process :=
  ⟨List.prefix_rfl, fun _ running _ => running⟩

theorem Winds.trans {process middle later : WorkerProcess Error} (first : Winds process middle)
    (second : Winds middle later) : Winds process later :=
  { log := first.log.trans second.log
    loop := fun phase running uses => first.loop phase (second.loop phase running uses) uses }

/-- The loop goes on from an await and calls `maintain` or `dispatchOne`. -/
def BeginsStoreCall (event : MainEvent Error) (next : WorkerMain Error) : Prop :=
  (∃ answer, event = .reacted (.loopAnswered answer)) ∧
    ∃ phase, next.worker.loop = some phase ∧ usesStore phase = true

structure ShuttingStep (main : WorkerMain Error) (event : MainEvent Error)
    (next : WorkerMain Error) : Prop where
  shutting : next.isShuttingDown = true
  log : main.worker.log <+: next.worker.log
  silent : ¬BeginsStoreCall event next
  kept : (∀ answer, event ≠ .reacted (.loopAnswered answer)) →
    next.worker.loop = main.worker.loop

theorem ShuttingStep.winds (step : ShuttingStep main event next) :
    Winds main.worker next.worker := by
  refine ⟨step.log, ?_⟩
  intro phase running uses
  by_cases looped : ∃ answer, event = .reacted (.loopAnswered answer)
  · exact absurd ⟨looped, phase, running, uses⟩ step.silent
  · rw [← step.kept (fun answer same => looped ⟨answer, same⟩)]
    exact running

theorem ShuttingStep.idle (shutting : next.isShuttingDown = true)
    (same : next.worker = main.worker) (other : ∀ input, event ≠ .reacted input) :
    ShuttingStep main event next where
  shutting := shutting
  log := same ▸ List.prefix_rfl
  silent := by
    rintro ⟨⟨answer, impossible⟩, _⟩
    exact other _ impossible
  kept := fun _ => by rw [same]

theorem loopAnswered_stopped {process later : WorkerProcess Error} {answer : LoopAnswer Error}
    (draining : process.drain.isSome = true)
    (stepped : process.step (.loopAnswered answer) = some later) {phase : LoopPhase Error}
    (running : later.loop = some phase) : usesStore phase = false := by
  simp only [WorkerProcess.step] at stepped
  split at stepped
  · cases stepped
  · obtain ⟨advance, advanced, rfl⟩ := Option.map_eq_some_iff.mp stepped
    rw [draining] at advanced
    cases running
    exact loopStep_stopped advanced

theorem reaction_loop {process later : WorkerProcess Error} {input : WorkerInput Error}
    (reaction : isReaction input = true) (other : ∀ answer, input ≠ .loopAnswered answer)
    (stepped : process.step input = some later) : later.loop = process.loop := by
  cases input with
  | run | close | stopConsumingCalled | closeCalled | callAnswered => cases reaction
  | loopAnswered answer => exact absurd rfl (other answer)
  | drainAnswered answer =>
      simp only [WorkerProcess.step] at stepped
      split at stepped
      · cases stepped
      · obtain ⟨_, _, rfl⟩ := Option.map_eq_some_iff.mp stepped
        rfl
  | consumerCancelled | observedError | observedClose =>
      simp only [WorkerProcess.step] at stepped
      split_ifs at stepped
      cases stepped
      rfl
  | delivered | handlerReturned | handled | taskSettled | taskDeleted =>
      obtain ⟨_, _, rfl⟩ := Option.map_eq_some_iff.mp stepped
      rfl

/-- A process that shuts down never runs its worker again. -/
theorem shutting_step (held : MainInvariant events main) (shutting : main.isShuttingDown = true)
    (taken : main.step event = some next) : ShuttingStep main event next := by
  have draining : main.worker.drain.isSome = true := by
    rw [held.drains, ← held.flag]
    exact shutting
  cases event with
  | reacted input =>
      simp only [WorkerMain.step] at taken
      split_ifs at taken with reaction
      obtain ⟨worker, stepped, rfl⟩ := Option.map_eq_some_iff.mp taken
      refine ⟨shutting, (reaction_change reaction stepped).1, ?_, ?_⟩
      · rintro ⟨⟨answer, same⟩, phase, running, uses⟩
        cases same
        cases (loopAnswered_stopped draining stepped running).symm.trans uses
      · intro other
        exact reaction_loop reaction (fun answer same => other answer (by rw [same])) stepped
  | signalled =>
      simp only [WorkerMain.step, WorkerMain.callShutdown, shutting, if_true] at taken
      cases taken
      exact .idle shutting rfl (by simp)
  | listened =>
      simp only [WorkerMain.step, shutting, if_true] at taken
      split_ifs at taken
      cases taken
      exact .idle rfl rfl (by simp)
  | ran =>
      simp only [WorkerMain.step, WorkerMain.callShutdown, shutting, if_true] at taken
      split_ifs at taken
      split at taken
      · cases taken
        exact .idle rfl rfl (by simp)
      · cases taken
        exact .idle rfl rfl (by simp)
      · cases taken
  | closed =>
      simp only [WorkerMain.step] at taken
      split_ifs at taken
      split at taken
      · cases taken
        exact .idle shutting rfl (by simp)
      · cases taken
        exact .idle shutting rfl (by simp)
      · cases taken
  | metricsClosed =>
      simp only [WorkerMain.step] at taken
      split_ifs at taken
      cases taken
      exact .idle shutting rfl (by simp)
  | poolEnded clean =>
      simp only [WorkerMain.step] at taken
      split_ifs at taken <;> cases taken <;> exact .idle shutting rfl (by simp)

theorem run_winds {later : List (MainEvent Error)} {last : WorkerMain Error}
    (held : MainInvariant events main) (shutting : main.isShuttingDown = true)
    (run : Run (fun main event next => WorkerMain.step main event = some next) main later last) :
    (∃ history, MainInvariant history last) ∧ last.isShuttingDown = true ∧
      Winds main.worker last.worker := by
  apply run.invariant
    (fun last => (∃ history, MainInvariant history last) ∧ last.isShuttingDown = true ∧
      Winds main.worker last.worker) ⟨⟨events, held⟩, shutting, .refl _⟩
  intro last event next reached taken
  obtain ⟨⟨history, held⟩, shutting, winds⟩ := reached
  have stepped := shutting_step held shutting taken
  exact ⟨⟨_, held.step taken⟩, stepped.shutting, winds.trans stepped.winds⟩

/-- No handler is started after the worker has been stopped. -/
theorem started_before {log later : List (BrokerEntry Error)} (rules : Throughout MayBeCalled later)
    (extended : log <+: later) (stopped : .stopped ∈ log) {tag : ℕ}
    (started : .started tag ∈ later) : .started tag ∈ log := by
  obtain ⟨added, rfl⟩ := extended
  rcases List.mem_append.mp started with old | new
  · exact old
  · obtain ⟨before, after, split⟩ := List.append_of_mem new
    have unstopped := rules (log ++ before) (.started tag) after (by rw [split]; simp)
    exact absurd (List.mem_append_left before stopped) unstopped

/-- When the pool of the database is ended, every handler that is ever started has
returned, and no later step begins a call of the store: the loop has returned, unless the worker could
not be closed.  The exit code is 1 if the loop has failed, the worker could not be
closed or the pool not be ended, and 0 otherwise. -/
theorem worker_shutdown
    (run : Run (fun main event next => WorkerMain.step main event = some next) (.initial Error)
      events main) (ended : main.hasEndedPool = true) :
    (∀ later last,
        Run (fun main event next => WorkerMain.step main event = some next) main later last →
        (∀ tag, .started tag ∈ last.worker.log →
            ∃ result, .returned tag result ∈ main.worker.log) ∧
          (∀ phase, last.worker.loop = some phase → usesStore phase = true →
            main.worker.loop = some phase) ∧
          ∀ event next, last.step event = some next → ¬BeginsStoreCall event next ∧
            ((∀ answer, event ≠ .reacted (.loopAnswered answer)) →
              next.worker.loop = last.worker.loop)) ∧
      (main.worker.drain = some (.finished (.ok ())) → LoopEnded main.worker.loop) ∧
      (main.exitCode = 0 ∨ main.exitCode = 1) ∧
      (main.exitCode = 1 ↔ Failed events main) := by
  have held := run_mainInv run
  have closed : main.hasClosed = true := by
    unfold WorkerMain.hasClosed
    rw [ended, Bool.or_true]
  have shutting : main.shutdown.isSome = true := by
    cases found : main.shutdown with
    | none => simp [WorkerMain.hasEndedPool, found] at ended
    | some phase => rfl
  obtain ⟨outcome, finished⟩ := held.closed closed
  refine ⟨?_, fun drained => held.joined _ drained, ?_, ?_⟩
  · intro later last continued
    obtain ⟨⟨history, lastInvariant⟩, stillShutting, winds⟩ :=
      run_winds held (held.flag.trans shutting) continued
    refine ⟨?_, winds.loop, ?_⟩
    · intro tag started
      apply held.worker.log.noneRunning (held.worker.drain _ finished)
      exact started_before lastInvariant.worker.log.rules winds.log (held.stopped shutting) started
    · intro event next taken
      have step := shutting_step lastInvariant stillShutting taken
      exact ⟨step.silent, step.kept⟩
  · rcases held.exit with ⟨code, _⟩ | ⟨code, _⟩
    · exact Or.inr code
    · exact Or.inl code
  · rcases held.exit with ⟨code, failed⟩ | ⟨code, sound⟩
    · exact ⟨fun _ => failed, fun _ => code⟩
    · rw [code]
      exact ⟨fun impossible => absurd impossible (by decide), fun failed => absurd failed sound⟩

/-- A signal comes while a delivery is handled and the consumer is not registered yet. -/
def signalledEvents : List (MainEvent Unit) :=
  let content := stringifyEnvelope { id := JsString.ofString "job_1", attempt := 1 }
  ([.listened] : List (MainEvent Unit)) ++
    List.replicate 7 (MainEvent.reacted (.loopAnswered .resolved)) ++
    ([.reacted (.delivered content none), .signalled, .reacted (.delivered content none),
      .reacted (.handlerReturned 0 (.ok .ack)), .reacted (.handled 0 none),
      .reacted (.taskSettled 0), .reacted (.drainAnswered .resolved),
      .reacted (.loopAnswered (.registered ⟨"amq.ctag-1", sampleTag_ne⟩)),
      .reacted (.loopAnswered .resolved), .ran] : List (MainEvent Unit)) ++
    List.replicate 8 (MainEvent.reacted (.drainAnswered .resolved)) ++
    ([.closed, .metricsClosed] : List (MainEvent Unit))

theorem worker_shutdown_signalled :
    ∃ main : WorkerMain Unit,
      Run (fun main event next => WorkerMain.step main event = some next) (.initial Unit)
        signalledEvents main ∧
      main.exitCode = 0 ∧ ¬Failed signalledEvents main ∧
      ∀ tag, .started tag ∈ main.worker.log → ∃ result, .returned tag result ∈ main.worker.log := by
  have computed : ((signalledEvents.foldlM WorkerMain.step (.initial Unit)).map
      (fun main => (main.hasEndedPool, main.exitCode))) = some (true, 0) := by decide +kernel
  obtain ⟨main, folded, shown⟩ := Option.map_eq_some_iff.mp computed
  obtain ⟨ended, code⟩ := Prod.mk.inj shown
  have run := Run.of_foldlM folded
  obtain ⟨after, _, _, exits⟩ := worker_shutdown run ended
  refine ⟨main, run, code, ?_, (after [] main (.refl _)).1⟩
  intro failed
  have wrong := exits.mpr failed
  omega

end ModelMux.Jobs
