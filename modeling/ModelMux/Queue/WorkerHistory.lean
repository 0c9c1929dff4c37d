/-
Histories of worker runs.

Two views of a worker run are derived here.  Forgetting the broker leaves a run
of the job store, so everything proved about store runs holds for workers; the
dispatcher's transaction appears there as the single statement its commit makes
visible.  Forgetting the store leaves the life of each delivery: its tag is
used once, its phases follow `execute`, and its events are those phases.
-/

import ModelMux.Queue.NoLostJob

namespace ModelMux.Queue

variable {Data Result Digest : Type}

/-! ### The store's part of a run -/

theorem dispatchSelect_commit {collation : JobId → JobId → Bool} {options : JobStoreOptions}
    {now : Timestamp} {table : JobTable Data Result Digest} {row : JobRow Data Result Digest}
    (member : row ∈ table.rows) (holds : dispatchWhere options now row = true) :
    dispatchSelect collation options now
      ((table.rows.map JobRow.id).filter (fun id => id ≠ row.id)) table = some row := by
  generalize others : (table.rows.map JobRow.id).filter (fun id => id ≠ row.id) = locked
  have free : row.id ∉ locked := by
    rw [← others]
    simp
  cases chosen : dispatchSelect collation options now locked table with
  | none =>
      have empty := List.head?_eq_none_iff.mp chosen
      have listed : row ∈ (table.rows.filter (fun row => dispatchWhere options now row &&
          decide (row.id ∉ locked))).insertionSort
            (fun left right => dispatchOrder collation left right = true) := by
        rw [List.mem_insertionSort, List.mem_filter]
        exact ⟨member, by simp [holds, free]⟩
      rw [empty] at listed
      cases listed
  | some other =>
      obtain ⟨otherMember, _, otherFree⟩ := dispatchSelect_mem chosen
      have sameId : other.id = row.id := by
        by_contra different
        apply otherFree
        rw [← others, List.mem_filter]
        exact ⟨List.mem_map_of_mem otherMember, by simpa using different⟩
      rw [KeyedTable.eq_of_key otherMember member sameId]

section Store

variable [DecidableEq Digest] {hashing : Hashing Data Digest} {collation : JobId → JobId → Bool}
  {queue : JsString}

theorem commit_storeStep {state : SystemState Data Result Digest} {transaction : Transaction}
    (holds : SystemInvariant queue state) (member : transaction ∈ state.transactions) :
    storeStep hashing collation state.store
      (commitOp state.store.table transaction, .dispatched (some transaction.message))
      { state.store with table := dispatchMark transaction.message.id state.store.table } := by
  obtain ⟨row, found, chosen, message⟩ := (holds.dispatching transaction member).selected
  have selected : dispatchSelect collation transaction.options transaction.now
      ((state.store.table.rows.map JobRow.id).filter (fun id => id ≠ transaction.message.id))
      state.store.table = some row := by
    rw [message]
    exact dispatchSelect_commit (KeyedTable.lookup_mem found) chosen
  refine ⟨trivial, ?_⟩
  simp only [commitOp, exec, execDispatch, selected, if_true]
  rw [message]
  rfl

/-- A step of the system is, for the store, one of its own steps or none. -/
theorem workerStep_store {state next : SystemState Data Result Digest}
    {event : WorkerEvent Data Result} (holds : SystemInvariant queue state)
    (taken : WorkerStep hashing collation queue state event next) :
    (event.storeEvents = [] ∧ next.store = state.store) ∨
      ∃ storeEvent, event.storeEvents = [storeEvent] ∧
        storeStep hashing collation state.store storeEvent next.store := by
  cases taken with
  | gateway submits taken => exact Or.inr ⟨_, rfl, taken⟩
  | maintain maintains taken => exact Or.inr ⟨_, rfl, taken⟩
  | commit transaction before after running phase =>
      exact Or.inr ⟨_, rfl, commit_storeStep holds (by simp [running])⟩
  | claim delivery before after now job reported running phase received started unlocked taken =>
      exact Or.inr ⟨_, rfl, taken⟩
  | complete delivery before after now job response reported running phase taken =>
      exact Or.inr ⟨_, rfl, taken⟩
  | fail delivery before after now job failure status reported running phase taken =>
      exact Or.inr ⟨_, rfl, taken⟩
  | tick => exact Or.inl ⟨rfl, rfl⟩
  | begin => exact Or.inl ⟨rfl, rfl⟩
  | publish => exact Or.inl ⟨rfl, rfl⟩
  | mark => exact Or.inl ⟨rfl, rfl⟩
  | rollback => exact Or.inl ⟨rfl, rfl⟩
  | inject => exact Or.inl ⟨rfl, rfl⟩
  | deliver => exact Or.inl ⟨rfl, rfl⟩
  | rejectMalformed => exact Or.inl ⟨rfl, rfl⟩
  | process => exact Or.inl ⟨rfl, rfl⟩
  | statementError => exact Or.inl ⟨rfl, rfl⟩
  | settle => exact Or.inl ⟨rfl, rfl⟩
  | detach => exact Or.inl ⟨rfl, rfl⟩
  | crash => exact Or.inl ⟨rfl, rfl⟩

def storeHistory (events : List (WorkerEvent Data Result)) : List (StoreEvent Data Result) :=
  events.flatMap WorkerEvent.storeEvents

theorem continued_storeHistory {state last : SystemState Data Result Digest}
    {events : List (WorkerEvent Data Result)} (holds : SystemInvariant queue state)
    (run : Run (WorkerStep hashing collation queue) state events last) :
    Run (storeStep hashing collation) state.store (storeHistory events) last.store := by
  refine run.simulate (SystemInvariant queue) holds
    (fun _ _ _ holds taken => workerStep_invariant holds taken) SystemState.store
    WorkerEvent.storeEvents ?_
  intro state event next holds taken
  rcases workerStep_store holds taken with ⟨silent, same⟩ | ⟨storeEvent, announced, stepped⟩
  · rw [silent, same]
    exact .refl _
  · rw [announced]
    exact .single stepped

theorem run_storeHistory {clock : Timestamp} {state : SystemState Data Result Digest}
    {events : List (WorkerEvent Data Result)}
    (run : Run (WorkerStep hashing collation queue) (SystemState.initial clock) events state) :
    Run (storeStep hashing collation) StoreState.initial (storeHistory events) state.store :=
  continued_storeHistory (SystemInvariant.initial queue clock) run

end Store

/-! ### The life of a delivery -/

def WorkerEvent.tag? : WorkerEvent Data Result → Option Nat
  | .claim tag _ _ _ | .process tag | .complete tag _ _ _ _ | .fail tag _ _ _
  | .statementError tag _ | .settle tag _ _ | .detach tag | .crash tag => some tag
  | _ => none

inductive PhaseStep (tag : Nat) (message : JobEnvelope) : WorkerEvent Data Result →
    ExecutePhase Data Result → ExecutePhase Data Result → Prop
  | claimed (op : StoreOp Data Result) (job : Option (ProcessingJob Data)) :
      PhaseStep tag message (.claim tag message (op, .claimed job) true) .claiming (afterClaim job)
  | claimLost (event : StoreEvent Data Result) :
      PhaseStep tag message (.claim tag message event false) .claiming .thrown
  | processed (job : ProcessingJob Data) (outcome : ProcessorOutcome Result) :
      PhaseStep tag message (.process tag) (.processing job) (afterProcessor job outcome)
  | completed (job : ProcessingJob Data) (response : Result) (event : StoreEvent Data Result) :
      PhaseStep tag message (.complete tag message response event true)
        (.completing job response) afterComplete
  | completeLost (job : ProcessingJob Data) (response : Result)
      (event : StoreEvent Data Result) :
      PhaseStep tag message (.complete tag message response event false)
        (.completing job response) .thrown
  | failed (job : ProcessingJob Data) (failure : JobProcessingError) (op : StoreOp Data Result)
      (status : Option FailStatus) :
      PhaseStep tag message (.fail tag message (op, .failed status) true) (.failing job failure)
        (afterFail status)
  | failLost (job : ProcessingJob Data) (failure : JobProcessingError)
      (event : StoreEvent Data Result) :
      PhaseStep tag message (.fail tag message event false) (.failing job failure) .thrown
  | errored (phase : ExecutePhase Data Result) :
      PhaseStep tag message (.statementError tag phase) phase .thrown
  | detached (phase : ExecutePhase Data Result) :
      PhaseStep tag message (.detach tag) phase phase

inductive DeliveryChange (state : SystemState Data Result Digest) :
    WorkerEvent Data Result → SystemState Data Result Digest → Prop
  | same {event : WorkerEvent Data Result} {next : SystemState Data Result Digest}
      (silent : event.tag? = none) (deliveries : next.deliveries = state.deliveries)
      (nextTag : next.nextTag = state.nextTag) : DeliveryChange state event next
  | received {next : SystemState Data Result Digest} (delivery : Delivery Data Result)
      (tag : delivery.tag = state.nextTag) (phase : delivery.phase = .claiming)
      (deliveries : next.deliveries = delivery :: state.deliveries)
      (nextTag : next.nextTag = state.nextTag + 1) :
      DeliveryChange state (.deliver state.nextTag delivery.message) next
  | moved {event : WorkerEvent Data Result} {next : SystemState Data Result Digest}
      (before after : List (Delivery Data Result)) (delivery later : Delivery Data Result)
      (running : state.deliveries = before ++ delivery :: after)
      (deliveries : next.deliveries = before ++ later :: after)
      (nextTag : next.nextTag = state.nextTag) (tag : later.tag = delivery.tag)
      (message : later.message = delivery.message)
      (step : PhaseStep delivery.tag delivery.message event delivery.phase later.phase) :
      DeliveryChange state event next
  | settled {next : SystemState Data Result Digest} (before after : List (Delivery Data Result))
      (delivery : Delivery Data Result) (action : Action)
      (running : state.deliveries = before ++ delivery :: after)
      (deliveries : next.deliveries = before ++ after) (nextTag : next.nextTag = state.nextTag)
      (phase : delivery.phase = .returned action) :
      DeliveryChange state (.settle delivery.tag delivery.message action) next
  | crashed {next : SystemState Data Result Digest} (before after : List (Delivery Data Result))
      (delivery : Delivery Data Result)
      (running : state.deliveries = before ++ delivery :: after)
      (deliveries : next.deliveries = before ++ after) (nextTag : next.nextTag = state.nextTag) :
      DeliveryChange state (.crash delivery.tag) next

theorem workerStep_deliveries [DecidableEq Digest] {hashing : Hashing Data Digest}
    {collation : JobId → JobId → Bool} {queue : JsString}
    {state next : SystemState Data Result Digest} {event : WorkerEvent Data Result}
    (taken : WorkerStep hashing collation queue state event next) :
    DeliveryChange state event next := by
  cases taken with
  | tick => exact .same rfl rfl rfl
  | gateway => exact .same rfl rfl rfl
  | maintain => exact .same rfl rfl rfl
  | begin => exact .same rfl rfl rfl
  | publish => exact .same rfl rfl rfl
  | mark => exact .same rfl rfl rfl
  | rollback => exact .same rfl rfl rfl
  | commit => exact .same rfl rfl rfl
  | inject => exact .same rfl rfl rfl
  | rejectMalformed => exact .same rfl rfl rfl
  | deliver options content message before after named queued wellFormed =>
      refine DeliveryChange.received
        { tag := state.nextTag
          options := options
          content := content
          message := message
          deliveredAt := state.clock
          attached := true
          phase := .claiming } ?_ ?_ ?_ ?_ <;> rfl
  | claim delivery before after now job reported running phase received started unlocked taken =>
      refine .moved before after delivery _ running rfl rfl rfl rfl ?_
      rw [phase]
      cases reported with
      | true => exact .claimed _ job
      | false => exact .claimLost _
  | process delivery before after job outcome running phase =>
      refine .moved before after delivery _ running rfl rfl rfl rfl ?_
      rw [phase]
      exact .processed job outcome
  | complete delivery before after now job response reported running phase taken =>
      refine .moved before after delivery _ running rfl rfl rfl rfl ?_
      rw [phase]
      cases reported with
      | true => exact .completed job response _
      | false => exact .completeLost job response _
  | fail delivery before after now job failure status reported running phase taken =>
      refine .moved before after delivery _ running rfl rfl rfl rfl ?_
      rw [phase]
      cases reported with
      | true => exact .failed job failure _ status
      | false => exact .failLost job failure _
  | statementError delivery before after running awaiting =>
      exact .moved before after delivery _ running rfl rfl rfl rfl (.errored delivery.phase)
  | settle delivery before after action running phase =>
      exact .settled before after delivery action running rfl rfl phase
  | detach delivery before after running connected =>
      exact .moved before after delivery _ running rfl rfl rfl rfl (.detached delivery.phase)
  | crash delivery before after running =>
      exact .crashed before after delivery running rfl rfl

/-! ### What the events of a delivery say about its phase -/

def ExecutePhase.working : ExecutePhase Data Result → Bool
  | .processing _ | .failing _ _ | .completing _ _ => true
  | _ => false

def ExecutePhase.unanswered : ExecutePhase Data Result → Bool
  | .returned _ | .thrown => false
  | _ => true

def Answers (tag : Nat) : WorkerEvent Data Result → Prop
  | .fail other _ _ _ => other = tag
  | .settle other _ _ => other = tag
  | _ => False

/-- `complete` errors: its statement is not executed, or its result is lost. -/
def CompletionErrors (tag : Nat) : WorkerEvent Data Result → Prop
  | .complete other _ _ _ reported => other = tag ∧ reported = false
  | .statementError other (.completing _ _) => other = tag
  | _ => False

theorem Answers.tag_eq {tag : Nat} {event : WorkerEvent Data Result}
    (answers : Answers tag event) : event.tag? = some tag := by
  cases event <;> simp_all [Answers, WorkerEvent.tag?]

theorem CompletionErrors.tag_eq {tag : Nat} {event : WorkerEvent Data Result}
    (errors : CompletionErrors tag event) : event.tag? = some tag := by
  cases event with
  | complete other message response event reported =>
      exact congrArg some errors.1
  | statementError other phase =>
      cases phase with
      | completing job response => exact congrArg some errors
      | claiming | processing | failing | returned | thrown => exact errors.elim
  | _ => exact errors.elim

theorem CompletionErrors.not_answers {tag other : Nat} {event : WorkerEvent Data Result}
    (errors : CompletionErrors tag event) : ¬ Answers other event := by
  cases event <;> simp_all [CompletionErrors, Answers]

namespace PhaseStep

variable {tag : Nat} {message : JobEnvelope} {event : WorkerEvent Data Result}
  {phase later : ExecutePhase Data Result}

theorem tag_eq (step : PhaseStep tag message event phase later) : event.tag? = some tag := by
  cases step <;> rfl

theorem thrown (step : PhaseStep tag message event phase later) (before : phase = .thrown) :
    later = .thrown := by
  cases step <;> first | rfl | exact before | cases before

theorem unanswered (step : PhaseStep tag message event phase later)
    (after : later.unanswered = true) : phase.unanswered = true := by
  cases step <;> first | rfl | exact after | cases after

theorem working (step : PhaseStep tag message event phase later) (after : later.working = true) :
    phase.working = true ∨
      ∃ op job, event = .claim tag message (op, .claimed (some job)) true := by
  cases step with
  | claimed op job =>
      cases job with
      | none => cases after
      | some job => exact Or.inr ⟨op, job, rfl⟩
  | processed job outcome => exact Or.inl rfl
  | completed job response event => cases after
  | failed job failure op status => cases after
  | detached phase => exact Or.inl after
  | claimLost | completeLost | failLost | errored => cases after

theorem answers (step : PhaseStep tag message event phase later) {other : Nat}
    (answered : Answers other event) :
    other = tag ∧ phase.unanswered = true ∧ later.unanswered = false := by
  cases step with
  | failed job failure op status => exact ⟨answered.symm, rfl, rfl⟩
  | failLost job failure event => exact ⟨answered.symm, rfl, rfl⟩
  | claimed | claimLost | processed | completed | completeLost | errored | detached =>
      exact answered.elim

theorem completionErrors (step : PhaseStep tag message event phase later) {other : Nat}
    (errors : CompletionErrors other event) :
    other = tag ∧ phase.unanswered = true ∧ later = .thrown := by
  cases step with
  | completed job response event => cases errors.2
  | completeLost job response event => exact ⟨errors.1.symm, rfl, rfl⟩
  | errored phase =>
      cases phase with
      | completing job response => exact ⟨Eq.symm errors, rfl, rfl⟩
      | claiming | processing | failing | returned | thrown => exact errors.elim
  | claimed | claimLost | processed | failed | failLost | detached => exact errors.elim

end PhaseStep

/-! ### The history of every delivery -/

structure DeliveryHistory (events : List (WorkerEvent Data Result))
    (delivery : Delivery Data Result) : Prop where
  claimHeld : delivery.phase.working = true → ∃ op job,
    .claim delivery.tag delivery.message (op, .claimed (some job)) true ∈ events
  unanswered : delivery.phase.unanswered = true →
    ∀ event ∈ events, ¬ Answers delivery.tag event
  errored : ∀ event ∈ events, CompletionErrors delivery.tag event → delivery.phase = .thrown

structure DeliveriesHistory (events : List (WorkerEvent Data Result))
    (state : SystemState Data Result Digest) : Prop where
  tagsOnce : (state.deliveries.map Delivery.tag).Nodup
  tagsIssued : ∀ delivery ∈ state.deliveries, delivery.tag < state.nextTag
  eventsIssued : ∀ event ∈ events, ∀ tag, event.tag? = some tag → tag < state.nextTag
  each : ∀ delivery ∈ state.deliveries, DeliveryHistory events delivery
  silenced : ∀ tag, ∀ error ∈ events, CompletionErrors tag error →
    ∀ event ∈ events, ¬ Answers tag event

theorem DeliveriesHistory.initial (clock : Timestamp) :
    DeliveriesHistory [] (SystemState.initial clock : SystemState Data Result Digest) :=
  { tagsOnce := List.nodup_nil
    tagsIssued := by intro delivery impossible; cases impossible
    eventsIssued := by intro event impossible; cases impossible
    each := by intro delivery impossible; cases impossible
    silenced := by intro tag error impossible; cases impossible }

theorem DeliveryHistory.snoc {events : List (WorkerEvent Data Result)}
    {delivery : Delivery Data Result} (history : DeliveryHistory events delivery)
    {event : WorkerEvent Data Result} (foreign : event.tag? ≠ some delivery.tag) :
    DeliveryHistory (events ++ [event]) delivery := by
  refine { claimHeld := ?_, unanswered := ?_, errored := ?_ }
  · intro working
    obtain ⟨op, job, member⟩ := history.claimHeld working
    exact ⟨op, job, List.mem_append_left _ member⟩
  · intro open' other member answers
    rcases List.mem_append.mp member with old | new
    · exact history.unanswered open' other old answers
    · rw [List.mem_singleton.mp new] at answers
      exact foreign answers.tag_eq
  · intro other member errors
    rcases List.mem_append.mp member with old | new
    · exact history.errored other old errors
    · rw [List.mem_singleton.mp new] at errors
      exact absurd errors.tag_eq foreign

theorem DeliveryHistory.move {events : List (WorkerEvent Data Result)}
    {delivery later : Delivery Data Result} (history : DeliveryHistory events delivery)
    {event : WorkerEvent Data Result} (tag : later.tag = delivery.tag)
    (message : later.message = delivery.message)
    (step : PhaseStep delivery.tag delivery.message event delivery.phase later.phase) :
    DeliveryHistory (events ++ [event]) later := by
  refine { claimHeld := ?_, unanswered := ?_, errored := ?_ }
  · intro working
    rw [tag, message]
    rcases step.working working with already | ⟨op, job, claimed⟩
    · obtain ⟨op, job, member⟩ := history.claimHeld already
      exact ⟨op, job, List.mem_append_left _ member⟩
    · exact ⟨op, job, by simp [claimed]⟩
  · intro open' other member answers
    rw [tag] at answers
    rcases List.mem_append.mp member with old | new
    · exact history.unanswered (step.unanswered open') other old answers
    · rw [List.mem_singleton.mp new] at answers
      rw [(step.answers answers).2.2] at open'
      cases open'
  · intro other member errors
    rw [tag] at errors
    rcases List.mem_append.mp member with old | new
    · exact step.thrown (history.errored other old errors)
    · rw [List.mem_singleton.mp new] at errors
      exact (step.completionErrors errors).2.2

/-- `silenced` for one more event: the new event neither answers an errored
delivery nor is an error of an answered one. -/
theorem silenced_snoc {events : List (WorkerEvent Data Result)}
    {event : WorkerEvent Data Result}
    (silenced : ∀ tag, ∀ error ∈ events, CompletionErrors tag error →
      ∀ event ∈ events, ¬ Answers tag event)
    (noAnswer : ∀ tag, ∀ error ∈ events, CompletionErrors tag error → ¬ Answers tag event)
    (noError : ∀ tag, CompletionErrors tag event → ∀ other ∈ events, ¬ Answers tag other) :
    ∀ tag, ∀ error ∈ events ++ [event], CompletionErrors tag error →
      ∀ other ∈ events ++ [event], ¬ Answers tag other := by
  intro tag error errorMember errors other otherMember
  rcases List.mem_append.mp errorMember with oldError | newError <;>
    rcases List.mem_append.mp otherMember with oldAnswer | newAnswer
  · exact silenced tag error oldError errors other oldAnswer
  · rw [List.mem_singleton.mp newAnswer]
    exact noAnswer tag error oldError errors
  · rw [List.mem_singleton.mp newError] at errors
    exact noError tag errors other oldAnswer
  · rw [List.mem_singleton.mp newError] at errors
    rw [List.mem_singleton.mp newAnswer]
    exact errors.not_answers

theorem tag_ne_of_nodup {before after : List (Delivery Data Result)}
    {delivery other : Delivery Data Result}
    (tagsOnce : ((before ++ delivery :: after).map Delivery.tag).Nodup)
    (member : other ∈ before ++ after) : other.tag ≠ delivery.tag := by
  rw [List.map_append, List.map_cons] at tagsOnce
  have missing := (List.nodup_middle.mp tagsOnce).notMem
  intro same
  apply missing
  rw [← List.map_append, ← same]
  exact List.mem_map_of_mem member

theorem DeliveriesHistory.eventsIssued_snoc {events : List (WorkerEvent Data Result)}
    {state : SystemState Data Result Digest} (history : DeliveriesHistory events state)
    {event : WorkerEvent Data Result} {bound : Nat} (above : state.nextTag ≤ bound)
    (new : ∀ tag, event.tag? = some tag → tag < bound) :
    ∀ other ∈ events ++ [event], ∀ tag, other.tag? = some tag → tag < bound := by
  intro other member tag tagged
  rcases List.mem_append.mp member with old | added
  · exact (history.eventsIssued other old tag tagged).trans_le above
  · rw [List.mem_singleton.mp added] at tagged
    exact new tag tagged

theorem DeliveriesHistory.others {events : List (WorkerEvent Data Result)}
    {state : SystemState Data Result Digest} (history : DeliveriesHistory events state)
    {event : WorkerEvent Data Result} {before after : List (Delivery Data Result)}
    {delivery : Delivery Data Result} (running : state.deliveries = before ++ delivery :: after)
    (tagged : event.tag? = some delivery.tag) :
    ∀ other ∈ before ++ after, other.tag < state.nextTag ∧
      DeliveryHistory (events ++ [event]) other := by
  intro other member
  have tagsOnce := history.tagsOnce
  rw [running] at tagsOnce
  have present : other ∈ state.deliveries := by
    rw [running]
    exact (List.Sublist.append_left (List.sublist_cons_self delivery after) before).subset member
  refine ⟨history.tagsIssued other present, (history.each other present).snoc ?_⟩
  rw [tagged]
  exact fun same => tag_ne_of_nodup tagsOnce member (Option.some.inj same).symm

theorem DeliveriesHistory.remove {events : List (WorkerEvent Data Result)}
    {state next : SystemState Data Result Digest} {event : WorkerEvent Data Result}
    (history : DeliveriesHistory events state) {before after : List (Delivery Data Result)}
    {delivery : Delivery Data Result} (running : state.deliveries = before ++ delivery :: after)
    (deliveries : next.deliveries = before ++ after) (nextTag : next.nextTag = state.nextTag)
    (tagged : event.tag? = some delivery.tag)
    (noAnswer : ∀ tag, ∀ error ∈ events, CompletionErrors tag error → ¬ Answers tag event)
    (noError : ∀ tag, CompletionErrors tag event → ∀ other ∈ events, ¬ Answers tag other) :
    DeliveriesHistory (events ++ [event]) next := by
  have others := history.others running tagged
  have tagsOnce := history.tagsOnce
  rw [running, List.map_append, List.map_cons] at tagsOnce
  refine
    { tagsOnce := ?_
      tagsIssued := ?_
      eventsIssued := ?_
      each := ?_
      silenced := silenced_snoc history.silenced noAnswer noError }
  · rw [deliveries, List.map_append]
    exact (List.nodup_middle.mp tagsOnce).of_cons
  · intro other member
    rw [deliveries] at member
    exact nextTag ▸ (others other member).1
  · rw [nextTag]
    refine history.eventsIssued_snoc le_rfl ?_
    intro tag sameTag
    cases tagged.symm.trans sameTag
    exact history.tagsIssued delivery (by simp [running])
  · intro other member
    rw [deliveries] at member
    exact (others other member).2

theorem DeliveriesHistory.step {events : List (WorkerEvent Data Result)}
    {state next : SystemState Data Result Digest} {event : WorkerEvent Data Result}
    (history : DeliveriesHistory events state) (change : DeliveryChange state event next) :
    DeliveriesHistory (events ++ [event]) next := by
  cases change with
  | same silent deliveries nextTag =>
      refine
        { tagsOnce := deliveries ▸ history.tagsOnce
          tagsIssued := by rw [deliveries, nextTag]; exact history.tagsIssued
          eventsIssued := by
            rw [nextTag]
            exact history.eventsIssued_snoc le_rfl (by simp [silent])
          each := ?_
          silenced := silenced_snoc history.silenced ?_ ?_ }
      · intro delivery member
        rw [deliveries] at member
        exact (history.each delivery member).snoc (by simp [silent])
      · intro tag error member errors answers
        cases silent.symm.trans answers.tag_eq
      · intro tag errors
        cases silent.symm.trans errors.tag_eq
  | received delivery tag phase deliveries nextTag =>
      refine
        { tagsOnce := ?_
          tagsIssued := ?_
          eventsIssued := by
            rw [nextTag]
            exact history.eventsIssued_snoc (Nat.le_succ _) (by intro tag tagged; cases tagged)
          each := ?_
          silenced := silenced_snoc history.silenced ?_ ?_ }
      · rw [deliveries, List.map_cons, List.nodup_cons, tag]
        refine ⟨?_, history.tagsOnce⟩
        intro member
        obtain ⟨other, running, sameTag⟩ := List.mem_map.mp member
        exact absurd sameTag (history.tagsIssued other running).ne
      · intro other member
        rw [deliveries, List.mem_cons] at member
        rw [nextTag]
        rcases member with rfl | old
        · omega
        · exact (history.tagsIssued other old).trans (Nat.lt_succ_self _)
      · intro other member
        rw [deliveries, List.mem_cons] at member
        rcases member with rfl | old
        · have unused : ∀ event ∈ events, event.tag? ≠ some other.tag := by
            intro event present tagged
            exact absurd (history.eventsIssued event present other.tag tagged) (by omega)
          have fresh : DeliveryHistory events other :=
            { claimHeld := by intro working; rw [phase] at working; cases working
              unanswered := fun _ event present answers => unused event present answers.tag_eq
              errored := fun event present errors =>
                absurd errors.tag_eq (unused event present) }
          exact fresh.snoc (by intro tagged; cases tagged)
        · exact (history.each other old).snoc (by intro tagged; cases tagged)
      · intro tag error member errors answers
        exact answers.elim
      · intro tag errors
        exact errors.elim
  | moved before after delivery later running deliveries nextTag tag message step =>
      have tagsOnce := history.tagsOnce
      rw [running] at tagsOnce
      have self := history.each delivery (by simp [running])
      have others := history.others running step.tag_eq
      refine
        { tagsOnce := ?_
          tagsIssued := ?_
          eventsIssued := by
            rw [nextTag]
            refine history.eventsIssued_snoc le_rfl ?_
            intro other tagged
            cases step.tag_eq.symm.trans tagged
            exact history.tagsIssued delivery (by simp [running])
          each := ?_
          silenced := silenced_snoc history.silenced ?_ ?_ }
      · rw [deliveries]
        simpa [tag] using tagsOnce
      · intro other member
        rw [deliveries, List.mem_append, List.mem_cons] at member
        rw [nextTag]
        rcases member with inBefore | rfl | inAfter
        · exact (others other (List.mem_append_left _ inBefore)).1
        · rw [tag]
          exact history.tagsIssued delivery (by simp [running])
        · exact (others other (List.mem_append_right _ inAfter)).1
      · intro other member
        rw [deliveries, List.mem_append, List.mem_cons] at member
        rcases member with inBefore | rfl | inAfter
        · exact (others other (List.mem_append_left _ inBefore)).2
        · exact self.move tag message step
        · exact (others other (List.mem_append_right _ inAfter)).2
      · intro errorTag error member errors answers
        obtain ⟨rfl, open', _⟩ := step.answers answers
        rw [self.errored error member errors] at open'
        cases open'
      · intro errorTag errors
        obtain ⟨rfl, open', _⟩ := step.completionErrors errors
        exact self.unanswered open'
  | settled before after delivery action running deliveries nextTag phase =>
      have self := history.each delivery (by simp [running])
      refine history.remove running deliveries nextTag rfl ?_ ?_
      · intro tag error member errors answers
        cases (answers : delivery.tag = tag)
        cases phase.symm.trans (self.errored error member errors)
      · intro tag errors
        exact errors.elim
  | crashed before after delivery running deliveries nextTag =>
      refine history.remove running deliveries nextTag rfl ?_ ?_
      · intro tag error member errors answers
        exact answers.elim
      · intro tag errors
        exact errors.elim

theorem run_deliveriesHistory [DecidableEq Digest] {hashing : Hashing Data Digest}
    {collation : JobId → JobId → Bool} {queue : JsString} {clock : Timestamp}
    {state : SystemState Data Result Digest} {events : List (WorkerEvent Data Result)}
    (run : Run (WorkerStep hashing collation queue) (SystemState.initial clock) events state) :
    DeliveriesHistory events state := by
  apply run.historyInvariant DeliveriesHistory (DeliveriesHistory.initial clock)
  intro events state event next history taken
  exact history.step (workerStep_deliveries taken)

end ModelMux.Queue
