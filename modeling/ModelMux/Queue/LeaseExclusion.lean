/-
Leases as mutual exclusion.

A claim leases the row until a time; recovery takes the row away only when the
database clock has passed that time.  As long as every execution ends in time,
the row of an execution that has not ended is active at its attempt and under
its lease.  Nothing else can claim the job, and the statement that ends the
execution finds its row.
-/

import ModelMux.Queue.RetryDelay

namespace ModelMux.Queue

variable {Data Result Digest : Type}

/-! ### Executions in a history -/

/-- What a successful claim gives to a delivery. -/
structure Lease where
  tag : Nat
  message : JobEnvelope
  leaseUntil : Timestamp

namespace WorkerEvent

def lease? : WorkerEvent Data Result → Option Lease
  | .claim tag message (.claim options now _, .claimed (some _)) _ =>
      some ⟨tag, message, now + options.leaseMs⟩
  | _ => none

/-- The delivery's `complete` or `fail` is executed. -/
def ends (tag : Nat) : WorkerEvent Data Result → Bool
  | .complete other _ _ _ _ => other = tag
  | .fail other _ _ _ => other = tag
  | _ => false

end WorkerEvent

def StoreOp.leaseTime? : StoreOp Data Result → Option Timestamp
  | .claim _ now _ => some now
  | .complete _ now _ _ => some now
  | .fail _ now _ _ => some now
  | .maintainRecover _ now => some now
  | _ => none

def WorkerEvent.time? (event : WorkerEvent Data Result) : Option Timestamp :=
  match event.storeEvents with
  | [storeEvent] => storeEvent.1.leaseTime?
  | _ => none

def observeLease (running : List Lease) (event : WorkerEvent Data Result) : List Lease :=
  event.lease?.toList ++ running.filter (fun lease => !event.ends lease.tag)

/-- The executions that have begun and not ended. -/
def openLeases (events : List (WorkerEvent Data Result)) : List Lease :=
  events.foldl observeLease []

theorem openLeases_snoc (events : List (WorkerEvent Data Result)) (event : WorkerEvent Data Result) :
    openLeases (events ++ [event]) = observeLease (openLeases events) event := by
  simp [openLeases, List.foldl_append]

theorem mem_observeLease {running : List Lease} {event : WorkerEvent Data Result} {lease : Lease} :
    lease ∈ observeLease running event ↔
      event.lease? = some lease ∨ lease ∈ running ∧ event.ends lease.tag = false := by
  simp [observeLease, List.mem_filter, Option.mem_toList]

theorem mem_openLeases {events : List (WorkerEvent Data Result)} {lease : Lease} :
    lease ∈ openLeases events ↔
      ∃ before claim after, events = before ++ claim :: after ∧ claim.lease? = some lease ∧
        ∀ event ∈ after, event.ends lease.tag = false := by
  induction events using List.reverseRecOn with
  | nil => simp [openLeases]
  | append_singleton events last ih =>
      rw [openLeases_snoc, mem_observeLease, ih]
      constructor
      · rintro (claimed | ⟨⟨before, claim, after, rfl, claimed, running⟩, continues⟩)
        · exact ⟨events, last, [], rfl, claimed, by simp⟩
        · refine ⟨before, claim, after ++ [last], by simp, claimed, ?_⟩
          intro event member
          rcases List.mem_append.mp member with old | new
          · exact running event old
          · rw [List.mem_singleton.mp new]
            exact continues
      · rintro ⟨before, claim, after, split, claimed, running⟩
        rcases split_snoc split with ⟨rfl, rfl, rfl⟩ | ⟨rest, rfl, rfl⟩
        · exact Or.inl claimed
        · refine Or.inr ⟨⟨before, claim, rest, rfl, claimed, ?_⟩, running last (by simp)⟩
          intro event member
          exact running event (by simp [member])

/-! ### Executions that end in time -/

def ClockForward (events : List (WorkerEvent Data Result)) : Prop :=
  (events.filterMap WorkerEvent.time?).Pairwise (· ≤ ·)

/-- Every claim is followed by its `complete` or `fail` no later than its lease, or
has not been followed yet while the clock has not passed the lease. -/
def EndsInTime (events : List (WorkerEvent Data Result)) : Prop :=
  ∀ before claim after lease, events = before ++ claim :: after → claim.lease? = some lease →
    (∃ middle outcome later, after = middle ++ outcome :: later ∧
        outcome.ends lease.tag = true ∧ ∃ now, outcome.time? = some now ∧ now ≤ lease.leaseUntil) ∨
      (∀ event ∈ after, event.ends lease.tag = false) ∧
        ∀ event ∈ after, ∀ now, event.time? = some now → now ≤ lease.leaseUntil

/-- No statement reads a time past the lease of an execution that has not ended before it. -/
def WithinLeases (running : List Lease) (event : WorkerEvent Data Result) : Prop :=
  ∀ lease ∈ running, ∀ now, event.time? = some now → now ≤ lease.leaseUntil

theorem time_le_of_forward {before middle after : List (WorkerEvent Data Result)}
    {event later : WorkerEvent Data Result} {now time : Timestamp}
    (forward : ClockForward (before ++ event :: (middle ++ later :: after)))
    (eventTime : event.time? = some now) (laterTime : later.time? = some time) : now ≤ time := by
  have ordered := forward
  rw [ClockForward, List.filterMap_append, List.pairwise_append, List.filterMap_cons,
    eventTime] at ordered
  have first := (List.pairwise_cons.mp ordered.2.1).1
  refine first time ?_
  rw [List.mem_filterMap]
  exact ⟨later, by simp, laterTime⟩

theorem withinLeases_of_endsInTime {before after : List (WorkerEvent Data Result)}
    {event : WorkerEvent Data Result} (forward : ClockForward (before ++ event :: after))
    (timely : EndsInTime (before ++ event :: after)) : WithinLeases (openLeases before) event := by
  intro lease member now eventTime
  obtain ⟨earlier, claim, middle, rfl, claimed, running⟩ := mem_openLeases.mp member
  have split : earlier ++ claim :: middle ++ event :: after =
      earlier ++ claim :: (middle ++ event :: after) := by simp
  rcases timely earlier claim (middle ++ event :: after) lease split claimed with
    ⟨upTo, outcome, suffix, follows, ending, time, outcomeTime, early⟩ | ⟨_, unpassed⟩
  · -- The execution ends at this statement or at a later one.
    rcases List.append_eq_append_iff.mp follows with ⟨between, rfl, rest⟩ | ⟨between, rfl, rest⟩
    · cases between with
      | nil =>
          cases rest
          cases eventTime.symm.trans outcomeTime
          exact early
      | cons first between =>
          cases rest
          exact (time_le_of_forward forward eventTime outcomeTime).trans early
    · cases between with
      | nil =>
          cases rest
          cases eventTime.symm.trans outcomeTime
          exact early
      | cons first between =>
          cases rest
          rw [running outcome (by simp)] at ending
          cases ending
  · exact unpassed event (by simp) now eventTime

/-! ### Rows under a lease -/

structure Leased (lease : Lease) (row : JobRow Data Result Digest) : Prop where
  active : row.status = .active
  attempt : row.attemptsMade = lease.message.attempt
  until' : row.leaseUntil = some lease.leaseUntil

def StoreOp.Spares (lease : Lease) : StoreOp Data Result → Prop
  | .complete _ _ message _ => message.id ≠ lease.message.id
  | .fail _ _ message _ => message.id ≠ lease.message.id
  | .maintainRecover _ now => now ≤ lease.leaseUntil
  | _ => True

theorem claimWhere_waiting {options : JobStoreOptions} {now : Timestamp} {message : JobEnvelope}
    {row : JobRow Data Result Digest} (holds : claimWhere options now message row = true) :
    row.status.waiting = true := by
  simp only [claimWhere, Bool.and_eq_true] at holds
  exact holds.1.1.1.2

section Steps

variable [DecidableEq Digest] {hashing : Hashing Data Digest} {collation : JobId → JobId → Bool}
  {queue : JsString}

theorem Leased.kept {lease : Lease} {op : StoreOp Data Result} {outcome : StoreOutcome Data Result}
    {state next : StoreState Data Result Digest} {row : JobRow Data Result Digest}
    (leased : Leased lease row) (found : state.table.lookup lease.message.id = some row)
    (consistent : RowConsistent row) (spared : op.Spares lease)
    (taken : storeStep hashing collation state (op, outcome) next) :
    ∃ later, next.table.lookup lease.message.id = some later ∧ Leased lease later := by
  have unchanged : next.table.lookup lease.message.id = state.table.lookup lease.message.id →
      ∃ later, next.table.lookup lease.message.id = some later ∧ Leased lease later :=
    fun same => ⟨row, same.trans found, leased⟩
  obtain ⟨_, executed⟩ := taken
  cases op with
  | insert call options now uuid submission =>
      change execInsert hashing call options now uuid submission state = (outcome, next) at executed
      rcases execInsert_cases hashing call options now uuid submission state with
        ⟨table, _, placed, result⟩ | ⟨_, _, result⟩ | ⟨_, result⟩
      · rw [result] at executed
        cases executed
        apply unchanged
        rw [KeyedTable.lookup_insert placed, if_neg]
        intro same
        have absent := KeyedTable.lookup_fresh placed
        rw [same, found] at absent
        cases absent
      · rw [result] at executed
        cases executed
        exact unchanged rfl
      · rw [result] at executed
        cases executed
        exact unchanged rfl
  | select call =>
      have same := (execSelect_table hashing call state).1
      change execSelect hashing call state = (outcome, next) at executed
      rw [executed] at same
      exact unchanged (by rw [same])
  | getJob options wanted ownerId =>
      cases executed
      exact unchanged rfl
  | dispatchOne options now locked committed =>
      change execDispatch collation options now locked committed state = (outcome, next) at executed
      unfold execDispatch at executed
      split at executed
      · cases executed
        exact unchanged rfl
      · rename_i chosen _
        cases executed
        cases committed with
        | false => exact unchanged rfl
        | true =>
            simp only [if_true, lookup_dispatchMark]
            split
            · exact ⟨dispatchSet row, by simp [found], ⟨leased.active, leased.attempt, leased.until'⟩⟩
            · exact ⟨row, found, leased⟩
  | claim options now message =>
      cases executed
      rcases claim_cases options now message state.table with
        ⟨_, same⟩ | ⟨claimed, present, holds, _, _, others⟩
      · exact unchanged (same _)
      · apply unchanged
        apply others
        intro sameId
        rw [← sameId, found] at present
        cases present
        have waiting := claimWhere_waiting holds
        rw [leased.active] at waiting
        cases waiting
  | complete options now message response =>
      cases executed
      rcases complete_cases options now message response state.table with
        same | ⟨_, _, _, _, others⟩
      · exact unchanged (same _)
      · exact unchanged (others _ (Ne.symm spared))
  | fail options now message error =>
      cases executed
      rcases fail_cases options now message error state.table with
        ⟨_, same⟩ | ⟨_, _, _, _, _, others⟩
      · exact unchanged (same _)
      · exact unchanged (others _ (Ne.symm spared))
  | maintainRecover options now =>
      cases executed
      rcases lookup_update_cases state.table (recoverWhere options now) (recoverSet now)
          (fun _ => rfl) (fun _ => rfl) lease.message.id with same | ⟨recovered, present, holds, _⟩
      · exact unchanged same
      · -- Recovery needs a lease that the clock has passed.
        cases found.symm.trans present
        simp only [recoverWhere, Bool.and_eq_true, leased.until', Option.any_some,
          decide_eq_true_eq] at holds
        exact absurd holds.2 (not_lt.mpr spared)
  | maintainDelete options now =>
      cases executed
      apply unchanged
      change (state.table.delete (deleteWhere options now)).lookup lease.message.id = _
      have unfinished : row.finishedAt = none := by
        cases finished : row.finishedAt with
        | none => rfl
        | some time =>
            have terminal := consistent.finished.mp (by simp [finished])
            rw [leased.active] at terminal
            cases terminal
      rw [KeyedTable.lookup_delete, found]
      simp [Option.filter, deleteWhere, unfinished]

/-- A successful claim finds the row waiting and leaves it leased. -/
theorem workerStep_lease {state next : SystemState Data Result Digest}
    {event : WorkerEvent Data Result} {lease : Lease}
    (taken : WorkerStep hashing collation queue state event next)
    (claimed : event.lease? = some lease) :
    (∃ row, state.store.table.lookup lease.message.id = some row ∧ row.status.waiting = true) ∧
      ∃ later, next.store.table.lookup lease.message.id = some later ∧ Leased lease later := by
  cases taken with
  | claim delivery before after now job reported running phase received started unlocked taken =>
      cases job with
      | none => cases claimed
      | some job =>
          cases claimed
          have answered := congrArg Prod.fst taken.2
          have stored := congrArg (fun pair => pair.2.table) taken.2
          simp only [exec, StoreOutcome.claimed.injEq] at answered stored
          rcases claim_cases delivery.options now delivery.message state.store.table with
            ⟨missing, _⟩ | ⟨row, found, holds, _, updated, _⟩
          · rw [missing] at answered
            cases answered
          · refine ⟨⟨row, found, claimWhere_waiting holds⟩, _, stored ▸ updated, ?_⟩
            exact ⟨rfl, rfl, rfl⟩
  | _ => cases claimed

/-! ### Running executions hold their rows -/

structure LeasesHeld (events : List (WorkerEvent Data Result))
    (state : SystemState Data Result Digest) : Prop where
  held : ∀ lease ∈ openLeases events, ∃ row,
    state.store.table.lookup lease.message.id = some row ∧ Leased lease row
  apart : ∀ lease ∈ openLeases events, ∀ other ∈ openLeases events,
    lease.message.id = other.message.id → lease = other
  working : ∀ delivery ∈ state.deliveries, delivery.phase.working = true →
    ∃ lease ∈ openLeases events, lease.tag = delivery.tag ∧ lease.message = delivery.message

omit [DecidableEq Digest] in
theorem LeasesHeld.initial (clock : Timestamp) :
    LeasesHeld [] (SystemState.initial clock : SystemState Data Result Digest) :=
  { held := by intro lease impossible; cases impossible
    apart := by intro lease impossible; cases impossible
    working := by intro delivery impossible; cases impossible }

/-- Statements of other deliveries and recoveries in time spare a running execution. -/
theorem LeasesHeld.spares {events : List (WorkerEvent Data Result)}
    {state next : SystemState Data Result Digest} {event : WorkerEvent Data Result}
    (holds : LeasesHeld events state) (taken : WorkerStep hashing collation queue state event next)
    (within : WithinLeases (openLeases events) event) {lease : Lease}
    (member : lease ∈ openLeases events) (continues : event.ends lease.tag = false)
    {storeEvent : StoreEvent Data Result} (announced : event.storeEvents = [storeEvent]) :
    storeEvent.1.Spares lease := by
  have foreign : ∀ delivery ∈ state.deliveries, delivery.phase.working = true →
      delivery.tag ≠ lease.tag → delivery.message.id ≠ lease.message.id := by
    intro delivery running working different same
    obtain ⟨other, listed, tag, message⟩ := holds.working delivery running working
    apply different
    rw [← tag, holds.apart other listed lease member (message ▸ same)]
  cases taken with
  | gateway submits stepped =>
      cases announced
      obtain ⟨op, outcome⟩ := storeEvent
      cases op <;> trivial
  | maintain maintains stepped =>
      cases announced
      obtain ⟨op, outcome⟩ := storeEvent
      cases op with
      | maintainRecover options now => exact within lease member now rfl
      | maintainDelete options now => trivial
      | _ => exact maintains.elim
  | commit transaction before after running phase =>
      cases announced
      trivial
  | claim delivery before after now job reported running phase received started unlocked stepped =>
      cases announced
      trivial
  | complete delivery before after now job response reported running phase stepped =>
      cases announced
      apply foreign delivery (by simp [running]) (by rw [phase]; rfl)
      simpa [WorkerEvent.ends] using continues
  | fail delivery before after now job failure status reported running phase stepped =>
      cases announced
      apply foreign delivery (by simp [running]) (by rw [phase]; rfl)
      simpa [WorkerEvent.ends] using continues
  | _ => cases announced

omit [DecidableEq Digest] in
theorem tag_of_ends {event : WorkerEvent Data Result} {tag : Nat} (ending : event.ends tag = true) :
    event.tag? = some tag := by
  cases event <;> simp_all [WorkerEvent.ends, WorkerEvent.tag?]

omit [DecidableEq Digest] in
theorem ends_of_tag {event : WorkerEvent Data Result} {tag : Nat} (foreign : event.tag? ≠ some tag) :
    event.ends tag = false := by
  rw [← Bool.not_eq_true]
  exact fun ending => foreign (tag_of_ends ending)

omit [DecidableEq Digest] in
theorem PhaseStep.lease {tag : Nat} {message : JobEnvelope} {event : WorkerEvent Data Result}
    {phase later : ExecutePhase Data Result} (step : PhaseStep tag message event phase later)
    (working : later.working = true) :
    (phase.working = true ∧ event.ends tag = false) ∨
      ∃ op job, event = .claim tag message (op, .claimed (some job)) true := by
  cases step with
  | claimed op job =>
      cases job with
      | none => cases working
      | some job => exact Or.inr ⟨op, job, rfl⟩
  | processed job outcome => exact Or.inl ⟨rfl, rfl⟩
  | detached phase => exact Or.inl ⟨working, rfl⟩
  | completed | failed | claimLost | completeLost | failLost | errored => cases working

theorem workerStep_claimOp {state next : SystemState Data Result Digest} {tag : Nat}
    {message : JobEnvelope} {op : StoreOp Data Result} {job : ProcessingJob Data} {reported : Bool}
    (taken : WorkerStep hashing collation queue state
      (.claim tag message (op, .claimed (some job)) reported) next) :
    ∃ options now, op = .claim options now message := by
  cases taken with
  | claim delivery before after now job reported running phase received started unlocked stepped =>
      exact ⟨_, _, rfl⟩

theorem LeasesHeld.working_step {events : List (WorkerEvent Data Result)}
    {state next : SystemState Data Result Digest} {event : WorkerEvent Data Result}
    (holds : LeasesHeld events state) (tagsOnce : (state.deliveries.map Delivery.tag).Nodup)
    (taken : WorkerStep hashing collation queue state event next) :
    ∀ delivery ∈ next.deliveries, delivery.phase.working = true →
      ∃ lease ∈ openLeases (events ++ [event]),
        lease.tag = delivery.tag ∧ lease.message = delivery.message := by
  have kept : ∀ delivery ∈ state.deliveries, delivery.phase.working = true →
      event.ends delivery.tag = false → ∃ lease ∈ openLeases (events ++ [event]),
        lease.tag = delivery.tag ∧ lease.message = delivery.message := by
    intro delivery running working continues
    obtain ⟨lease, member, tag, message⟩ := holds.working delivery running working
    rw [openLeases_snoc]
    exact ⟨lease, mem_observeLease.mpr (Or.inr ⟨member, tag ▸ continues⟩), tag, message⟩
  intro delivery member working
  cases workerStep_deliveries taken with
  | same silent deliveries _ =>
      rw [deliveries] at member
      exact kept delivery member working (ends_of_tag (by simp [silent]))
  | received fresh _ phase deliveries _ =>
      rw [deliveries, List.mem_cons] at member
      rcases member with rfl | old
      · rw [phase] at working
        cases working
      · exact kept delivery old working rfl
  | moved before after moving later running deliveries _ tag message step =>
      rw [deliveries, List.mem_append, List.mem_cons] at member
      rw [running] at tagsOnce
      have others : delivery ∈ before ++ after → ∃ lease ∈ openLeases (events ++ [event]),
          lease.tag = delivery.tag ∧ lease.message = delivery.message := by
        intro old
        have different := tag_ne_of_nodup tagsOnce old
        apply kept delivery _ working
        · apply ends_of_tag
          rw [step.tag_eq]
          exact fun same => different (Option.some.inj same).symm
        · rw [running]
          exact (List.Sublist.append_left (List.sublist_cons_self moving after) before).subset old
      rcases member with inBefore | rfl | inAfter
      · exact others (List.mem_append_left _ inBefore)
      · rcases step.lease working with ⟨already, continues⟩ | ⟨op, job, rfl⟩
        · rw [tag, message]
          exact kept moving (by simp [running]) already continues
        · obtain ⟨options, now, rfl⟩ := workerStep_claimOp taken
          rw [openLeases_snoc, tag, message]
          exact ⟨⟨_, _, _⟩, mem_observeLease.mpr (Or.inl rfl), rfl, rfl⟩
      · exact others (List.mem_append_right _ inAfter)
  | settled before after gone action running deliveries _ phase =>
      rw [deliveries] at member
      apply kept delivery _ working rfl
      rw [running]
      exact (List.Sublist.append_left (List.sublist_cons_self gone after) before).subset member
  | crashed before after gone running deliveries _ =>
      rw [deliveries] at member
      apply kept delivery _ working rfl
      rw [running]
      exact (List.Sublist.append_left (List.sublist_cons_self gone after) before).subset member

theorem LeasesHeld.step {events : List (WorkerEvent Data Result)}
    {state next : SystemState Data Result Digest} {event : WorkerEvent Data Result}
    (holds : LeasesHeld events state) (invariant : SystemInvariant queue state)
    (tagsOnce : (state.deliveries.map Delivery.tag).Nodup)
    (taken : WorkerStep hashing collation queue state event next)
    (within : WithinLeases (openLeases events) event) : LeasesHeld (events ++ [event]) next := by
  have free : ∀ lease ∈ openLeases events, ∀ other, event.lease? = some other →
      lease.message.id ≠ other.message.id := by
    intro lease member other claimed same
    obtain ⟨row, found, leased⟩ := holds.held lease member
    obtain ⟨⟨waiting, present, status⟩, _⟩ := workerStep_lease taken claimed
    rw [← same, found] at present
    cases present
    rw [leased.active] at status
    cases status
  refine { held := ?_, apart := ?_, working := holds.working_step tagsOnce taken }
  · intro lease member
    rw [openLeases_snoc] at member
    rcases mem_observeLease.mp member with claimed | ⟨old, continues⟩
    · exact (workerStep_lease taken claimed).2
    · obtain ⟨row, found, leased⟩ := holds.held lease old
      rcases workerStep_store invariant taken with ⟨_, same⟩ | ⟨storeEvent, announced, stepped⟩
      · rw [same]
        exact ⟨row, found, leased⟩
      · exact leased.kept found (invariant.consistent _ row found)
          (holds.spares taken within old continues announced) stepped
  · intro lease member other otherMember same
    rw [openLeases_snoc] at member otherMember
    rcases mem_observeLease.mp member with claimed | ⟨old, _⟩ <;>
      rcases mem_observeLease.mp otherMember with otherClaimed | ⟨otherOld, _⟩
    · exact Option.some.inj (claimed.symm.trans otherClaimed)
    · exact absurd same.symm (free other otherOld lease claimed)
    · exact absurd same (free lease old other otherClaimed)
    · exact holds.apart lease old other otherOld same

theorem run_leasesHeld {clock : Timestamp} {state : SystemState Data Result Digest}
    {events : List (WorkerEvent Data Result)}
    (run : Run (WorkerStep hashing collation queue) (SystemState.initial clock) events state)
    (within : Throughout (fun before event => WithinLeases (openLeases before) event) events) :
    LeasesHeld events state := by
  induction run with
  | refl => exact .initial clock
  | @snoc middle last history event before taken ih =>
      obtain ⟨earlier, now⟩ := throughout_snoc.mp within
      exact (ih earlier).step (run_invariant before) (run_deliveriesHistory before).tagsOnce taken now

/-! ### Mutual exclusion -/

def updatedRows (table : JobTable Data Result Digest) : StoreOp Data Result → ℕ
  | .complete options _ message _ => (table.rows.filter (outcomeWhere options message)).length
  | .fail options _ message _ => (table.rows.filter (outcomeWhere options message)).length
  | _ => 0

omit [DecidableEq Digest] in
theorem filter_outcomeWhere {table : JobTable Data Result Digest} {options : JobStoreOptions}
    {message : JobEnvelope} {row : JobRow Data Result Digest}
    (found : table.lookup message.id = some row) (holds : outcomeWhere options message row = true) :
    (table.rows.filter (outcomeWhere options message)).length = 1 := by
  have member := KeyedTable.lookup_mem found
  have listed : row ∈ table.rows.filter (outcomeWhere options message) :=
    List.mem_filter.mpr ⟨member, holds⟩
  have only : ∀ other ∈ table.rows.filter (outcomeWhere options message), other = row := by
    intro other matched
    obtain ⟨present, matched⟩ := List.mem_filter.mp matched
    exact KeyedTable.eq_of_key present member
      ((outcomeWhere_id matched).trans (outcomeWhere_id holds).symm)
  have once : (table.rows.filter (outcomeWhere options message)).Nodup :=
    (table.primaryKey.of_map _).filter _
  generalize table.rows.filter (outcomeWhere options message) = rows at listed only once
  match rows, listed, only, once with
  | [_], _, _, _ => rfl
  | first :: second :: rest, _, only, once =>
      have same : first = second := (only first (by simp)).trans (only second (by simp)).symm
      simp [same] at once

/-- An outcome statement of a delivery that is working finds exactly its own row. -/
theorem LeasesHeld.updates {events : List (WorkerEvent Data Result)}
    {state next : SystemState Data Result Digest} {event : WorkerEvent Data Result} {tag : Nat}
    (holds : LeasesHeld events state) (invariant : SystemInvariant queue state)
    (taken : WorkerStep hashing collation queue state event next) (ending : event.ends tag = true) :
    ∃ storeEvent, event.storeEvents = [storeEvent] ∧
      updatedRows state.store.table storeEvent.1 = 1 ∧
      OutcomeStored state.store.table next.store.table storeEvent := by
  have matched : ∀ delivery ∈ state.deliveries, delivery.phase.working = true →
      ∃ row, state.store.table.lookup delivery.message.id = some row ∧
        outcomeWhere delivery.options delivery.message row = true := by
    intro delivery running working
    obtain ⟨lease, member, _, message⟩ := holds.working delivery running working
    obtain ⟨row, found, leased⟩ := holds.held lease member
    rw [message] at found
    refine ⟨row, found, ?_⟩
    have key : row.id = delivery.message.id := KeyedTable.lookup_key found
    have queueName := (invariant.stored _ row found).named
    have named := (invariant.delivered delivery running).named
    simp [outcomeWhere, key, leased.attempt, message, queueName, named, leased.active]
  cases taken with
  | complete delivery before after now job response reported running phase stepped =>
      obtain ⟨row, found, conditions⟩ :=
        matched delivery (by simp [running]) (by rw [phase]; rfl)
      exact ⟨_, rfl, filter_outcomeWhere found conditions, complete_stored found conditions stepped⟩
  | fail delivery before after now job failure status reported running phase stepped =>
      obtain ⟨row, found, conditions⟩ :=
        matched delivery (by simp [running]) (by rw [phase]; rfl)
      exact ⟨_, rfl, filter_outcomeWhere found conditions, fail_stored found conditions stepped⟩
  | _ => cases ending

theorem leases_exclude {clock : Timestamp} {last : SystemState Data Result Digest}
    {events : List (WorkerEvent Data Result)}
    (run : Run (WorkerStep hashing collation queue) (SystemState.initial clock) events last)
    (forward : ClockForward events) (timely : EndsInTime events) :
    (∀ before first middle second after lease later,
      events = before ++ first :: (middle ++ second :: after) →
      first.lease? = some lease → second.lease? = some later →
      lease.message.id = later.message.id →
        ∃ outcome ∈ middle, outcome.ends lease.tag = true ∧
          ∀ ended begun, outcome.time? = some ended → second.time? = some begun → ended ≤ begun) ∧
      ∀ before outcome after tag, events = before ++ outcome :: after → outcome.ends tag = true →
        ∃ state next storeEvent,
          Run (WorkerStep hashing collation queue) (SystemState.initial clock) before state ∧
          WorkerStep hashing collation queue state outcome next ∧
          Run (WorkerStep hashing collation queue) next after last ∧
          outcome.storeEvents = [storeEvent] ∧ updatedRows state.store.table storeEvent.1 = 1 ∧
          OutcomeStored state.store.table next.store.table storeEvent := by
  have within : Throughout (fun before event => WithinLeases (openLeases before) event) events := by
    rintro before event after rfl
    exact withinLeases_of_endsInTime forward timely
  refine ⟨?_, ?_⟩
  · rintro before first middle second after lease later rfl claimed claimedLater same
    have regrouped : before ++ first :: (middle ++ second :: after) =
        (before ++ first :: middle) ++ second :: after := by simp
    by_cases ended : ∃ outcome ∈ middle, outcome.ends lease.tag = true
    · obtain ⟨outcome, member, ending⟩ := ended
      refine ⟨outcome, member, ending, ?_⟩
      intro endedAt begunAt outcomeTime secondTime
      obtain ⟨front, back, rfl⟩ := List.append_of_mem member
      have ordered : ClockForward
          ((before ++ first :: front) ++ outcome :: (back ++ second :: after)) := by
        simpa using forward
      exact time_le_of_forward ordered outcomeTime secondTime
    · -- The first execution still runs, so its row is not waiting for a claim.
      have running : ∀ event ∈ middle, event.ends lease.tag = false := by
        intro event member
        rw [← Bool.not_eq_true]
        exact fun ending => ended ⟨event, member, ending⟩
      have opened : lease ∈ openLeases (before ++ first :: middle) :=
        mem_openLeases.mpr ⟨before, first, middle, rfl, claimed, running⟩
      rw [regrouped] at run within
      obtain ⟨state, _, upTo, taken, _⟩ := run.split_event _ _ _
      obtain ⟨row, found, leased⟩ := (run_leasesHeld upTo within.earlier).held lease opened
      obtain ⟨⟨waiting, present, status⟩, _⟩ := workerStep_lease taken claimedLater
      rw [← same, found] at present
      cases present
      rw [leased.active] at status
      cases status
  · rintro before outcome after tag rfl ending
    obtain ⟨state, next, upTo, taken, continued⟩ := run.split_event before after outcome
    obtain ⟨storeEvent, announced, once, stored⟩ :=
      (run_leasesHeld upTo within.earlier).updates (run_invariant upTo) taken ending
    exact ⟨state, next, storeEvent, upTo, taken, continued, announced, once, stored⟩

end Steps

/-! ### A retried job -/

def endsInTime : List (WorkerEvent Data Result) → Bool
  | [] => true
  | event :: after =>
      (match event.lease? with
        | none => true
        | some lease => after.any (fun outcome =>
            outcome.ends lease.tag && outcome.time?.any (fun now => now ≤ lease.leaseUntil))) &&
        endsInTime after

theorem endsInTime_sound {events : List (WorkerEvent Data Result)}
    (checked : endsInTime events = true) : EndsInTime events := by
  rintro before claim after lease rfl claimed
  induction before with
  | nil =>
      simp only [List.nil_append, endsInTime, claimed, Bool.and_eq_true, List.any_eq_true] at checked
      obtain ⟨⟨outcome, member, ending, early⟩, _⟩ := checked
      obtain ⟨middle, later, rfl⟩ := List.append_of_mem member
      obtain ⟨now, outcomeTime, inTime⟩ := (Option.any_eq_true _ _).mp early
      exact Or.inl ⟨middle, outcome, later, rfl, ending, now, outcomeTime, of_decide_eq_true inTime⟩
  | cons first before ih =>
      simp only [List.cons_append, endsInTime, Bool.and_eq_true] at checked
      exact ih checked.2

def sampleCompletion : StoreOp JsString JsString :=
  .complete sampleOptions 5001 sampleRetry sampleAnswer

def sampleExclusion : List (WorkerEvent JsString JsString) :=
  sampleClaimedEvents ++ [.process 0] ++ [sampleFailEvent] ++ sampleRetryEvents ++ [.process 1] ++
    [.complete 1 sampleRetry sampleAnswer (sampleCompletion, .done) true]

theorem sampleExclusion_steps :
    ∃ last, Run (WorkerStep sampleHashing JsString.le sampleOptions.name) (SystemState.initial 0)
      sampleExclusion last := by
  have retried := (sampleFailing_steps.snoc sampleFailed_step).append sampleRetry_steps
  have processed : WorkerStep sampleHashing JsString.le sampleOptions.name
      (sampleRetried (.processing sampleRetryJob)) (.process 1)
      (sampleRetried (.completing sampleRetryJob sampleAnswer)) :=
    .process _ (sampleRetryDelivery (.processing sampleRetryJob)) []
      [sampleDelivery (.returned .ack)] sampleRetryJob (.response sampleAnswer) rfl rfl
  have completed := @WorkerStep.complete _ _ _ _ sampleHashing JsString.le sampleOptions.name
    (sampleRetried (.completing sampleRetryJob sampleAnswer))
    (sampleRetryDelivery (.completing sampleRetryJob sampleAnswer)) []
    [sampleDelivery (.returned .ack)] 5001 sampleRetryJob sampleAnswer _ true rfl rfl ⟨trivial, rfl⟩
  exact ⟨_, (retried.snoc processed).snoc completed⟩

/-- The first execution has ended before the second one begins, and the second one
stores its result. -/
theorem leases_exclude_sample :
    (∃ outcome ∈ [.process 0, sampleFailEvent] ++ sampleRetryEvents.take 3,
        outcome.ends 0 = true) ∧
      ∃ state next : SystemState JsString JsString JsString,
        updatedRows state.store.table sampleCompletion = 1 ∧
          ∃ row, next.store.table.lookup sampleRetry.id = some row ∧ row.status = .completed ∧
            row.response = some sampleAnswer := by
  obtain ⟨last, run⟩ := sampleExclusion_steps
  have forward : ClockForward sampleExclusion := by
    unfold ClockForward
    decide +kernel
  have timely : EndsInTime sampleExclusion := endsInTime_sound (by decide +kernel)
  obtain ⟨exclusive, updates⟩ := leases_exclude run forward timely
  refine ⟨?_, ?_⟩
  · obtain ⟨outcome, member, ending, _⟩ := exclusive
      (sampleDispatchedEvents ++ [.deliver 0 (dispatchMessage sampleRow)]) _
      ([.process 0, sampleFailEvent] ++ sampleRetryEvents.take 3) _ _
      ⟨0, dispatchMessage sampleRow, 0 + sampleOptions.leaseMs⟩
      ⟨1, sampleRetry, 5000 + sampleOptions.leaseMs⟩ rfl rfl rfl rfl
    exact ⟨outcome, member, ending⟩
  · obtain ⟨state, next, storeEvent, _, _, _, announced, once, kept⟩ := updates _ _ [] 1 rfl rfl
    cases announced
    cases kept with
    | complete _ _ _ _ _ later _ _ _ stored _ status answer _ =>
        exact ⟨state, next, once, later, stored, status, answer⟩

end ModelMux.Queue
