/-
No accepted job is lost.

A waiting row that is no longer pending depends on a message.  The invariant
therefore follows that message from its publication, still inside the
dispatcher's transaction, to the claim it triggers.  The delivery must not be
older than the row's `available_at`: otherwise its claim could find the row
unavailable, and the acknowledgement of a null claim would discard the last
message the row depends on.
-/

import ModelMux.Queue.Worker

namespace ModelMux.Queue

variable {Data Result Digest : Type}

/-! ### The invariant -/

/-- A delivery whose claim is still to come, received when the row was available. -/
structure CanClaim (delivery : Delivery Data Result) (row : JobRow Data Result Digest) : Prop where
  attached : delivery.attached = true
  content : delivery.content = stringifyEnvelope (dispatchMessage row)
  phase : delivery.phase = .claiming ∨ delivery.phase = .thrown
  available : row.availableAt ≤ delivery.deliveredAt

namespace SystemState

def Carries (state : SystemState Data Result Digest) (row : JobRow Data Result Digest) : Prop :=
  stringifyEnvelope (dispatchMessage row) ∈ state.ready ∨
    ∃ delivery ∈ state.deliveries, CanClaim delivery row

def Published (state : SystemState Data Result Digest) (id : JobId) : Prop :=
  ∃ transaction ∈ state.transactions,
    transaction.message.id = id ∧ transaction.phase ≠ .selected

end SystemState

structure TransactionSound (queue : JsString) (clock : Timestamp)
    (table : JobTable Data Result Digest) (transaction : Transaction) : Prop where
  named : transaction.options.name = queue
  started : transaction.now ≤ clock
  selected : ∃ row, table.lookup transaction.message.id = some row ∧
    dispatchWhere transaction.options transaction.now row = true ∧
    transaction.message = dispatchMessage row

structure DeliverySound (queue : JsString) (clock : Timestamp)
    (delivery : Delivery Data Result) : Prop where
  named : delivery.options.name = queue
  received : delivery.deliveredAt ≤ clock
  read : readEnvelope delivery.content = some delivery.message

structure RowSound (queue : JsString) (row : JobRow Data Result Digest) : Prop where
  named : row.queueName = queue
  identified : ∃ uuid, row.id = jobId uuid

structure SystemInvariant (queue : JsString) (state : SystemState Data Result Digest) : Prop where
  consistent : TableConsistent state.store.table
  stored : ∀ id row, state.store.table.lookup id = some row → RowSound queue row
  lockedOnce : state.locked.Nodup
  dispatching : ∀ transaction ∈ state.transactions,
    TransactionSound queue state.clock state.store.table transaction
  delivered : ∀ delivery ∈ state.deliveries, DeliverySound queue state.clock delivery
  supplied : ∀ id row, state.store.table.lookup id = some row → row.status.waiting = true →
    row.dispatchPending = false ∨ state.Published id →
      row.availableAt ≤ state.clock ∧ state.Carries row

theorem SystemInvariant.initial (queue : JsString) (clock : Timestamp) :
    SystemInvariant queue (SystemState.initial clock : SystemState Data Result Digest) :=
  { consistent := initial_consistent
    stored := by intro id row impossible; cases impossible
    lockedOnce := List.nodup_nil
    dispatching := by intro transaction impossible; cases impossible
    delivered := by intro delivery impossible; cases impossible
    supplied := by intro id row impossible; cases impossible }

/-! ### Messages of waiting rows -/

theorem dispatchWhere_waiting {options : JobStoreOptions} {now : Timestamp}
    {row : JobRow Data Result Digest} (holds : dispatchWhere options now row = true) :
    row.status.waiting = true ∧ row.availableAt ≤ now := by
  simp only [dispatchWhere, Bool.and_eq_true, decide_eq_true_eq] at holds
  exact ⟨holds.1.2, holds.2⟩

theorem dispatchSelect_mem {collation : JobId → JobId → Bool} {options : JobStoreOptions}
    {now : Timestamp} {locked : List JobId} {table : JobTable Data Result Digest}
    {row : JobRow Data Result Digest}
    (chosen : dispatchSelect collation options now locked table = some row) :
    row ∈ table.rows ∧ dispatchWhere options now row = true ∧ row.id ∉ locked := by
  have member := List.mem_of_mem_head? chosen
  rw [List.mem_insertionSort, List.mem_filter, Bool.and_eq_true, decide_eq_true_eq] at member
  exact member

theorem readEnvelope_dispatchMessage {queue : JsString} {row : JobRow Data Result Digest}
    (consistent : RowConsistent row) (sound : RowSound queue row)
    (waiting : row.status.waiting = true) :
    readEnvelope (stringifyEnvelope (dispatchMessage row)) = some (dispatchMessage row) := by
  obtain ⟨uuid, idEq⟩ := sound.identified
  have nonnegative := consistent.attemptsNonnegative
  have below := consistent.waitingClaimable waiting
  have bounded := consistent.budgetBounded
  apply readEnvelope_stringify
  · change isJobIdText row.id = true
    rw [idEq]
    exact isJobIdText_jobId uuid
  · change 0 < row.attemptsMade + 1
    omega
  · change row.attemptsMade + 1 ≤ 2147483647
    omega

/-- A delivery that can claim a row carries exactly the row's next attempt. -/
theorem CanClaim.message_eq {queue : JsString} {clock : Timestamp}
    {delivery : Delivery Data Result} {row : JobRow Data Result Digest}
    (claimable : CanClaim delivery row) (delivered : DeliverySound queue clock delivery)
    (consistent : RowConsistent row) (sound : RowSound queue row)
    (waiting : row.status.waiting = true) : delivery.message = dispatchMessage row := by
  have read := delivered.read
  rw [claimable.content, readEnvelope_dispatchMessage consistent sound waiting] at read
  exact (Option.some.inj read).symm

theorem claimWhere_of_available {queue : JsString} {options : JobStoreOptions} {now : Timestamp}
    {row : JobRow Data Result Digest} (consistent : RowConsistent row) (sound : RowSound queue row)
    (named : options.name = queue) (waiting : row.status.waiting = true)
    (available : row.availableAt ≤ now) :
    claimWhere options now (dispatchMessage row) row = true := by
  have below := consistent.waitingClaimable waiting
  simp [claimWhere, dispatchMessage, sound.named, named, waiting, below, available]

/-! ### Statements that leave dispatched rows alone -/

/-- What a statement may do to the row of one id: nothing, remove it, or write
a row that is pending whenever it waits. Locked rows are not written. -/
inductive SafeChange (queue : JsString) (locked : List JobId) (id : JobId) :
    Option (JobRow Data Result Digest) → Option (JobRow Data Result Digest) → Prop
  | same (row : Option (JobRow Data Result Digest)) : SafeChange queue locked id row row
  | removed (row : Option (JobRow Data Result Digest)) (unlocked : id ∉ locked) :
      SafeChange queue locked id row none
  | written (old : Option (JobRow Data Result Digest)) (row : JobRow Data Result Digest)
      (unlocked : id ∉ locked) (sound : RowSound queue row)
      (pending : row.status.waiting = true → row.dispatchPending = true) :
      SafeChange queue locked id old (some row)

theorem SystemInvariant.storeChange {queue : JsString} {state : SystemState Data Result Digest}
    (holds : SystemInvariant queue state) {store : StoreState Data Result Digest}
    (consistent : TableConsistent store.table)
    (change : ∀ id, SafeChange queue state.locked id (state.store.table.lookup id)
      (store.table.lookup id)) :
    SystemInvariant queue { state with store := store } := by
  refine
    { consistent := consistent
      stored := ?_
      lockedOnce := holds.lockedOnce
      dispatching := ?_
      delivered := holds.delivered
      supplied := ?_ }
  · intro id row found
    have changed := change id
    rw [found] at changed
    generalize before : state.store.table.lookup id = old at changed
    cases changed with
    | same => exact holds.stored id row before
    | written old unlocked sound pending => exact sound
  · intro transaction member
    have sound := holds.dispatching transaction member
    have locked : transaction.message.id ∈ state.locked :=
      List.mem_map_of_mem (f := fun transaction => transaction.message.id) member
    obtain ⟨row, found, chosen, message⟩ := sound.selected
    refine { named := sound.named, started := sound.started, selected := ⟨row, ?_, chosen, message⟩ }
    have changed := change transaction.message.id
    rw [found] at changed
    generalize after : store.table.lookup transaction.message.id = new at changed
    cases changed with
    | same => rfl
    | removed unlocked => exact absurd locked unlocked
    | written _ unlocked sound pending => exact absurd locked unlocked
  · intro id row found waiting depends
    have changed := change id
    rw [found] at changed
    generalize before : state.store.table.lookup id = old at changed
    cases changed with
    | same => exact holds.supplied id row before waiting depends
    | written old unlocked sound pending =>
        rcases depends with notPending | ⟨transaction, member, sameId, _⟩
        · rw [pending waiting] at notPending
          cases notPending
        · exact absurd (List.mem_map.mpr ⟨transaction, member, sameId⟩) unlocked

/-- A locked row waits, so statements about active or finished rows miss it. -/
theorem SystemInvariant.unlocked {queue : JsString} {state : SystemState Data Result Digest}
    (holds : SystemInvariant queue state) {id : JobId} {row : JobRow Data Result Digest}
    (found : state.store.table.lookup id = some row) (busy : row.status.waiting = false) :
    id ∉ state.locked := by
  intro member
  obtain ⟨transaction, running, sameId⟩ := List.mem_map.mp member
  obtain ⟨other, otherFound, chosen, _⟩ := (holds.dispatching transaction running).selected
  have sameRow : row = other := by
    rw [sameId, found] at otherFound
    exact Option.some.inj otherFound
  have waiting := (dispatchWhere_waiting chosen).1
  rw [← sameRow, busy] at waiting
  cases waiting

theorem SystemInvariant.unlocked_of_absent {queue : JsString}
    {state : SystemState Data Result Digest} (holds : SystemInvariant queue state) {id : JobId}
    (absent : state.store.table.lookup id = none) : id ∉ state.locked := by
  intro member
  obtain ⟨transaction, running, sameId⟩ := List.mem_map.mp member
  obtain ⟨row, found, _⟩ := (holds.dispatching transaction running).selected
  rw [sameId, absent] at found
  cases found

theorem outcomeWhere_active {options : JobStoreOptions} {message : JobEnvelope}
    {row : JobRow Data Result Digest} (holds : outcomeWhere options message row = true) :
    row.status = .active := by
  simp only [outcomeWhere, Bool.and_eq_true, decide_eq_true_eq] at holds
  exact holds.2

theorem recoverWhere_active {options : JobStoreOptions} {now : Timestamp}
    {row : JobRow Data Result Digest} (holds : recoverWhere options now row = true) :
    row.status = .active := by
  simp only [recoverWhere, Bool.and_eq_true, decide_eq_true_eq] at holds
  exact holds.1.2

theorem failSet_pending (now : Timestamp) (error : JobProcessingError)
    (row : JobRow Data Result Digest) (waiting : (failSet now error row).status.waiting = true) :
    (failSet now error row).dispatchPending = true := by
  simp only [failSet] at waiting ⊢
  cases again : retries error row with
  | true => rfl
  | false => simp [again, JobState.waiting] at waiting

theorem recoverSet_pending (now : Timestamp) (row : JobRow Data Result Digest)
    (waiting : (recoverSet now row).status.waiting = true) :
    (recoverSet now row).dispatchPending = true := by
  simp only [recoverSet] at waiting ⊢
  by_cases again : row.attemptsMade < row.maxAttempts
  · simpa using again
  · simp [again, JobState.waiting] at waiting

section StoreChanges

variable [DecidableEq Digest] {hashing : Hashing Data Digest} {collation : JobId → JobId → Bool}
  {queue : JsString} {state : SystemState Data Result Digest}
  {store : StoreState Data Result Digest} {outcome : StoreOutcome Data Result}

theorem gateway_safe (holds : SystemInvariant queue state) {op : StoreOp Data Result}
    (submits : IsGatewayOp queue op)
    (taken : storeStep hashing collation state.store (op, outcome) store) (id : JobId) :
    SafeChange queue state.locked id (state.store.table.lookup id) (store.table.lookup id) := by
  obtain ⟨_, executed⟩ := taken
  cases op with
  | insert call options now uuid submission =>
      change execInsert hashing call options now uuid submission state.store = (outcome, store)
        at executed
      rcases execInsert_cases hashing call options now uuid submission state.store with
        ⟨table, _, placed, result⟩ | ⟨_, _, result⟩ | ⟨_, result⟩
      · rw [result] at executed
        cases executed
        change SafeChange queue state.locked id _ (table.lookup id)
        rw [KeyedTable.lookup_insert placed]
        by_cases same : jobId uuid = id
        · subst same
          rw [newRow_id, if_pos rfl]
          refine .written _ _ (holds.unlocked_of_absent (KeyedTable.lookup_fresh placed)) ?_
            (fun _ => rfl)
          exact { named := submits, identified := ⟨uuid, rfl⟩ }
        · rw [newRow_id, if_neg same]
          exact .same _
      · rw [result] at executed
        cases executed
        exact .same _
      · rw [result] at executed
        cases executed
        exact .same _
  | select call =>
      have same := (execSelect_table hashing call state.store).1
      change execSelect hashing call state.store = (outcome, store) at executed
      rw [executed] at same
      rw [same]
      exact .same _
  | getJob options wanted ownerId =>
      cases executed
      exact .same _
  | dispatchOne options now locked committed => exact submits.elim
  | claim options now message => exact submits.elim
  | complete options now message response => exact submits.elim
  | fail options now message error => exact submits.elim
  | maintainRecover options now => exact submits.elim
  | maintainDelete options now => exact submits.elim

theorem maintain_safe (holds : SystemInvariant queue state) {op : StoreOp Data Result}
    (maintains : IsMaintainOp queue op)
    (taken : storeStep hashing collation state.store (op, outcome) store) (id : JobId) :
    SafeChange queue state.locked id (state.store.table.lookup id) (store.table.lookup id) := by
  obtain ⟨_, executed⟩ := taken
  cases op with
  | maintainRecover options now =>
      cases executed
      rcases lookup_update_cases state.store.table (recoverWhere options now) (recoverSet now)
          (fun _ => rfl) (fun _ => rfl) id with same | ⟨row, found, expired, updated⟩
      · simp only [maintainRecover]
        rw [same]
        exact .same _
      · simp only [maintainRecover]
        rw [found, updated]
        have active := recoverWhere_active expired
        have sound := holds.stored id row found
        exact .written _ _ (holds.unlocked found (by rw [active]; rfl))
          { named := sound.named, identified := sound.identified } (recoverSet_pending now row)
  | maintainDelete options now =>
      cases executed
      simp only [maintainDelete]
      rw [KeyedTable.lookup_delete]
      cases found : state.store.table.lookup id with
      | none => exact .same _
      | some row =>
          cases expired : deleteWhere options now row with
          | false =>
              rw [Option.filter, expired]
              exact .same _
          | true =>
              have terminal := (holds.consistent id row found).terminal_of_deleteWhere expired
              have busy : row.status.waiting = false := by
                cases status : row.status <;> simp [status, JobState.terminal] at terminal <;> rfl
              rw [Option.filter, expired]
              exact .removed _ (holds.unlocked found busy)
  | insert call options now uuid submission => exact maintains.elim
  | select call => exact maintains.elim
  | getJob options wanted ownerId => exact maintains.elim
  | dispatchOne options now locked committed => exact maintains.elim
  | claim options now message => exact maintains.elim
  | complete options now message response => exact maintains.elim
  | fail options now message error => exact maintains.elim

end StoreChanges

theorem complete_safe {queue : JsString} {state : SystemState Data Result Digest}
    (holds : SystemInvariant queue state) (options : JobStoreOptions) (now : Timestamp)
    (message : JobEnvelope) (response : Result) (id : JobId) :
    SafeChange queue state.locked id (state.store.table.lookup id)
      ((complete options now message response state.store.table).lookup id) := by
  rcases lookup_update_cases state.store.table (outcomeWhere options message)
      (completeSet now response) (fun _ => rfl) (fun _ => rfl) id with
    same | ⟨row, found, current, updated⟩
  · simp only [complete]
    rw [same]
    exact .same _
  · simp only [complete]
    rw [found, updated]
    have sound := holds.stored id row found
    exact .written _ _ (holds.unlocked found (by rw [outcomeWhere_active current]; rfl))
      { named := sound.named, identified := sound.identified }
      (by intro waiting; cases waiting)

theorem fail_safe {queue : JsString} {state : SystemState Data Result Digest}
    (holds : SystemInvariant queue state) (options : JobStoreOptions) (now : Timestamp)
    (message : JobEnvelope) (error : JobProcessingError) (id : JobId) :
    SafeChange queue state.locked id (state.store.table.lookup id)
      ((fail options now message error state.store.table).2.lookup id) := by
  rcases lookup_update_cases state.store.table (outcomeWhere options message)
      (failSet now error) (fun _ => rfl) (fun _ => rfl) id with
    same | ⟨row, found, current, updated⟩
  · simp only [fail]
    rw [same]
    exact .same _
  · simp only [fail]
    rw [found, updated]
    have sound := holds.stored id row found
    exact .written _ _ (holds.unlocked found (by rw [outcomeWhere_active current]; rfl))
      { named := sound.named, identified := sound.identified } (failSet_pending now error row)

theorem claim_safe {queue : JsString} {state : SystemState Data Result Digest}
    (holds : SystemInvariant queue state) (options : JobStoreOptions) (now : Timestamp)
    (message : JobEnvelope)
    (unlocked : ∀ row ∈ state.store.table.rows, claimWhere options now message row = true →
      row.id ∉ state.locked) (id : JobId) :
    SafeChange queue state.locked id (state.store.table.lookup id)
      ((claim options now message state.store.table).2.lookup id) := by
  rcases lookup_update_cases state.store.table (claimWhere options now message)
      (claimSet options now message) (fun _ => rfl) (fun _ => rfl) id with
    same | ⟨row, found, claimable, updated⟩
  · simp only [claim]
    rw [same]
    exact .same _
  · simp only [claim]
    rw [found, updated]
    have sound := holds.stored id row found
    have free := unlocked row (KeyedTable.lookup_mem found) claimable
    rw [KeyedTable.lookup_key found] at free
    exact .written _ _ free { named := sound.named, identified := sound.identified }
      (by intro waiting; cases waiting)

/-! ### Steps of the broker and of deliveries -/

theorem SystemInvariant.brokerChange {queue : JsString} {state : SystemState Data Result Digest}
    (holds : SystemInvariant queue state) {later : Timestamp} {ready : List JsString}
    {deliveries : List (Delivery Data Result)} {nextTag : Nat} (forward : state.clock ≤ later)
    (delivered : ∀ delivery ∈ deliveries, DeliverySound queue later delivery)
    (carried : ∀ id row, state.store.table.lookup id = some row → row.status.waiting = true →
      row.availableAt ≤ state.clock → state.Carries row →
        { state with ready := ready, deliveries := deliveries }.Carries row) :
    SystemInvariant queue
      { state with
        clock := later
        ready := ready
        deliveries := deliveries
        nextTag := nextTag } := by
  refine
    { consistent := holds.consistent
      stored := holds.stored
      lockedOnce := holds.lockedOnce
      dispatching := ?_
      delivered := delivered
      supplied := ?_ }
  · intro transaction member
    have sound := holds.dispatching transaction member
    exact
      { named := sound.named
        started := sound.started.trans forward
        selected := sound.selected }
  · intro id row found waiting depends
    obtain ⟨available, carries⟩ := holds.supplied id row found waiting depends
    exact ⟨available.trans forward, carried id row found waiting available carries⟩

/-- A row keeps its message when all other deliveries stay and the changed one
passes it on. -/
theorem SystemState.Carries.transfer {state next : SystemState Data Result Digest}
    {row : JobRow Data Result Digest} {delivery : Delivery Data Result}
    {before after : List (Delivery Data Result)}
    (running : state.deliveries = before ++ delivery :: after)
    (readyKept : ∀ content ∈ state.ready, content ∈ next.ready)
    (othersKept : ∀ other ∈ before ++ after, other ∈ next.deliveries)
    (passedOn : CanClaim delivery row → next.Carries row) (carries : state.Carries row) :
    next.Carries row := by
  rcases carries with queued | ⟨holder, member, claimable⟩
  · exact Or.inl (readyKept _ queued)
  · rw [running, List.mem_append, List.mem_cons] at member
    rcases member with inBefore | rfl | inAfter
    · exact Or.inr ⟨holder, othersKept holder (List.mem_append_left after inBefore), claimable⟩
    · exact passedOn claimable
    · exact Or.inr ⟨holder, othersKept holder (List.mem_append_right before inAfter), claimable⟩

theorem SystemInvariant.replaceDelivery {queue : JsString}
    {state : SystemState Data Result Digest} (holds : SystemInvariant queue state)
    {delivery : Delivery Data Result} {before after : List (Delivery Data Result)}
    (phase : ExecutePhase Data Result)
    (running : state.deliveries = before ++ delivery :: after)
    (passedOn : ∀ id row, state.store.table.lookup id = some row → row.status.waiting = true →
      CanClaim delivery row → phase = .thrown) :
    SystemInvariant queue
      { state with deliveries := before ++ { delivery with phase := phase } :: after } := by
  have delivered := holds.delivered
  rw [running] at delivered
  refine holds.brokerChange le_rfl ?_ ?_
  · intro other member
    rw [List.mem_append, List.mem_cons] at member
    rcases member with inBefore | rfl | inAfter
    · exact delivered other (List.mem_append_left _ inBefore)
    · have sound := delivered delivery (by simp)
      exact { named := sound.named, received := sound.received, read := sound.read }
    · exact delivered other (List.mem_append_right _ (List.mem_cons_of_mem _ inAfter))
  · intro id row found waiting _ carries
    refine carries.transfer running (fun _ member => member) ?_ ?_
    · intro other member
      rw [List.mem_append] at member
      simp only [List.mem_append, List.mem_cons]
      exact member.imp_right Or.inr
    · intro claimable
      refine Or.inr ⟨{ delivery with phase := phase }, by simp, ?_⟩
      exact
        { attached := claimable.attached
          content := claimable.content
          phase := Or.inr (passedOn id row found waiting claimable)
          available := claimable.available }

theorem SystemInvariant.removeDelivery {queue : JsString}
    {state : SystemState Data Result Digest} (holds : SystemInvariant queue state)
    {delivery : Delivery Data Result} {before after : List (Delivery Data Result)}
    (ready : List JsString) (running : state.deliveries = before ++ delivery :: after)
    (readyKept : ∀ content ∈ state.ready, content ∈ ready)
    (passedOn : ∀ row : JobRow Data Result Digest, CanClaim delivery row →
      delivery.content ∈ ready) :
    SystemInvariant queue { state with ready := ready, deliveries := before ++ after } := by
  have delivered := holds.delivered
  rw [running] at delivered
  refine holds.brokerChange le_rfl ?_ ?_
  · intro other member
    rw [List.mem_append] at member
    refine delivered other ?_
    simp only [List.mem_append, List.mem_cons]
    exact member.imp_right Or.inr
  · intro id row _ _ _ carries
    refine carries.transfer running readyKept (fun _ member => member) ?_
    intro claimable
    exact Or.inl (claimable.content ▸ passedOn row claimable)

theorem claim_exhausts {queue : JsString} {clock : Timestamp}
    {table : JobTable Data Result Digest} {delivery : Delivery Data Result} {now : Timestamp}
    (consistent : TableConsistent table)
    (stored : ∀ id row, table.lookup id = some row → RowSound queue row)
    (sound : DeliverySound queue clock delivery) (received : delivery.deliveredAt ≤ now)
    {id : JobId} {row : JobRow Data Result Digest}
    (found : (claim delivery.options now delivery.message table).2.lookup id = some row)
    (waiting : row.status.waiting = true) : ¬ CanClaim delivery row := by
  intro claimable
  rw [lookup_claim] at found
  obtain ⟨old, oldFound, updated⟩ := Option.map_eq_some_iff.mp found
  cases matched : claimWhere delivery.options now delivery.message old with
  | true =>
      rw [matched, if_pos rfl] at updated
      rw [← updated] at waiting
      cases waiting
  | false =>
      rw [matched, if_neg Bool.false_ne_true] at updated
      subst updated
      have rowConsistent := consistent id old oldFound
      have rowSound := stored id old oldFound
      have message := claimable.message_eq sound rowConsistent rowSound waiting
      have claimed := claimWhere_of_available rowConsistent rowSound sound.named waiting
        (claimable.available.trans received)
      rw [← message, matched] at claimed
      cases claimed

/-! ### Steps of dispatchers -/

theorem SystemInvariant.dispatchChange {queue : JsString} {state : SystemState Data Result Digest}
    (holds : SystemInvariant queue state) {transactions : List Transaction}
    {ready : List JsString}
    (lockedOnce : (transactions.map (fun transaction => transaction.message.id)).Nodup)
    (dispatching : ∀ transaction ∈ transactions,
      TransactionSound queue state.clock state.store.table transaction)
    (readyKept : ∀ content ∈ state.ready, content ∈ ready)
    (published : ∀ transaction ∈ transactions, transaction.phase ≠ .selected →
      state.Published transaction.message.id ∨ stringifyEnvelope transaction.message ∈ ready) :
    SystemInvariant queue { state with transactions := transactions, ready := ready } := by
  have kept : ∀ row, state.Carries row →
      { state with transactions := transactions, ready := ready }.Carries row := by
    intro row carries
    exact carries.imp_left (readyKept _)
  refine
    { consistent := holds.consistent
      stored := holds.stored
      lockedOnce := lockedOnce
      dispatching := dispatching
      delivered := holds.delivered
      supplied := ?_ }
  intro id row found waiting depends
  have before : state.Published id → row.availableAt ≤ state.clock ∧
      { state with transactions := transactions, ready := ready }.Carries row := by
    intro wasPublished
    obtain ⟨available, carries⟩ := holds.supplied id row found waiting (Or.inr wasPublished)
    exact ⟨available, kept row carries⟩
  rcases depends with notPending | ⟨transaction, member, sameId, notSelected⟩
  · obtain ⟨available, carries⟩ := holds.supplied id row found waiting (Or.inl notPending)
    exact ⟨available, kept row carries⟩
  · rcases published transaction member notSelected with wasPublished | queued
    · exact before (sameId ▸ wasPublished)
    · have sound := dispatching transaction member
      obtain ⟨selected, selectedFound, chosen, message⟩ := sound.selected
      have sameRow : selected = row := by
        rw [sameId, found] at selectedFound
        exact (Option.some.inj selectedFound).symm
      rw [message, sameRow] at queued
      rw [sameRow] at chosen
      exact ⟨(dispatchWhere_waiting chosen).2.trans sound.started, Or.inl queued⟩

theorem SystemInvariant.replaceTransaction {queue : JsString}
    {state : SystemState Data Result Digest} (holds : SystemInvariant queue state)
    {transaction : Transaction} {before after : List Transaction} (phase : DispatchPhase)
    (ready : List JsString) (running : state.transactions = before ++ transaction :: after)
    (readyKept : ∀ content ∈ state.ready, content ∈ ready)
    (announced : transaction.phase ≠ .selected ∨ stringifyEnvelope transaction.message ∈ ready) :
    SystemInvariant queue
      { state with
        transactions := before ++ { transaction with phase := phase } :: after
        ready := ready } := by
  have others : ∀ other, other ∈ before ∨ other ∈ after → other ∈ state.transactions := by
    intro other member
    rw [running, List.mem_append, List.mem_cons]
    exact member.imp_right Or.inr
  have self : transaction ∈ state.transactions := by simp [running]
  have lockedOnce := holds.lockedOnce
  simp only [SystemState.locked, running, List.map_append, List.map_cons] at lockedOnce
  refine holds.dispatchChange (by simpa using lockedOnce) ?_ readyKept ?_
  · intro other member
    rw [List.mem_append, List.mem_cons] at member
    rcases member with inBefore | rfl | inAfter
    · exact holds.dispatching other (others other (Or.inl inBefore))
    · have sound := holds.dispatching transaction self
      exact { named := sound.named, started := sound.started, selected := sound.selected }
    · exact holds.dispatching other (others other (Or.inr inAfter))
  · intro other member notSelected
    rw [List.mem_append, List.mem_cons] at member
    rcases member with inBefore | rfl | inAfter
    · exact Or.inl ⟨other, others other (Or.inl inBefore), rfl, notSelected⟩
    · rcases announced with already | queued
      · exact Or.inl ⟨transaction, self, rfl, already⟩
      · exact Or.inr queued
    · exact Or.inl ⟨other, others other (Or.inr inAfter), rfl, notSelected⟩

theorem SystemInvariant.removeTransaction {queue : JsString}
    {state : SystemState Data Result Digest} (holds : SystemInvariant queue state)
    {transaction : Transaction} {before after : List Transaction} (ready : List JsString)
    (running : state.transactions = before ++ transaction :: after)
    (readyKept : ∀ content ∈ state.ready, content ∈ ready) :
    SystemInvariant queue
      { state with transactions := before ++ after, ready := ready } := by
  have sublist : (before ++ after).Sublist state.transactions := by
    rw [running]
    exact List.Sublist.append_left (List.sublist_cons_self transaction after) before
  refine holds.dispatchChange (holds.lockedOnce.sublist (sublist.map _)) ?_ readyKept ?_
  · intro other member
    exact holds.dispatching other (sublist.subset member)
  · intro other member notSelected
    exact Or.inl ⟨other, sublist.subset member, rfl, notSelected⟩

theorem SystemState.Carries.dispatchSet {state next : SystemState Data Result Digest}
    {row : JobRow Data Result Digest} (carries : state.Carries row)
    (sameReady : next.ready = state.ready := by rfl)
    (sameDeliveries : next.deliveries = state.deliveries := by rfl) :
    next.Carries (Queue.dispatchSet row) := by
  rcases carries with queued | ⟨delivery, member, claimable⟩
  · exact Or.inl (sameReady ▸ queued)
  · exact Or.inr ⟨delivery, sameDeliveries ▸ member,
      { attached := claimable.attached
        content := claimable.content
        phase := claimable.phase
        available := claimable.available }⟩

theorem SystemInvariant.commit {queue : JsString} {state : SystemState Data Result Digest}
    (holds : SystemInvariant queue state) {transaction : Transaction}
    {before after : List Transaction}
    (running : state.transactions = before ++ transaction :: after)
    (phase : transaction.phase = .marked) :
    SystemInvariant queue
      { state with
        store := { state.store with
          table := dispatchMark transaction.message.id state.store.table }
        transactions := before ++ after } := by
  have self : transaction ∈ state.transactions := by simp [running]
  have rest : SystemInvariant queue { state with transactions := before ++ after } :=
    holds.removeTransaction state.ready running (fun _ member => member)
  have lockedOnce := holds.lockedOnce
  simp only [SystemState.locked, running, List.map_append, List.map_cons] at lockedOnce
  have freed : transaction.message.id ∉
      (before ++ after).map (fun transaction => transaction.message.id) := by
    rw [List.map_append]
    exact (List.nodup_middle.mp lockedOnce).notMem
  have marked := @lookup_dispatchMark Data Result Digest transaction.message.id
  refine
    { consistent := ?_
      stored := ?_
      lockedOnce := rest.lockedOnce
      dispatching := ?_
      delivered := holds.delivered
      supplied := ?_ }
  · intro id row found
    rw [marked] at found
    split at found
    · obtain ⟨old, oldFound, rfl⟩ := Option.map_eq_some_iff.mp found
      exact dispatchSet_consistent (holds.consistent id old oldFound)
    · exact holds.consistent id row found
  · intro id row found
    rw [marked] at found
    split at found
    · obtain ⟨old, oldFound, rfl⟩ := Option.map_eq_some_iff.mp found
      have sound := holds.stored id old oldFound
      exact { named := sound.named, identified := sound.identified }
    · exact holds.stored id row found
  · intro other member
    have sound := rest.dispatching other member
    obtain ⟨row, found, chosen⟩ := sound.selected
    refine { named := sound.named, started := sound.started, selected := ⟨row, ?_, chosen⟩ }
    have different : other.message.id ≠ transaction.message.id := by
      intro same
      exact freed (List.mem_map.mpr ⟨other, member, same⟩)
    rw [marked, if_neg different]
    exact found
  · intro id row found waiting depends
    rw [marked] at found
    split at found
    · rename_i same
      obtain ⟨old, oldFound, rfl⟩ := Option.map_eq_some_iff.mp found
      have wasPublished : state.Published id :=
        ⟨transaction, self, same.symm, by simp [phase]⟩
      obtain ⟨available, carries⟩ :=
        holds.supplied id old oldFound waiting (Or.inr wasPublished)
      exact ⟨available, carries.dispatchSet⟩
    · exact rest.supplied id row found waiting depends

/-! ### Every step -/

theorem SystemInvariant.deliver {queue : JsString} {state : SystemState Data Result Digest}
    (holds : SystemInvariant queue state) {options : JobStoreOptions} {content : JsString}
    {message : JobEnvelope} {before after : List JsString} (named : options.name = queue)
    (queued : state.ready = before ++ content :: after)
    (wellFormed : readEnvelope content = some message) :
    SystemInvariant queue
      { state with
        ready := before ++ after
        deliveries :=
          { tag := state.nextTag
            options := options
            content := content
            message := message
            deliveredAt := state.clock
            attached := true
            phase := .claiming } :: state.deliveries
        nextTag := state.nextTag + 1 } := by
  refine holds.brokerChange le_rfl ?_ ?_
  · intro delivery member
    rw [List.mem_cons] at member
    rcases member with rfl | old
    · exact { named := named, received := le_rfl, read := wellFormed }
    · exact holds.delivered delivery old
  · intro id row _ _ available carries
    rcases carries with waitingText | ⟨delivery, member, claimable⟩
    · rw [queued, List.mem_append, List.mem_cons] at waitingText
      rcases waitingText with inBefore | taken | inAfter
      · exact Or.inl (List.mem_append_left _ inBefore)
      · refine Or.inr ⟨_, List.mem_cons_self, ?_⟩
        exact
          { attached := rfl
            content := taken.symm
            phase := Or.inl rfl
            available := available }
      · exact Or.inl (List.mem_append_right _ inAfter)
    · exact Or.inr ⟨delivery, List.mem_cons_of_mem _ member, claimable⟩

theorem SystemInvariant.rejectMalformed {queue : JsString}
    {state : SystemState Data Result Digest} (holds : SystemInvariant queue state)
    {content : JsString} {before after : List JsString}
    (queued : state.ready = before ++ content :: after)
    (malformed : readEnvelope content = none) :
    SystemInvariant queue { state with ready := before ++ after } := by
  refine holds.brokerChange le_rfl holds.delivered ?_
  intro id row found waiting _ carries
  refine carries.imp_left ?_
  intro waitingText
  rw [queued, List.mem_append, List.mem_cons] at waitingText
  rcases waitingText with inBefore | rejected | inAfter
  · exact List.mem_append_left _ inBefore
  · have accepted := readEnvelope_dispatchMessage (holds.consistent id row found)
      (holds.stored id row found) waiting
    rw [rejected, malformed] at accepted
    cases accepted
  · exact List.mem_append_right _ inAfter

theorem SystemInvariant.detach {queue : JsString} {state : SystemState Data Result Digest}
    (holds : SystemInvariant queue state) {delivery : Delivery Data Result}
    {before after : List (Delivery Data Result)}
    (running : state.deliveries = before ++ delivery :: after) :
    SystemInvariant queue
      { state with
        ready := delivery.content :: state.ready
        deliveries := before ++ { delivery with attached := false } :: after } := by
  have delivered := holds.delivered
  rw [running] at delivered
  refine holds.brokerChange le_rfl ?_ ?_
  · intro other member
    rw [List.mem_append, List.mem_cons] at member
    rcases member with inBefore | rfl | inAfter
    · exact delivered other (List.mem_append_left _ inBefore)
    · have sound := delivered delivery (by simp)
      exact { named := sound.named, received := sound.received, read := sound.read }
    · exact delivered other (List.mem_append_right _ (List.mem_cons_of_mem _ inAfter))
  · intro id row _ _ _ carries
    refine carries.transfer running (fun _ member => List.mem_cons_of_mem _ member) ?_ ?_
    · intro other member
      rw [List.mem_append] at member
      simp only [List.mem_append, List.mem_cons]
      exact member.imp_right Or.inr
    · intro claimable
      exact Or.inl (claimable.content ▸ List.mem_cons_self)

theorem CanClaim.phase_cases {delivery : Delivery Data Result} {row : JobRow Data Result Digest}
    (claimable : CanClaim delivery row) {phase : ExecutePhase Data Result}
    (current : delivery.phase = phase) (later : phase ≠ .claiming) : phase = .thrown := by
  rcases claimable.phase with claiming | thrown
  · exact absurd (current.symm.trans claiming) later
  · exact current.symm.trans thrown

section Steps

variable [DecidableEq Digest] {hashing : Hashing Data Digest} {collation : JobId → JobId → Bool}
  {queue : JsString}

theorem workerStep_invariant {state next : SystemState Data Result Digest}
    {event : WorkerEvent Data Result} (holds : SystemInvariant queue state)
    (taken : WorkerStep hashing collation queue state event next) :
    SystemInvariant queue next := by
  cases taken with
  | tick later forward =>
      refine holds.brokerChange forward ?_ (fun _ _ _ _ _ carries => carries)
      intro delivery member
      have sound := holds.delivered delivery member
      exact
        { named := sound.named
          received := sound.received.trans forward
          read := sound.read }
  | gateway submits taken =>
      exact holds.storeChange (storeStep_consistent holds.consistent taken)
        (gateway_safe holds submits taken)
  | maintain maintains taken =>
      exact holds.storeChange (storeStep_consistent holds.consistent taken)
        (maintain_safe holds maintains taken)
  | begin options now row named started chosen =>
      obtain ⟨member, selected, free⟩ := dispatchSelect_mem chosen
      refine holds.dispatchChange ?_ ?_ (fun _ kept => kept) ?_
      · exact List.nodup_cons.mpr ⟨free, holds.lockedOnce⟩
      · intro transaction present
        rw [List.mem_cons] at present
        rcases present with rfl | old
        · exact
            { named := named
              started := started
              selected := ⟨row, KeyedTable.lookup_of_mem member, selected, rfl⟩ }
        · exact holds.dispatching transaction old
      · intro transaction present notSelected
        rw [List.mem_cons] at present
        rcases present with rfl | old
        · exact absurd rfl notSelected
        · exact Or.inl ⟨transaction, old, rfl, notSelected⟩
  | publish transaction before after running phase =>
      exact holds.replaceTransaction .published _ running
        (fun _ kept => List.mem_cons_of_mem _ kept) (Or.inr List.mem_cons_self)
  | mark transaction before after running phase =>
      exact holds.replaceTransaction .marked _ running (fun _ kept => kept)
        (Or.inl (by simp [phase]))
  | rollback transaction before after running enqueued =>
      refine holds.removeTransaction _ running ?_
      intro content kept
      cases enqueued with
      | false => exact kept
      | true => exact List.mem_cons_of_mem _ kept
  | commit transaction before after running phase => exact holds.commit running phase
  | inject content =>
      refine holds.brokerChange le_rfl holds.delivered ?_
      intro id row _ _ _ carries
      exact carries.imp_left (fun kept => List.mem_cons_of_mem _ kept)
  | deliver options content message before after named queued wellFormed =>
      exact holds.deliver named queued wellFormed
  | rejectMalformed content before after queued malformed =>
      exact holds.rejectMalformed queued malformed
  | claim delivery before after now job reported running phase received started unlocked taken =>
      have sound := holds.delivered delivery (by simp [running])
      have claimed := holds.storeChange (storeStep_consistent holds.consistent taken)
        (by
          cases taken.2
          exact claim_safe holds delivery.options now delivery.message unlocked)
      refine claimed.replaceDelivery _ running ?_
      intro id row found waiting claimable
      cases taken.2
      exact absurd claimable
        (claim_exhausts holds.consistent holds.stored sound received found waiting)
  | process delivery before after job outcome running phase =>
      refine holds.replaceDelivery _ running ?_
      intro id row _ _ claimable
      cases claimable.phase_cases phase (by simp)
  | complete delivery before after now job response reported running phase taken =>
      have completed := holds.storeChange (storeStep_consistent holds.consistent taken)
        (by
          cases taken.2
          exact complete_safe holds delivery.options now delivery.message response)
      refine completed.replaceDelivery _ running ?_
      intro id row _ _ claimable
      cases claimable.phase_cases phase (by simp)
  | fail delivery before after now job failure status reported running phase taken =>
      have failed := holds.storeChange (storeStep_consistent holds.consistent taken)
        (by
          cases taken.2
          exact fail_safe holds delivery.options now delivery.message failure)
      refine failed.replaceDelivery _ running ?_
      intro id row _ _ claimable
      cases claimable.phase_cases phase (by simp)
  | statementError delivery before after running awaiting =>
      exact holds.replaceDelivery .thrown running (fun _ _ _ _ _ => rfl)
  | settle delivery before after action running phase =>
      refine holds.removeDelivery _ running (fun _ kept => kept) ?_
      intro row claimable
      cases claimable.phase_cases phase (by simp)
  | detach delivery before after running connected => exact holds.detach running
  | crash delivery before after running =>
      refine holds.removeDelivery _ running ?_ ?_
      · intro content kept
        split
        · exact List.mem_cons_of_mem _ kept
        · exact kept
      · intro row claimable
        rw [if_pos claimable.attached]
        exact List.mem_cons_self

theorem run_invariant {clock : Timestamp} {state : SystemState Data Result Digest}
    {events : List (WorkerEvent Data Result)}
    (run : Run (WorkerStep hashing collation queue) (SystemState.initial clock) events state) :
    SystemInvariant queue state := by
  apply run.invariant (SystemInvariant queue) (SystemInvariant.initial queue clock)
  intro state event next holds taken
  exact workerStep_invariant holds taken

/-- What recovery makes of a job whose lease has expired. -/
structure Recovered (row later : JobRow Data Result Digest) : Prop where
  released : later.leaseUntil = none
  kept : later.attemptsMade = row.attemptsMade
  again : row.attemptsMade < row.maxAttempts → later.status = .queued ∧ later.dispatchPending = true
  exhausted : row.maxAttempts ≤ row.attemptsMade →
    later.status = .failed ∧ later.errorCode = some JobErrorCode.jobFailed.text

omit [DecidableEq Digest] in
theorem recoverSet_recovered (now : Timestamp) (row : JobRow Data Result Digest) :
    Recovered row (recoverSet now row) := by
  refine ⟨rfl, rfl, ?_, ?_⟩
  · intro below
    simp [recoverSet, below]
  · intro spent
    simp [recoverSet, not_lt.mpr spent]

theorem maintain_recovers {state : SystemState Data Result Digest} {options : JobStoreOptions}
    {now : Timestamp} {row : JobRow Data Result Digest} (named : options.name = queue)
    (member : row ∈ state.store.table.rows) (holds : recoverWhere options now row = true) :
    ∃ next later, WorkerStep hashing collation queue state
        (.maintain (.maintainRecover options now, .done)) next ∧
      next.store.table.lookup row.id = some later ∧ Recovered row later := by
  refine ⟨_, recoverSet now row, .maintain state named ⟨trivial, rfl⟩, ?_,
    recoverSet_recovered now row⟩
  have updated := KeyedTable.lookup_update state.store.table (recoverWhere options now)
    (recoverSet now) (fun _ => rfl) (fun _ => rfl) row.id
  refine updated.trans ?_
  rw [KeyedTable.lookup_of_mem member]
  simp [holds]

/-- In every reachable state a waiting job is pending or has an unacknowledged
message for its next attempt, and maintenance gives an active job back, or fails it,
once its lease has expired. The first stays true without any delivery that `execute`
has finished with, so no acknowledgement discards the last message; and every message
that a dispatch can build is accepted when it is delivered. -/
theorem no_job_lost {clock : Timestamp} {state : SystemState Data Result Digest}
    {events : List (WorkerEvent Data Result)}
    (run : Run (WorkerStep hashing collation queue) (SystemState.initial clock) events state) :
    (∀ row ∈ state.store.table.rows, row.status.waiting = true →
        row.dispatchPending = true ∨ state.HoldsUnacknowledged (dispatchMessage row)) ∧
      (∀ row ∈ state.store.table.rows, row.status = .active →
        ∃ lease, row.leaseUntil = some lease ∧ ∀ options now, options.name = queue → lease < now →
          recoverWhere options now row = true ∧
            ∃ next later, WorkerStep hashing collation queue state
                (.maintain (.maintainRecover options now, .done)) next ∧
              next.store.table.lookup row.id = some later ∧ Recovered row later) ∧
      (∀ before delivery after action, state.deliveries = before ++ delivery :: after →
        delivery.phase = .returned action →
          ∀ row ∈ state.store.table.rows, row.status.waiting = true →
            row.dispatchPending = true ∨
              { state with deliveries := before ++ after }.HoldsUnacknowledged
                (dispatchMessage row)) ∧
      ∀ options now locked row,
        dispatchSelect collation options now locked state.store.table = some row →
          readEnvelope (stringifyEnvelope (dispatchMessage row)) = some (dispatchMessage row) := by
  have supplied : ∀ state : SystemState Data Result Digest, SystemInvariant queue state →
      ∀ row ∈ state.store.table.rows, row.status.waiting = true →
        row.dispatchPending = true ∨ state.HoldsUnacknowledged (dispatchMessage row) := by
    intro state holds row member waiting
    cases pending : row.dispatchPending with
    | true => exact Or.inl rfl
    | false =>
        refine Or.inr ?_
        rcases (holds.supplied row.id row (KeyedTable.lookup_of_mem member) waiting
            (Or.inl pending)).2 with queued | ⟨delivery, running, claimable⟩
        · exact Or.inl queued
        · exact Or.inr ⟨delivery, running, claimable.attached, claimable.content⟩
  have holds := run_invariant run
  refine ⟨supplied state holds, ?_, ?_, ?_⟩
  · intro row member active
    have consistent := holds.consistent.of_mem member
    obtain ⟨lease, leaseEq⟩ := Option.isSome_iff_exists.mp (consistent.leased.mpr active)
    refine ⟨lease, leaseEq, ?_⟩
    intro options now named expired
    have rowNamed := (holds.stored row.id row (KeyedTable.lookup_of_mem member)).named
    have recoverable : recoverWhere options now row = true := by
      simp [recoverWhere, rowNamed, named, active, leaseEq, expired]
    exact ⟨recoverable, maintain_recovers named member recoverable⟩
  · intro before delivery after action running phase
    have settled := workerStep_invariant holds
      (.settle state delivery before after action running phase :
        WorkerStep hashing collation queue state _ _)
    exact supplied _ settled
  · intro options now locked row chosen
    obtain ⟨member, selected, _⟩ := dispatchSelect_mem chosen
    exact readEnvelope_dispatchMessage (holds.consistent.of_mem member)
      (holds.stored row.id row (KeyedTable.lookup_of_mem member))
      (dispatchWhere_waiting selected).1

end Steps

/-! ### A dispatched job -/

def sampleRow : JobRow JsString JsString JsString :=
  newRow sampleHashing sampleOptions 0 sampleUuid sampleSubmission

def sampleStore : StoreState JsString JsString JsString :=
  (exec sampleHashing JsString.le StoreState.initial
    (.insert 0 sampleOptions 0 sampleUuid sampleSubmission)).2

def sampleTransaction (phase : DispatchPhase) : Transaction :=
  { options := sampleOptions, now := 0, message := dispatchMessage sampleRow, phase := phase }

def sampleSystem (store : StoreState JsString JsString JsString) (phases : List DispatchPhase)
    (ready : List JsString) (deliveries : List (Delivery JsString JsString)) :
    SystemState JsString JsString JsString :=
  { clock := 0
    store := store
    transactions := phases.map sampleTransaction
    ready := ready
    deliveries := deliveries
    nextTag := deliveries.length }

def sampleText : JsString := stringifyEnvelope (dispatchMessage sampleRow)

def sampleDispatched : SystemState JsString JsString JsString :=
  sampleSystem
    { sampleStore with table := dispatchMark (dispatchMessage sampleRow).id sampleStore.table }
    [] [sampleText] []

def sampleDispatchedEvents : List (WorkerEvent JsString JsString) :=
  [.gateway (.insert 0 sampleOptions 0 sampleUuid sampleSubmission,
      .enqueued (.ok ⟨jobId sampleUuid, sampleSubmission.requestId⟩)),
    .begin, .publish, .mark,
    .commit (commitOp sampleStore.table (sampleTransaction .marked),
      .dispatched (some (dispatchMessage sampleRow)))]

theorem sampleDispatched_steps :
    Run (WorkerStep sampleHashing JsString.le sampleOptions.name) (SystemState.initial 0)
      sampleDispatchedEvents sampleDispatched := by
  have selected : dispatchSelect JsString.le sampleOptions 0 [] sampleStore.table =
      some sampleRow := rfl
  have inserted : WorkerStep sampleHashing JsString.le sampleOptions.name (SystemState.initial 0)
      (.gateway (.insert 0 sampleOptions 0 sampleUuid sampleSubmission,
        .enqueued (.ok ⟨jobId sampleUuid, sampleSubmission.requestId⟩)))
      (sampleSystem sampleStore [] [] []) :=
    .gateway (SystemState.initial 0) rfl ⟨by decide, rfl⟩
  have begun : WorkerStep sampleHashing JsString.le sampleOptions.name
      (sampleSystem sampleStore [] [] []) .begin (sampleSystem sampleStore [.selected] [] []) :=
    .begin _ sampleOptions 0 sampleRow rfl le_rfl selected
  have published : WorkerStep sampleHashing JsString.le sampleOptions.name
      (sampleSystem sampleStore [.selected] [] []) .publish
      (sampleSystem sampleStore [.published] [sampleText] []) :=
    .publish _ (sampleTransaction .selected) [] [] rfl rfl
  have marked : WorkerStep sampleHashing JsString.le sampleOptions.name
      (sampleSystem sampleStore [.published] [sampleText] []) .mark
      (sampleSystem sampleStore [.marked] [sampleText] []) :=
    .mark _ (sampleTransaction .published) [] [] rfl rfl
  have committed : WorkerStep sampleHashing JsString.le sampleOptions.name
      (sampleSystem sampleStore [.marked] [sampleText] []) _ sampleDispatched :=
    .commit _ (sampleTransaction .marked) [] [] rfl rfl
  exact .snoc (.snoc (.snoc (.snoc (.single inserted) begun) published) marked) committed

theorem sampleDispatched_run :
    ∃ events, Run (WorkerStep sampleHashing JsString.le sampleOptions.name)
      (SystemState.initial 0) events sampleDispatched :=
  ⟨_, sampleDispatched_steps⟩

theorem no_job_lost_dispatched :
    sampleDispatched.store.table.rows.map (fun row => (row.status, row.dispatchPending)) =
        [(.queued, false)] ∧
      ∀ row ∈ sampleDispatched.store.table.rows, row.status.waiting = true →
        row.dispatchPending = true ∨ sampleDispatched.HoldsUnacknowledged (dispatchMessage row) :=
  ⟨by decide +kernel,
    (no_job_lost sampleDispatched_run.choose_spec).1⟩

end ModelMux.Queue
