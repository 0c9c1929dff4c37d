/-
Clients of the limiter.

A client calls `acquire` once, works while it holds the permit that its
acquisition was granted, and gives it back.  Any number of clients share one
limiter and are cancelled at any time.  Each unreleased permit belongs to one
client that awaits or holds it, so that no more clients work at once than the
limiter allows and no slot stays taken once all clients have left.
-/

import Mathlib.Data.List.Perm.Subperm
import ModelMux.Concurrency.LimiterGrants

namespace ModelMux.Concurrency

variable {options : InMemoryConcurrencyLimiterOptions} {system next : LimiterSystem}

/-! ### Clients -/

structure Client (State : Type) where
  state : State
  acquisition : Option ℕ

/-- Clients in the order of their arrival.  The signal of a client is its number, and
`invocations` lists the clients that have begun the work their permit is for. -/
structure ClientSystem (State : Type) where
  limiter : LimiterSystem
  clients : List (Client State)
  invocations : List ℕ

inductive ClientAction where
  | acquire
  | invoke
  | release (permit : ℕ)
  | abort
deriving DecidableEq

namespace ClientSystem

variable {State State' : Type}

def initial : ClientSystem State := ⟨.initial, [], []⟩

def perform (options : InMemoryConcurrencyLimiterOptions) (now : ℚ) (index : ℕ)
    (system : ClientSystem State) : ClientAction → ClientSystem State
  | .acquire =>
      { system with
        limiter := system.limiter.acquire options now (some index)
        clients := system.clients.modify index
          (fun client => { client with acquisition := some system.limiter.acquires }) }
  | .invoke => { system with invocations := system.invocations ++ [index] }
  | .release permit => { system with limiter := system.limiter.releasePermit now permit }
  | .abort => { system with limiter := system.limiter.abort now index }

def advance (options : InMemoryConcurrencyLimiterOptions) (now : ℚ) (index : ℕ) (state : State)
    (actions : List ClientAction) (system : ClientSystem State) : ClientSystem State :=
  actions.foldl (perform options now index)
    { system with
      clients := system.clients.modify index (fun client => { client with state := state }) }

def arrive (options : InMemoryConcurrencyLimiterOptions) (now : ℚ) (cancelled : Bool)
    (state : State) (actions : List ClientAction) (system : ClientSystem State) :
    ClientSystem State :=
  let index := system.clients.length
  let listed := { system with clients := system.clients ++ [⟨state, none⟩] }
  actions.foldl (perform options now index)
    (if cancelled then listed.perform options now index .abort else listed)

def map (view : State → State') (system : ClientSystem State) : ClientSystem State' :=
  { system with
    clients := system.clients.map (fun client => ⟨view client.state, client.acquisition⟩) }

end ClientSystem

/-! ### Phases -/

/-- Where a client is in its use of the limiter; `working` is the call that the
permit is for. -/
inductive ClientPhase where
  | entering
  | waiting
  | holding (permit : ℕ) (working : Bool)
  | leaving
  | settled
deriving DecidableEq

abbrev PhaseSystem := ClientSystem ClientPhase

def ClientSystem.become (system : PhaseSystem) (index : ℕ) (client : Client ClientPhase) :
    PhaseSystem :=
  { system with clients := system.clients.set index client }

inductive ClientMove (options : InMemoryConcurrencyLimiterOptions) (system : PhaseSystem) :
    PhaseSystem → Prop
  | arrive :
      ClientMove options system { system with clients := system.clients ++ [⟨.entering, none⟩] }
  | acquire (now : ℚ) {index : ℕ} (present : system.clients[index]? = some ⟨.entering, none⟩) :
      ClientMove options system
        { system.become index ⟨.waiting, some system.limiter.acquires⟩ with
          limiter := system.limiter.acquire options now (some index) }
  | work {index id permit : ℕ} (present : system.clients[index]? = some ⟨.waiting, some id⟩)
      (granted : system.limiter.granted id permit)
      (running : index ∉ system.limiter.abortedSignals) :
      ClientMove options system
        { system.become index ⟨.holding permit true, some id⟩ with
          invocations := system.invocations ++ [index] }
  | decline {index id permit : ℕ} (present : system.clients[index]? = some ⟨.waiting, some id⟩)
      (granted : system.limiter.granted id permit) :
      ClientMove options system (system.become index ⟨.holding permit false, some id⟩)
  | refuse {index id : ℕ} {error : AcquireError}
      (present : system.clients[index]? = some ⟨.waiting, some id⟩)
      (refused : .settled id (.error error) ∈ system.limiter.log) :
      ClientMove options system (system.become index ⟨.settled, some id⟩)
  | rest {index permit : ℕ} {working : Bool} {acquisition : Option ℕ}
      (present : system.clients[index]? = some ⟨.holding permit working, acquisition⟩) :
      ClientMove options system (system.become index ⟨.holding permit false, acquisition⟩)
  | release (now : ℚ) {index permit : ℕ} {working : Bool} {acquisition : Option ℕ}
      (present : system.clients[index]? = some ⟨.holding permit working, acquisition⟩) :
      ClientMove options system
        { system.become index ⟨.leaving, acquisition⟩ with
          limiter := system.limiter.releasePermit now permit }
  | leave {index : ℕ} {phase : ClientPhase} {acquisition : Option ℕ}
      (present : system.clients[index]? = some ⟨phase, acquisition⟩)
      (outside : phase = .entering ∨ phase = .leaving) :
      ClientMove options system (system.become index ⟨.settled, acquisition⟩)
  | abort (now : ℚ) (index : ℕ) :
      ClientMove options system { system with limiter := system.limiter.abort now index }
  | expire (now : ℚ) {id : ℕ} (armed : id ∈ system.limiter.timers) :
      ClientMove options system { system with limiter := system.limiter.expire options now id }

abbrev ClientMoves (options : InMemoryConcurrencyLimiterOptions) :
    PhaseSystem → PhaseSystem → Prop :=
  Relation.ReflTransGen (ClientMove options)

/-! ### The invariant -/

/-- The acquisition has settled, and a permit that it was granted has been released. -/
def Returned (limiter : LimiterSystem) (acquisition : Option ℕ) : Prop :=
  ∀ id, acquisition = some id → ∃ result, .settled id result ∈ limiter.log ∧
    ∀ permit, result = .ok permit → limiter.released permit

def ClientHeld (limiter : LimiterSystem) (client : Client ClientPhase) : Prop :=
  match client.state with
  | .entering => client.acquisition = none
  | .waiting => ∃ id, client.acquisition = some id ∧
      ∀ permit, limiter.granted id permit → limiter.unreleased permit
  | .holding permit _ => ∃ id, client.acquisition = some id ∧ limiter.granted id permit ∧
      limiter.unreleased permit
  | .leaving => Returned limiter client.acquisition
  | .settled => Returned limiter client.acquisition

structure ClientInvariant (options : InMemoryConcurrencyLimiterOptions) (system : PhaseSystem) :
    Prop where
  sound : LimiterSound options system.limiter
  held : ∀ (index : ℕ) client, system.clients[index]? = some client →
    ClientHeld system.limiter client
  called : ∀ (index : ℕ) client id, system.clients[index]? = some client →
    client.acquisition = some id → id < system.limiter.acquires
  distinct : ∀ (index index' : ℕ) client client' id, system.clients[index]? = some client →
    system.clients[index']? = some client' → client.acquisition = some id →
      client'.acquisition = some id → index = index'
  owned : ∀ id, id < system.limiter.acquires →
    ∃ (index : ℕ) (client : Client ClientPhase), system.clients[index]? = some client ∧
      client.acquisition = some id
  invoked : ∀ index ∈ system.invocations, ∃ client, system.clients[index]? = some client ∧
    client.state ≠ .entering ∧ client.state ≠ .waiting

theorem Returned.advance {acquisition released : Option ℕ} (returned : Returned system acquisition)
    (advance : LimiterAdvance released system next)
    (apart : ∀ id permit, acquisition = some id → system.granted id permit →
      released ≠ some permit) : Returned next acquisition := by
  intro id own
  obtain ⟨result, settled, given⟩ := returned id own
  refine ⟨result, advance.log _ settled, ?_⟩
  rintro permit rfl
  obtain ⟨record, present, closed⟩ := given permit rfl
  exact ⟨record, advance.kept permit record present (apart id permit own settled), closed⟩

theorem ClientHeld.advance {client : Client ClientPhase} {released : Option ℕ}
    (held : ClientHeld system client) (advance : LimiterAdvance released system next)
    (apart : ∀ id permit, client.acquisition = some id → system.granted id permit →
      released ≠ some permit) : ClientHeld next client := by
  obtain ⟨phase, acquisition⟩ := client
  cases phase with
  | entering => exact held
  | waiting =>
      obtain ⟨id, own, unreleased⟩ := held
      refine ⟨id, own, ?_⟩
      intro permit granted
      rcases advance.fresh id permit granted with old | new
      · obtain ⟨record, present, taken⟩ := unreleased permit old
        exact ⟨record, advance.kept permit record present (apart id permit own old), taken⟩
      · exact new
  | holding permit working =>
      obtain ⟨id, own, granted, record, present, taken⟩ := held
      exact ⟨id, own, advance.log _ granted, record,
        advance.kept permit record present (apart id permit own granted), taken⟩
  | leaving => exact Returned.advance held advance apart
  | settled => exact Returned.advance held advance apart

variable {clients : PhaseSystem}

theorem ClientInvariant.limiter (invariant : ClientInvariant options clients)
    (sound : LimiterSound options next) (advance : LimiterAdvance none clients.limiter next)
    (acquires : next.acquires = clients.limiter.acquires) :
    ClientInvariant options { clients with limiter := next } where
  sound := sound
  held := by
    intro index client present
    exact (invariant.held index client present).advance advance (by simp)
  called := by
    rw [acquires]
    exact invariant.called
  distinct := invariant.distinct
  owned := by
    rw [acquires]
    exact invariant.owned
  invoked := invariant.invoked

theorem getElem?_set_cases {index other : ℕ} {client client' found : Client ClientPhase}
    {list : List (Client ClientPhase)} (present : list[index]? = some client)
    (updated : (list.set index client')[other]? = some found) :
    (other = index ∧ found = client') ∨ (other ≠ index ∧ list[other]? = some found) := by
  obtain ⟨inside, _⟩ := List.getElem?_eq_some_iff.mp present
  by_cases same : other = index
  · subst same
    rw [List.getElem?_set_self inside, Option.some.injEq] at updated
    exact .inl ⟨rfl, updated.symm⟩
  · rw [List.getElem?_set_ne (Ne.symm same)] at updated
    exact .inr ⟨same, updated⟩

/-- One client moves on, with the limiter if it calls it.  Only its own permit is
released, and only a new acquisition can become its own. -/
theorem ClientInvariant.update {index : ℕ} {client client' : Client ClientPhase} {released : Option ℕ}
    {invocations : List ℕ} (invariant : ClientInvariant options clients)
    (present : clients.clients[index]? = some client) (sound : LimiterSound options next)
    (advance : LimiterAdvance released clients.limiter next)
    (own : ∀ permit, released = some permit →
      ∃ id, client.acquisition = some id ∧ clients.limiter.granted id permit)
    (acquisition : client'.acquisition = client.acquisition ∧
        next.acquires = clients.limiter.acquires ∨
      client.acquisition = none ∧ client'.acquisition = some clients.limiter.acquires ∧
        next.acquires = clients.limiter.acquires + 1)
    (held : ClientHeld next client')
    (begun : client.state ≠ .entering ∧ client.state ≠ .waiting →
      client'.state ≠ .entering ∧ client'.state ≠ .waiting)
    (invoked : ∀ other ∈ invocations, other ∈ clients.invocations ∨
      other = index ∧ client'.state ≠ .entering ∧ client'.state ≠ .waiting) :
    ClientInvariant options ⟨next, clients.clients.set index client', invocations⟩ := by
  obtain ⟨inside, _⟩ := List.getElem?_eq_some_iff.mp present
  have self : (clients.clients.set index client')[index]? = some client' :=
    List.getElem?_set_self inside
  have grown : clients.limiter.acquires ≤ next.acquires := by
    rcases acquisition with ⟨_, same⟩ | ⟨_, _, more⟩ <;> omega
  -- Nobody else has the acquisition of the client that moves.
  have alone : ∀ (other : ℕ) found id, clients.clients[other]? = some found →
      client'.acquisition = some id → found.acquisition = some id → index = other := by
    intro other found id unchanged ours theirs
    rcases acquisition with ⟨same, _⟩ | ⟨_, fresh, _⟩
    · rw [same] at ours
      exact invariant.distinct index other client found id present unchanged ours theirs
    · rw [fresh, Option.some.injEq] at ours
      have earlier := invariant.called other found id unchanged theirs
      omega
  constructor
  · exact sound
  · intro other found updated
    rcases getElem?_set_cases present updated with ⟨_, rfl⟩ | ⟨different, unchanged⟩
    · exact held
    · apply (invariant.held other found unchanged).advance advance
      intro id permit theirs granted same
      -- The released permit was granted to the client that moves.
      obtain ⟨id', ours, granted'⟩ := own permit same
      have shared := invariant.sound.grants.distinct id id' permit granted granted'
      rw [← shared] at ours
      exact different (invariant.distinct other index found client id unchanged present theirs ours)
  · intro other found id updated theirs
    change id < next.acquires
    rcases getElem?_set_cases present updated with ⟨_, rfl⟩ | ⟨_, unchanged⟩
    · rcases acquisition with ⟨same, _⟩ | ⟨_, fresh, more⟩
      · rw [same] at theirs
        exact (invariant.called index client id present theirs).trans_le grown
      · rw [fresh, Option.some.injEq] at theirs
        omega
    · exact (invariant.called other found id unchanged theirs).trans_le grown
  · intro first second found found' id updated updated' theirs theirs'
    rcases getElem?_set_cases present updated with ⟨rfl, rfl⟩ | ⟨_, unchanged⟩ <;>
      rcases getElem?_set_cases present updated' with ⟨rfl, rfl⟩ | ⟨_, unchanged'⟩
    · rfl
    · exact alone second found' id unchanged' theirs theirs'
    · exact (alone first found id unchanged theirs' theirs).symm
    · exact invariant.distinct first second found found' id unchanged unchanged' theirs theirs'
  · intro id called
    change id < next.acquires at called
    by_cases old : id < clients.limiter.acquires
    · obtain ⟨other, found, unchanged, theirs⟩ := invariant.owned id old
      by_cases same : other = index
      · rw [same, present, Option.some.injEq] at unchanged
        subst unchanged
        rcases acquisition with ⟨kept, _⟩ | ⟨empty, _, _⟩
        · exact ⟨index, client', self, kept.trans theirs⟩
        · rw [empty] at theirs
          cases theirs
      · exact ⟨other, found, (List.getElem?_set_ne (Ne.symm same)).trans unchanged, theirs⟩
    · rcases acquisition with ⟨_, same⟩ | ⟨_, fresh, more⟩
      · omega
      · have latest : clients.limiter.acquires = id := by omega
        exact ⟨index, client', self, fresh.trans (congrArg some latest)⟩
  · intro other member
    change ∃ found, (clients.clients.set index client')[other]? = some found ∧ _
    rcases invoked other member with earlier | ⟨rfl, late⟩
    · obtain ⟨found, unchanged, late⟩ := invariant.invoked other earlier
      by_cases same : other = index
      · rw [same, present, Option.some.injEq] at unchanged
        subst unchanged
        exact ⟨client', same ▸ self, begun late⟩
      · exact ⟨found, (List.getElem?_set_ne (Ne.symm same)).trans unchanged, late⟩
    · exact ⟨client', self, late⟩

theorem ClientInvariant.become {index : ℕ} {client client' : Client ClientPhase}
    (invariant : ClientInvariant options clients)
    (present : clients.clients[index]? = some client)
    (same : client'.acquisition = client.acquisition)
    (held : ClientHeld clients.limiter client')
    (begun : client'.state ≠ .entering ∧ client'.state ≠ .waiting) :
    ClientInvariant options (clients.become index client') :=
  invariant.update present invariant.sound (.same rfl rfl (fun _ member => member)) (by simp)
    (.inl ⟨same, rfl⟩) held (fun _ => begun) (fun _ => .inl)

theorem ClientInvariant.arrive (invariant : ClientInvariant options clients) :
    ClientInvariant options { clients with clients := clients.clients ++ [⟨.entering, none⟩] } := by
  have earlier : ∀ {index : ℕ} {client : Client ClientPhase}, clients.clients[index]? = some client →
      (clients.clients ++ [⟨.entering, none⟩])[index]? = some client := by
    intro index client present
    obtain ⟨inside, _⟩ := List.getElem?_eq_some_iff.mp present
    exact (List.getElem?_append_left inside).trans present
  have known : ∀ {index : ℕ} {client : Client ClientPhase},
      (clients.clients ++ [⟨.entering, none⟩])[index]? = some client →
        clients.clients[index]? = some client ∨ client = ⟨.entering, none⟩ := by
    intro index client found
    by_cases inside : index < clients.clients.length
    · rw [List.getElem?_append_left inside] at found
      exact .inl found
    · rw [List.getElem?_append_right (not_lt.mp inside)] at found
      exact .inr (List.mem_singleton.mp (List.mem_of_getElem? found))
  -- Whoever has an acquisition was there before.
  have caller : ∀ {index : ℕ} {client : Client ClientPhase} {id : ℕ},
      (clients.clients ++ [⟨.entering, none⟩])[index]? = some client →
        client.acquisition = some id → clients.clients[index]? = some client := by
    intro index client id found own
    rcases known found with old | rfl
    · exact old
    · cases own
  constructor
  · exact invariant.sound
  · intro index client found
    rcases known found with old | rfl
    · exact invariant.held index client old
    · rfl
  · intro index client id found own
    exact invariant.called index client id (caller found own) own
  · intro index index' client client' id found found' own own'
    exact invariant.distinct index index' client client' id (caller found own)
      (caller found' own') own own'
  · intro id called
    obtain ⟨index, client, present, own⟩ := invariant.owned id called
    exact ⟨index, client, earlier present, own⟩
  · intro index member
    obtain ⟨client, present, begun⟩ := invariant.invoked index member
    exact ⟨client, earlier present, begun⟩

theorem ClientInvariant.acquire {index : ℕ} (invariant : ClientInvariant options clients)
    (now : ℚ) (present : clients.clients[index]? = some ⟨.entering, none⟩) :
    ClientInvariant options
      { clients.become index ⟨.waiting, some clients.limiter.acquires⟩ with
        limiter := clients.limiter.acquire options now (some index) } := by
  have advance := advance_acquire options clients.limiter now (some index)
  have more : (clients.limiter.acquire options now (some index)).acquires =
      clients.limiter.acquires + 1 := acquires_step (.acquire now (some index))
  refine invariant.update present (invariant.sound.move (moves_acquire options _ now _)) advance
    (by simp) (.inr ⟨rfl, rfl, more⟩) ?_ (by simp) (fun _ => .inl)
  refine ⟨_, rfl, ?_⟩
  intro permit granted
  rcases advance.fresh _ permit granted with old | new
  · exact absurd (invariant.sound.history.granted_lt old) (lt_irrefl _)
  · exact new

theorem ClientInvariant.release {index permit : ℕ} {working : Bool} {acquisition : Option ℕ}
    (invariant : ClientInvariant options clients) (now : ℚ)
    (present : clients.clients[index]? = some ⟨.holding permit working, acquisition⟩) :
    ClientInvariant options
      { clients.become index ⟨.leaving, acquisition⟩ with
        limiter := clients.limiter.releasePermit now permit } := by
  obtain ⟨id, own, granted, _⟩ := invariant.held index _ present
  have advance := advance_releasePermit clients.limiter now permit
  have moved := moves_releasePermit options clients.limiter now permit
  refine invariant.update present (invariant.sound.moves moved) advance ?_
    (.inl ⟨rfl, acquires_releasePermit now permit⟩) ?_ (by simp) (fun _ => .inl)
  · rintro other same
    cases same
    exact ⟨id, own, granted⟩
  · intro id' own'
    cases own.symm.trans own'
    refine ⟨.ok permit, advance.log _ granted, ?_⟩
    rintro other same
    cases same
    exact releasePermit_released (invariant.sound.grants.inside id permit granted) now

theorem ClientInvariant.move {clients' : PhaseSystem} (invariant : ClientInvariant options clients)
    (moved : ClientMove options clients clients') : ClientInvariant options clients' := by
  cases moved with
  | arrive => exact invariant.arrive
  | acquire now present => exact invariant.acquire now present
  | @work index id permit present granted running =>
      obtain ⟨id', own, unreleased⟩ := invariant.held index _ present
      cases own
      refine invariant.update present invariant.sound (.same rfl rfl (fun _ member => member))
        (by simp) (.inl ⟨rfl, rfl⟩) ⟨id, rfl, granted, unreleased permit granted⟩ (by simp) ?_
      intro other member
      rcases List.mem_append.mp member with old | new
      · exact .inl old
      · exact .inr ⟨List.mem_singleton.mp new, by simp, by simp⟩
  | @decline index id permit present granted =>
      obtain ⟨id', own, unreleased⟩ := invariant.held index _ present
      cases own
      exact invariant.become present rfl ⟨id, rfl, granted, unreleased permit granted⟩
        ⟨by simp, by simp⟩
  | @refuse index id error present refused =>
      refine invariant.become present rfl ?_ ⟨by simp, by simp⟩
      intro id' own
      cases own
      exact ⟨.error error, refused, by simp⟩
  | rest present =>
      have held := invariant.held _ _ present
      exact invariant.become present rfl held ⟨by simp, by simp⟩
  | release now present => exact invariant.release now present
  | @leave index phase acquisition present outside =>
      have held := invariant.held index _ present
      refine invariant.become present rfl ?_ ⟨by simp, by simp⟩
      rcases outside with rfl | rfl
      · intro id own
        cases own.symm.trans held
      · exact held
  | abort now index =>
      exact invariant.limiter (invariant.sound.moves invariant.sound.tracked.abort)
        (advance_abort _ now index) (acquires_abort now index)
  | @expire now id armed =>
      exact invariant.limiter (invariant.sound.move (invariant.sound.tracked.expire armed))
        (advance_expire options _ now id) (acquires_withdraw _ _ _)

theorem clientInvariant_initial (options : InMemoryConcurrencyLimiterOptions) :
    ClientInvariant options .initial where
  sound := limiterSound_initial options
  held := by simp [ClientSystem.initial]
  called := by simp [ClientSystem.initial]
  distinct := by simp [ClientSystem.initial]
  owned := by simp [ClientSystem.initial, LimiterSystem.initial]
  invoked := by simp [ClientSystem.initial]

theorem ClientInvariant.moves {clients' : PhaseSystem} (invariant : ClientInvariant options clients)
    (moved : ClientMoves options clients clients') : ClientInvariant options clients' := by
  induction moved with
  | refl => exact invariant
  | tail _ last ih => exact ih.move last

/-! ### Consequences -/

/-- The client has been granted a permit that has not been released. -/
def Client.Holds {State : Type} (client : Client State) (limiter : LimiterSystem) (permit : ℕ) :
    Prop :=
  ∃ id, client.acquisition = some id ∧ limiter.granted id permit ∧ limiter.unreleased permit

theorem ClientHeld.holds {client : Client ClientPhase} {permit : ℕ} {working : Bool}
    (held : ClientHeld system client) (phase : client.state = .holding permit working) :
    client.Holds system permit := by
  unfold ClientHeld at held
  rwa [phase] at held

theorem ClientHeld.holds_none {client : Client ClientPhase} (held : ClientHeld system client)
    (history : LimiterHistory system)
    (outside : client.state = .entering ∨ client.state = .leaving ∨ client.state = .settled)
    (permit : ℕ) : ¬ client.Holds system permit := by
  rintro ⟨id, own, granted, record, present, unreleased⟩
  have returned : Returned system client.acquisition := by
    unfold ClientHeld at held
    rcases outside with entering | leaving | settled
    · rw [entering] at held
      rw [held] at own
      cases own
    · rwa [leaving] at held
    · rwa [settled] at held
  obtain ⟨result, settled, given⟩ := returned id own
  have same := history.result_unique settled granted
  obtain ⟨record', present', released⟩ := given permit same
  cases present.symm.trans present'
  rw [released] at unreleased
  cases unreleased

def heldIndices (permits : List ConcurrencyPermit) : List ℕ :=
  (List.range permits.length).filter (fun permit => permits[permit]?.any (fun held => !held.released))

theorem length_heldIndices (permits : List ConcurrencyPermit) :
    (heldIndices permits).length = heldPermits permits := by
  induction permits using List.reverseRecOn with
  | nil => rfl
  | append_singleton permits permit ih =>
      have earlier : (List.range permits.length).filter
          (fun index => (permits ++ [permit])[index]?.any (fun held => !held.released)) =
          heldIndices permits := by
        apply List.filter_congr
        intro index member
        rw [List.getElem?_append_left (List.mem_range.mp member)]
      rw [heldIndices, List.length_append, List.length_singleton, List.range_succ,
        List.filter_append, earlier, List.length_append, ih]
      unfold heldPermits
      rw [List.countP_append]
      cases released : permit.released <;> simp [released]

/-- Different unreleased permits each take a slot. -/
theorem length_le_heldPermits {list : List ℕ} (distinct : list.Nodup)
    (unreleased : ∀ permit ∈ list, system.unreleased permit) :
    list.length ≤ heldPermits system.permits := by
  rw [← length_heldIndices]
  refine (List.Nodup.subperm distinct ?_).length_le
  intro permit member
  obtain ⟨record, present, taken⟩ := unreleased permit member
  obtain ⟨inside, _⟩ := List.getElem?_eq_some_iff.mp present
  exact List.mem_filter.mpr ⟨List.mem_range.mpr inside, by simp [present, taken]⟩

def Client.heldPermit? (client : Client ClientPhase) : Option ℕ :=
  match client.state with
  | .holding permit _ => some permit
  | _ => none

def Client.isWorking (client : Client ClientPhase) : Bool :=
  match client.state with
  | .holding _ working => working
  | _ => false

theorem Client.holds_of_heldPermit? {client : Client ClientPhase} {permit : ℕ} (held : ClientHeld system client)
    (own : client.heldPermit? = some permit) : client.Holds system permit := by
  unfold Client.heldPermit? at own
  split at own
  · next phase =>
      cases own
      exact held.holds phase
  · cases own

theorem ClientInvariant.heldPermits_nodup (invariant : ClientInvariant options clients) :
    (clients.clients.filterMap Client.heldPermit?).Nodup := by
  rw [List.Nodup, List.pairwise_filterMap, List.pairwise_iff_getElem]
  intro first second inside inside' before permit own permit' own' same
  subst same
  have present := List.getElem?_eq_getElem inside
  have present' := List.getElem?_eq_getElem inside'
  obtain ⟨id, ours, granted, _⟩ :=
    Client.holds_of_heldPermit? (invariant.held first _ present) own
  obtain ⟨id', theirs, granted', _⟩ :=
    Client.holds_of_heldPermit? (invariant.held second _ present') own'
  have shared := invariant.sound.grants.distinct id id' permit granted granted'
  rw [← shared] at theirs
  exact absurd (invariant.distinct first second _ _ id present present' ours theirs) (by omega)

/-- No more clients work at once than there are slots. -/
theorem ClientInvariant.working_le (invariant : ClientInvariant options clients) :
    clients.clients.countP Client.isWorking ≤ options.maxConcurrent := by
  have holders : clients.clients.countP Client.isWorking ≤
      (clients.clients.filterMap Client.heldPermit?).length := by
    rw [List.length_filterMap_eq_countP]
    apply List.countP_mono_left
    intro client _ working
    unfold Client.isWorking at working
    split at working
    · next phase => simp [Client.heldPermit?, phase]
    · cases working
  have taken := length_le_heldPermits invariant.heldPermits_nodup
    (by
      intro permit member
      obtain ⟨client, present, own⟩ := List.mem_filterMap.mp member
      obtain ⟨index, found⟩ := List.getElem?_of_mem present
      obtain ⟨_, _, _, unreleased⟩ :=
        Client.holds_of_heldPermit? (invariant.held index client found) own
      exact unreleased)
  have counted := invariant.sound.capacity.counted
  have bounded := invariant.sound.capacity.bounded
  omega

theorem ClientInvariant.active_eq_zero (invariant : ClientInvariant options clients)
    (settled : ∀ client ∈ clients.clients, client.state = .settled) :
    clients.limiter.active = 0 := by
  have none : heldPermits clients.limiter.permits = 0 := by
    apply List.countP_eq_zero.mpr
    intro record member taken
    obtain ⟨permit, present⟩ := List.getElem?_of_mem member
    obtain ⟨inside, _⟩ := List.getElem?_eq_some_iff.mp present
    obtain ⟨id, granted⟩ := invariant.sound.grants.every permit inside
    obtain ⟨index, client, found, own⟩ :=
      invariant.owned id (invariant.sound.history.granted_lt granted)
    have unreleased : clients.limiter.unreleased permit := ⟨record, present, by simpa using taken⟩
    exact (invariant.held index client found).holds_none invariant.sound.history
      (.inr (.inr (settled client (List.mem_of_getElem? found)))) permit
      ⟨id, own, granted, unreleased⟩
  rw [invariant.sound.capacity.counted, none]
  rfl

/-- A client that has been cancelled does not begin to work any more. -/
theorem ClientMove.cancelled {clients' : PhaseSystem} {index : ℕ}
    (moved : ClientMove options clients clients')
    (cancelled : index ∈ clients.limiter.abortedSignals) :
    index ∈ clients'.limiter.abortedSignals ∧
      (index ∈ clients'.invocations → index ∈ clients.invocations) := by
  cases moved with
  | acquire now present => exact ⟨(advance_acquire options _ now _).signals index cancelled, id⟩
  | @work other id permit present granted running =>
      refine ⟨cancelled, ?_⟩
      intro member
      rcases List.mem_append.mp member with old | new
      · exact old
      · rw [List.mem_singleton.mp new] at cancelled
        exact absurd cancelled running
  | release now present =>
      exact ⟨(advance_releasePermit _ now _).signals index cancelled, id⟩
  | abort now other => exact ⟨(advance_abort _ now other).signals index cancelled, id⟩
  | expire now armed => exact ⟨(advance_expire options _ now _).signals index cancelled, id⟩
  | _ => exact ⟨cancelled, id⟩

theorem ClientMoves.cancelled {clients' : PhaseSystem} {index : ℕ}
    (moved : ClientMoves options clients clients')
    (cancelled : index ∈ clients.limiter.abortedSignals) :
    index ∈ clients'.limiter.abortedSignals ∧
      (index ∈ clients'.invocations → index ∈ clients.invocations) := by
  induction moved with
  | refl => exact ⟨cancelled, id⟩
  | tail _ last ih =>
      obtain ⟨still, same⟩ := ih
      obtain ⟨later, none⟩ := last.cancelled still
      exact ⟨later, same ∘ none⟩

/-! ### Views -/

namespace ClientSystem

variable {State State' : Type} (view : State → State') (system : ClientSystem State)

theorem map_perform (options : InMemoryConcurrencyLimiterOptions) (now : ℚ) (index : ℕ)
    (action : ClientAction) :
    (system.perform options now index action).map view =
      (system.map view).perform options now index action := by
  cases action with
  | acquire =>
      simp only [map, perform, ClientSystem.mk.injEq, true_and, and_true]
      apply List.ext_getElem?
      intro other
      by_cases same : index = other
      · subst same
        cases found : system.clients[index]? <;> simp [found]
      · simp [same]
  | _ => rfl

theorem map_foldl_perform (options : InMemoryConcurrencyLimiterOptions) (now : ℚ) (index : ℕ)
    (actions : List ClientAction) :
    (actions.foldl (perform options now index) system).map view =
      actions.foldl (perform options now index) (system.map view) := by
  induction actions generalizing system with
  | nil => rfl
  | cons action rest ih => rw [List.foldl_cons, List.foldl_cons, ih, map_perform]

theorem map_advance (options : InMemoryConcurrencyLimiterOptions) (now : ℚ) (index : ℕ)
    (state : State) (actions : List ClientAction) :
    (system.advance options now index state actions).map view =
      (system.map view).advance options now index (view state) actions := by
  unfold advance
  rw [map_foldl_perform]
  congr 1
  simp only [map, ClientSystem.mk.injEq, true_and, and_true]
  apply List.ext_getElem?
  intro other
  by_cases same : index = other
  · subst same
    cases found : system.clients[index]? <;> simp [found]
  · simp [same]

theorem map_arrive (options : InMemoryConcurrencyLimiterOptions) (now : ℚ) (cancelled : Bool)
    (state : State) (actions : List ClientAction) :
    (system.arrive options now cancelled state actions).map view =
      (system.map view).arrive options now cancelled (view state) actions := by
  unfold arrive
  rw [map_foldl_perform]
  cases cancelled with
  | true => simp [map, perform]
  | false => simp [map]

theorem advance_state (options : InMemoryConcurrencyLimiterOptions) (now : ℚ) {index : ℕ}
    (state : State) (actions : List ClientAction) (present : index < system.clients.length) :
    ∃ client, (system.advance options now index state actions).clients[index]? = some client ∧
      client.state = state := by
  have performed : ∀ (current : ClientSystem State) (client : Client State),
      current.clients[index]? = some client → ∃ client',
        (actions.foldl (perform options now index) current).clients[index]? = some client' ∧
          client'.state = client.state := by
    induction actions with
    | nil => exact fun _ client found => ⟨client, found, rfl⟩
    | cons action rest ih =>
        intro current client found
        obtain ⟨client', found', same⟩ :
            ∃ client', (current.perform options now index action).clients[index]? = some client' ∧
              client'.state = client.state := by
          cases action with
          | acquire =>
              exact ⟨{ client with acquisition := some current.limiter.acquires },
                by simp [perform, found], rfl⟩
          | _ => exact ⟨client, found, rfl⟩
        obtain ⟨last, reached, kept⟩ := ih _ client' found'
        exact ⟨last, reached, kept.trans same⟩
  obtain ⟨last, reached, same⟩ := performed
    { system with
      clients := system.clients.modify index (fun client => { client with state := state }) }
    { system.clients[index] with state := state } (by simp [present])
  exact ⟨last, reached, same⟩

end ClientSystem

/-! ### Between two awaits -/

/-- What a client may do from one await to the next, given what its acquisition came
to if it has awaited that. -/
inductive ClientProgress :
    ClientPhase → Bool → Option (Except AcquireError ℕ) → List ClientAction → ClientPhase → Prop
  | enqueue (aborted : Bool) : ClientProgress .entering aborted none [.acquire] .waiting
  | quit (aborted : Bool) : ClientProgress .entering aborted none [.abort] .settled
  | invoke (permit : ℕ) :
      ClientProgress .waiting false (some (.ok permit)) [.invoke] (.holding permit true)
  | withdraw (aborted : Bool) (permit : ℕ) :
      ClientProgress .waiting aborted (some (.ok permit)) [.abort, .release permit] .settled
  | refuse (aborted : Bool) (error : AcquireError) :
      ClientProgress .waiting aborted (some (.error error)) [.abort] .settled
  | giveBack (aborted : Bool) (permit : ℕ) (working : Bool) :
      ClientProgress (.holding permit working) aborted none [.release permit] .leaving
  | rest (aborted : Bool) (permit : ℕ) (working : Bool) :
      ClientProgress (.holding permit working) aborted none [] (.holding permit false)
  | finish (aborted : Bool) (permit : ℕ) (working : Bool) :
      ClientProgress (.holding permit working) aborted none [.abort, .release permit] .settled
  | giveBackAndFinish (aborted : Bool) (permit : ℕ) (working : Bool) :
      ClientProgress (.holding permit working) aborted none [.release permit, .abort] .settled
  | leave (aborted : Bool) : ClientProgress .leaving aborted none [.abort] .settled
  | stay (aborted : Bool) (phase : ClientPhase) : ClientProgress phase aborted none [] phase
  | abort (aborted : Bool) (phase : ClientPhase) :
      ClientProgress phase aborted none [.abort] phase

theorem modify_present {State : Type} {list : List (Client State)} {index : ℕ}
    {client : Client State} (present : list[index]? = some client)
    (change : Client State → Client State) :
    list.modify index change = list.set index (change client) := by
  rw [List.modify_eq_set_getElem?, present]
  rfl

theorem become_present {index : ℕ} {client client' : Client ClientPhase}
    (present : clients.clients[index]? = some client) :
    (clients.become index client').clients[index]? = some client' := by
  obtain ⟨inside, _⟩ := List.getElem?_eq_some_iff.mp present
  exact List.getElem?_set_self inside

theorem become_self {index : ℕ} {client : Client ClientPhase}
    (present : clients.clients[index]? = some client) : clients.become index client = clients := by
  obtain ⟨inside, same⟩ := List.getElem?_eq_some_iff.mp present
  simp [ClientSystem.become, ← same]

theorem moves_release {index permit : ℕ} {working : Bool} {acquisition : Option ℕ} (now : ℚ)
    (present : clients.clients[index]? = some ⟨.holding permit working, acquisition⟩) :
    ClientMoves options clients
      { clients.become index ⟨.settled, acquisition⟩ with
        limiter := clients.limiter.releasePermit now permit } := by
  let released : PhaseSystem :=
    { clients.become index ⟨.leaving, acquisition⟩ with
      limiter := clients.limiter.releasePermit now permit }
  have release : ClientMove options clients released := .release now present
  have there : released.clients[index]? = some ⟨.leaving, acquisition⟩ := become_present present
  have leave : ClientMove options released (released.become index ⟨.settled, acquisition⟩) :=
    .leave there (.inr rfl)
  have moves := (Relation.ReflTransGen.single release).tail leave
  simpa [released, ClientSystem.become] using moves

/-- Every step of a client is made of moves. -/
theorem ClientProgress.moves {index : ℕ} {phase phase' : ClientPhase} {acquisition : Option ℕ}
    {aborted : Bool} {result : Option (Except AcquireError ℕ)} {actions : List ClientAction}
    (progress : ClientProgress phase aborted result actions phase') (now : ℚ)
    (invariant : ClientInvariant options clients)
    (present : clients.clients[index]? = some ⟨phase, acquisition⟩)
    (running : aborted = false → index ∉ clients.limiter.abortedSignals)
    (awaited : ∀ settled, result = some settled →
      ∃ id, acquisition = some id ∧ .settled id settled ∈ clients.limiter.log) :
    ClientMoves options clients (clients.advance options now index phase' actions) := by
  have moved : clients.clients.modify index (fun client => { client with state := phase' }) =
      clients.clients.set index ⟨phase', acquisition⟩ := modify_present present _
  -- An abort changes the limiter alone.
  have aborts : ∀ middle : PhaseSystem, ClientMoves options clients middle →
      ClientMoves options clients { middle with limiter := middle.limiter.abort now index } :=
    fun middle before => before.tail (.abort now index)
  have cancelled := aborts clients .refl
  unfold ClientSystem.advance
  rw [moved]
  cases progress with
  | enqueue =>
      have unset : acquisition = none := invariant.held index _ present
      subst unset
      have waiting : (clients.clients.set index ⟨.waiting, none⟩)[index]? =
          some ⟨ClientPhase.waiting, none⟩ := become_present present
      have called : ClientMove options clients _ := .acquire now present
      simp only [List.foldl_cons, List.foldl_nil, ClientSystem.perform, modify_present waiting,
        List.set_set]
      exact .single called
  | quit => exact aborts _ (.single (.leave present (.inl rfl)))
  | invoke permit =>
      obtain ⟨id, own, granted⟩ := awaited _ rfl
      subst own
      exact .single (.work present granted (running rfl))
  | withdraw aborted permit =>
      obtain ⟨id, own, granted⟩ := awaited _ rfl
      subst own
      have declined : ClientMoves options clients _ := .single (.decline present granted)
      have there := @become_present clients index _ ⟨.holding permit false, some id⟩ present
      have moves := (aborts _ declined).trans (moves_release now there)
      simpa [ClientSystem.become, ClientSystem.perform] using moves
  | refuse aborted error =>
      obtain ⟨id, own, refused⟩ := awaited _ rfl
      subst own
      exact aborts _ (.single (.refuse present refused))
  | giveBack aborted permit working => exact .single (.release now present)
  | rest aborted permit working => exact .single (.rest present)
  | finish aborted permit working =>
      exact cancelled.trans (moves_release now present)
  | giveBackAndFinish aborted permit working => exact aborts _ (moves_release now present)
  | leave aborted => exact aborts _ (.single (.leave present (.inr rfl)))
  | stay aborted phase =>
      have same := become_self present
      unfold ClientSystem.become at same
      simp only [List.foldl_nil, same]
      exact .refl
  | abort aborted phase =>
      have same := become_self present
      unfold ClientSystem.become at same
      simp only [List.foldl_cons, List.foldl_nil, same]
      exact cancelled

theorem moves_arrive (now : ℚ) (cancelled : Bool) :
    ClientMoves options clients (clients.arrive options now cancelled .entering []) := by
  have arrived : ClientMoves options clients
      { clients with clients := clients.clients ++ [⟨.entering, none⟩] } := .single .arrive
  cases cancelled with
  | true => exact arrived.tail (.abort now _)
  | false => exact arrived

theorem moves_arrive_acquire (now : ℚ) (cancelled : Bool) :
    ClientMoves options clients (clients.arrive options now cancelled .waiting [.acquire]) := by
  let entered := clients.arrive options now cancelled .entering []
  have listed : entered.clients = clients.clients ++ [⟨.entering, none⟩] := by
    cases cancelled <;> rfl
  have present : entered.clients[clients.clients.length]? = some ⟨.entering, none⟩ := by
    rw [listed]
    exact List.getElem?_concat_length
  have moves := (moves_arrive now cancelled).tail (ClientMove.acquire now present)
  have same : clients.arrive options now cancelled .waiting [.acquire] =
      { entered.become clients.clients.length ⟨.waiting, some entered.limiter.acquires⟩ with
        limiter := entered.limiter.acquire options now (some clients.clients.length) } := by
    have last : ∀ state : ClientPhase, (clients.clients ++ [⟨state, none⟩])[clients.clients.length]? =
        some ⟨state, none⟩ := fun _ => List.getElem?_concat_length
    cases cancelled <;>
      simp [entered, ClientSystem.arrive, ClientSystem.perform, ClientSystem.become,
        modify_present (last _)]
  rw [same]
  exact moves

end ModelMux.Concurrency
