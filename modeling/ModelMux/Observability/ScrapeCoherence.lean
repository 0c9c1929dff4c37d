/-
What the text of a scrape shows.

Whatever calls, answers of the database, timers and changes of the process come in
between, every text shows what was read in one collection: the limiter and the
circuits as they were when it began, and the jobs as the database has counted them
meanwhile, or as unavailable.  All calls that come before the end of a collection
get its text.
-/

import ModelMux.Observability.Scrape
import ModelMux.Providers.RoutingPass
import ModelMux.Queue.JobStoreRun

namespace ModelMux.Observability

open Concurrency Providers Queue

variable {World : Type}

/-! ### Collections of a history -/

def worldAfter (world : World) (events : List (MetricsEvent World)) : World :=
  events.foldl (fun world event =>
    match event with
    | .change later => later
    | _ => world) world

def isOpen (events : List (MetricsEvent World)) : Bool :=
  events.foldl (fun opened event =>
    match event with
    | .scrape _ => true
    | .finish => false
    | _ => opened) false

def caller? : MetricsEvent World → Option ℕ
  | .scrape caller => some caller
  | _ => none

/-- The call that begins a collection, with what has happened before and meanwhile. -/
structure Collection (World : Type) where
  before : List (MetricsEvent World)
  opener : ℕ
  during : List (MetricsEvent World)

namespace Collection

def events (collection : Collection World) : List (MetricsEvent World) :=
  collection.before ++ .scrape collection.opener :: collection.during

def extend (collection : Collection World) (event : MetricsEvent World) : Collection World :=
  { collection with during := collection.during ++ [event] }

structure Valid (collection : Collection World) : Prop where
  closed : isOpen collection.before = false
  unfinished : MetricsEvent.finish ∉ collection.during

/-- The call has begun the collection or shares it. -/
def Called (collection : Collection World) (caller : ℕ) : Prop :=
  .scrape caller ∈ MetricsEvent.scrape collection.opener :: collection.during

/-- The database has counted the jobs during the collection. -/
def Counted (collection : Collection World) (sources : Sources World) (world : World)
    (depth : QueueDepth) : Prop :=
  ∃ first read rest, collection.during = first ++ .execute read :: rest ∧
    depth = sources.queueDepth
      (worldAfter world (collection.before ++ .scrape collection.opener :: first))

theorem events_extend (collection : Collection World) (event : MetricsEvent World) :
    (collection.extend event).events = collection.events ++ [event] := by
  simp [events, extend]

theorem Valid.extend {collection : Collection World} (valid : collection.Valid)
    {event : MetricsEvent World} (unfinished : event ≠ .finish) :
    (collection.extend event).Valid := by
  refine ⟨valid.closed, ?_⟩
  intro finished
  rcases List.mem_append.mp finished with old | new
  · exact valid.unfinished old
  · exact unfinished (List.mem_singleton.mp new).symm

theorem Called.extend {collection : Collection World} {caller : ℕ}
    (called : collection.Called caller) (event : MetricsEvent World) :
    (collection.extend event).Called caller :=
  List.mem_append_left [event] called

theorem Counted.extend {collection : Collection World} {sources : Sources World} {world : World}
    {depth : QueueDepth} (counted : collection.Counted sources world depth)
    (event : MetricsEvent World) : (collection.extend event).Counted sources world depth := by
  obtain ⟨first, read, rest, split, counts⟩ := counted
  exact ⟨first, read, rest ++ [event], by simp [Collection.extend, split], counts⟩

end Collection

theorem worldAfter_snoc (world : World) (events : List (MetricsEvent World))
    (event : MetricsEvent World) :
    worldAfter world (events ++ [event]) = worldAfter (worldAfter world events) [event] := by
  simp [worldAfter]

theorem isOpen_snoc_finish (events : List (MetricsEvent World)) :
    isOpen (events ++ [.finish]) = false := by
  simp [isOpen]

/-! ### What a text shows -/

def shownState (providers : List ProviderHealth) (label : String) : Option CircuitState :=
  providers.foldl (fun shown provider =>
    if providerLabel provider.name = label then some provider.state else shown) none

def oneHot (state name : CircuitState) : JsNumber :=
  .finite (if state = name then 1 else 0)

def ShowsConcurrency (observed : Option ConcurrencySnapshot) (text : Gauges) : Prop :=
  match observed with
  | some value =>
      text.concurrencyActive = .finite value.active ∧
        text.concurrencyQueued = .finite value.queued ∧
        text.collectorUp .concurrency = some (.finite 1)
  | none =>
      text.concurrencyActive = .notANumber ∧ text.concurrencyQueued = .notANumber ∧
        text.collectorUp .concurrency = some (.finite 0)

def ShowsCircuits (observed : Option (List ProviderHealth)) (text : Gauges) : Prop :=
  match observed with
  | some providers =>
      (∀ label name, text.circuitState label name =
          (shownState providers label).map (fun state => oneHot state name)) ∧
        text.collectorUp .circuits = some (.finite 1)
  | none =>
      (∀ label name, text.circuitState label name = none) ∧
        text.collectorUp .circuits = some (.finite 0)

def ShowsDepth (observed : Option QueueDepth) (text : Gauges) : Prop :=
  match observed with
  | some depth =>
      (∀ status, text.jobsDepth status = some (.finite (Gauges.depthOf depth status))) ∧
        text.collectorUp .jobs = some (.finite 1)
  | none =>
      (∀ status, text.jobsDepth status = some .notANumber) ∧
        text.collectorUp .jobs = some (.finite 0)

structure ShowsWorld (bound : Collector → Bool) (sources : Sources World) (world : World)
    (text : Gauges) : Prop where
  concurrency : bound .concurrency = true → ShowsConcurrency (sources.concurrency world) text
  circuits : bound .circuits = true → ShowsCircuits (sources.providers world) text

/-- All collectors have read in this collection. -/
structure Coherent (bound : Collector → Bool) (sources : Sources World) (world : World)
    (collection : Collection World) (text : Gauges) : Prop where
  shown : ShowsWorld bound sources (worldAfter world collection.before) text
  jobs : bound .jobs = true → ∃ observed, ShowsDepth observed text ∧
    ∀ depth, observed = some depth → collection.Counted sources world depth

namespace Gauges

theorem foldl_setCircuit (providers : List ProviderHealth) (gauges : Gauges) (label : String)
    (shown : Option CircuitState)
    (held : ∀ name, gauges.circuitState label name = shown.map (fun state => oneHot state name))
    (name : CircuitState) :
    (providers.foldl setCircuit gauges).circuitState label name =
      (providers.foldl (fun shown provider =>
        if providerLabel provider.name = label then some provider.state else shown) shown).map
        (fun state => oneHot state name) := by
  induction providers generalizing gauges shown with
  | nil => exact held name
  | cons provider providers ih =>
      simp only [List.foldl_cons]
      apply ih
      intro name
      by_cases same : providerLabel provider.name = label
      · subst same
        simp [setCircuit, oneHot]
      · have other : label ≠ providerLabel provider.name := Ne.symm same
        simp [setCircuit, Function.update_of_ne other, same, held]

theorem collectorUp_foldl (providers : List ProviderHealth) (gauges : Gauges) :
    (providers.foldl setCircuit gauges).collectorUp = gauges.collectorUp ∧
      (providers.foldl setCircuit gauges).concurrencyActive = gauges.concurrencyActive ∧
      (providers.foldl setCircuit gauges).concurrencyQueued = gauges.concurrencyQueued := by
  induction providers generalizing gauges with
  | nil => exact ⟨rfl, rfl, rfl⟩
  | cons provider providers ih =>
      obtain ⟨up, active, queued⟩ := ih (gauges.setCircuit provider)
      exact ⟨up, active, queued⟩

theorem collectConcurrency_shows (gauges : Gauges) (observed : Option ConcurrencySnapshot) :
    ShowsConcurrency observed (gauges.collectConcurrency observed) := by
  cases observed with
  | none => exact ⟨rfl, rfl, by simp [collectConcurrency, setUp]⟩
  | some value => exact ⟨rfl, rfl, by simp [collectConcurrency, setUp]⟩

theorem collectProviders_shows (gauges : Gauges) (observed : Option (List ProviderHealth)) :
    ShowsCircuits observed (gauges.collectProviders observed) := by
  cases observed with
  | none => exact ⟨fun _ _ => rfl, by simp [collectProviders, setUp]⟩
  | some providers =>
      refine ⟨?_, by simp [collectProviders, setUp]⟩
      intro label name
      exact foldl_setCircuit providers _ label none (fun _ => rfl) name

theorem collectProviders_concurrency (gauges : Gauges) (observed : Option (List ProviderHealth))
    (snapshot : Option ConcurrencySnapshot) (shown : ShowsConcurrency snapshot gauges) :
    ShowsConcurrency snapshot (gauges.collectProviders observed) := by
  have kept : (gauges.collectProviders observed).concurrencyActive = gauges.concurrencyActive ∧
      (gauges.collectProviders observed).concurrencyQueued = gauges.concurrencyQueued ∧
      (gauges.collectProviders observed).collectorUp .concurrency =
        gauges.collectorUp .concurrency := by
    cases observed with
    | none => exact ⟨rfl, rfl, by simp [collectProviders, setUp]⟩
    | some providers =>
        obtain ⟨up, active, queued⟩ :=
          collectorUp_foldl providers { gauges with circuitState := fun _ _ => none }
        refine ⟨active, queued, ?_⟩
        simp [collectProviders, setUp, up]
  obtain ⟨active, queued, up⟩ := kept
  cases snapshot with
  | none => simpa [ShowsConcurrency, active, queued, up] using shown
  | some value => simpa [ShowsConcurrency, active, queued, up] using shown

theorem collectDepth_shows (gauges : Gauges) (observed : Option QueueDepth) :
    ShowsDepth observed (gauges.collectDepth observed) := by
  cases observed with
  | none => exact ⟨fun _ => rfl, by simp [collectDepth, setUp]⟩
  | some depth => exact ⟨fun _ => rfl, by simp [collectDepth, setUp]⟩

end Gauges

theorem ShowsWorld.collectDepth {bound : Collector → Bool} {sources : Sources World}
    {world : World} {gauges : Gauges} (shown : ShowsWorld bound sources world gauges)
    (observed : Option QueueDepth) :
    ShowsWorld bound sources world (gauges.collectDepth observed) := by
  constructor
  · intro isBound
    have before := shown.concurrency isBound
    cases observed <;> cases known : sources.concurrency world <;>
      simpa [ShowsConcurrency, known, Gauges.collectDepth, Gauges.setUp] using before
  · intro isBound
    have before := shown.circuits isBound
    cases observed <;> cases known : sources.providers world <;>
      simpa [ShowsCircuits, known, Gauges.collectDepth, Gauges.setUp] using before

theorem collect_shows (bound : Collector → Bool) (sources : Sources World)
    (state : MetricsState World) :
    ShowsWorld bound sources state.world (state.collect bound sources) := by
  constructor
  · intro isBound
    have first := Gauges.collectConcurrency_shows state.gauges (sources.concurrency state.world)
    simp only [MetricsState.collect, isBound, if_true]
    split_ifs
    · exact Gauges.collectProviders_concurrency _ _ _ first
    · exact first
  · intro isBound
    simp only [MetricsState.collect, isBound, if_true]
    exact Gauges.collectProviders_shows _ _

/-! ### The encoder -/

def Gauges.Agrees (text gauges : Gauges) : Family → Prop
  | .concurrencyActive => text.concurrencyActive = gauges.concurrencyActive
  | .concurrencyQueued => text.concurrencyQueued = gauges.concurrencyQueued
  | .circuitState => text.circuitState = gauges.circuitState
  | .jobsDepth => text.jobsDepth = gauges.jobsDepth
  | .collectorUp => text.collectorUp = gauges.collectorUp

theorem Gauges.agrees_copy (text gauges : Gauges) {family read : Family}
    (held : family ≠ read → text.Agrees gauges family) :
    (text.copy gauges read).Agrees gauges family := by
  cases read <;> cases family <;> first | rfl | exact held (by decide)

theorem Gauges.eq_of_agrees {text gauges : Gauges} (all : ∀ family, text.Agrees gauges family) :
    text = gauges := by
  have active : text.concurrencyActive = gauges.concurrencyActive := all .concurrencyActive
  have queued : text.concurrencyQueued = gauges.concurrencyQueued := all .concurrencyQueued
  have circuits : text.circuitState = gauges.circuitState := all .circuitState
  have depth : text.jobsDepth = gauges.jobsDepth := all .jobsDepth
  have up : text.collectorUp = gauges.collectorUp := all .collectorUp
  cases text
  cases gauges
  simp_all

theorem mem_families (family : Family) : family ∈ families := by
  cases family <;> decide

/-! ### The invariant -/

section Runs

variable (bound : Collector → Bool) (sources : Sources World) (world : World)

def PhaseHeld (collection : Collection World) (gauges : Gauges) (reads : List ReadPhase) :
    ScrapePhase → Prop
  | .racing read =>
      ShowsWorld bound sources (worldAfter world collection.before) gauges ∧
        read < reads.length ∧
        ∀ depth, reads[read]? = some (.executed depth) → collection.Counted sources world depth
  | .raced outcome =>
      ShowsWorld bound sources (worldAfter world collection.before) gauges ∧
        ∀ depth, outcome = some depth → collection.Counted sources world depth
  | .collected => Coherent bound sources world collection gauges
  | .encoding text left =>
      Coherent bound sources world collection gauges ∧
        ∀ family, family ∉ left → text.Agrees gauges family
  | .settled result =>
      ∀ text, result = some text → Coherent bound sources world collection text

structure RunningHeld (events : List (MetricsEvent World)) (state : MetricsState World)
    (scrape : Scrape) (collection : Collection World) : Prop where
  events : events = collection.events
  valid : collection.Valid
  callers : ∀ caller ∈ scrape.callers, collection.Called caller
  phase : PhaseHeld bound sources world collection state.gauges state.reads scrape.phase

structure AnswerHeld (events : List (MetricsEvent World)) (answer : ℕ × Option Gauges)
    (collection : Collection World) : Prop where
  finished : ∃ after, events = collection.events ++ .finish :: after
  valid : collection.Valid
  called : collection.Called answer.1
  coherent : ∀ text, answer.2 = some text → Coherent bound sources world collection text

structure ScrapeHistory (events : List (MetricsEvent World)) (state : MetricsState World) :
    Prop where
  present : state.world = worldAfter world events
  idle : state.scraping = none → isOpen events = false
  running : ∀ scrape, state.scraping = some scrape →
    ∃ collection, RunningHeld bound sources world events state scrape collection
  answers : ∀ answer ∈ state.answers,
    ∃ collection, AnswerHeld bound sources world events answer collection
  callers : state.answers.map Prod.fst ++ state.scraping.elim [] Scrape.callers =
    events.filterMap caller?

variable {bound sources world}

theorem Coherent.extend {collection : Collection World} {text : Gauges}
    (coherent : Coherent bound sources world collection text) (event : MetricsEvent World) :
    Coherent bound sources world (collection.extend event) text := by
  refine ⟨coherent.shown, ?_⟩
  intro isBound
  obtain ⟨observed, shown, counted⟩ := coherent.jobs isBound
  exact ⟨observed, shown, fun depth known => (counted depth known).extend event⟩

theorem PhaseHeld.extend {collection : Collection World} {gauges : Gauges}
    {reads : List ReadPhase} {phase : ScrapePhase}
    (held : PhaseHeld bound sources world collection gauges reads phase)
    (event : MetricsEvent World) :
    PhaseHeld bound sources world (collection.extend event) gauges reads phase := by
  cases phase with
  | racing read =>
      exact ⟨held.1, held.2.1, fun depth known => (held.2.2 depth known).extend event⟩
  | raced outcome => exact ⟨held.1, fun depth known => (held.2 depth known).extend event⟩
  | collected => exact Coherent.extend held event
  | encoding text left => exact ⟨held.1.extend event, held.2⟩
  | settled result => exact fun text known => (held text known).extend event

/-- The queries other than that of the race do not matter. -/
theorem PhaseHeld.reads {collection : Collection World} {gauges : Gauges}
    {before after : List ReadPhase} {phase : ScrapePhase}
    (held : PhaseHeld bound sources world collection gauges before phase)
    (length : after.length = before.length)
    (same : ∀ read depth, phase = .racing read → after[read]? = some (.executed depth) →
      before[read]? = some (.executed depth) ∨ collection.Counted sources world depth) :
    PhaseHeld bound sources world collection gauges after phase := by
  cases phase with
  | racing read =>
      refine ⟨held.1, length ▸ held.2.1, ?_⟩
      intro depth known
      rcases same read depth rfl known with old | counted
      · exact held.2.2 depth old
      · exact counted
  | raced outcome => exact held
  | collected => exact held
  | encoding text left => exact held
  | settled result => exact held

theorem AnswerHeld.snoc {events : List (MetricsEvent World)} {answer : ℕ × Option Gauges}
    {collection : Collection World}
    (held : AnswerHeld bound sources world events answer collection)
    (event : MetricsEvent World) :
    AnswerHeld bound sources world (events ++ [event]) answer collection := by
  obtain ⟨after, split⟩ := held.finished
  exact ⟨⟨after ++ [event], by rw [split]; simp⟩, held.valid, held.called, held.coherent⟩

omit bound sources in
theorem isOpen_snoc_other (events : List (MetricsEvent World)) {event : MetricsEvent World}
    (silent : caller? event = none) (unfinished : event ≠ .finish) :
    isOpen (events ++ [event]) = isOpen events := by
  unfold isOpen
  rw [List.foldl_append]
  cases event with
  | scrape caller => cases silent
  | finish => exact absurd rfl unfinished
  | _ => rfl

variable {events : List (MetricsEvent World)} {event : MetricsEvent World}
  {state next : MetricsState World}

/-- A step that neither begins nor ends a scrape and serves no caller. -/
theorem ScrapeHistory.keep (held : ScrapeHistory bound sources world events state)
    (silent : caller? event = none) (unfinished : event ≠ .finish)
    (present : next.world = worldAfter state.world [event])
    (answers : next.answers = state.answers)
    (idle : next.scraping = none → state.scraping = none)
    (running : ∀ later, next.scraping = some later → ∃ scrape, state.scraping = some scrape ∧
      later.callers = scrape.callers ∧ ∀ collection, events = collection.events →
        PhaseHeld bound sources world collection state.gauges state.reads scrape.phase →
        PhaseHeld bound sources world (collection.extend event) next.gauges next.reads
          later.phase) :
    ScrapeHistory bound sources world (events ++ [event]) next where
  present := by rw [present, worldAfter_snoc, held.present]
  idle := by
    intro none
    rw [isOpen_snoc_other events silent unfinished]
    exact held.idle (idle none)
  running := by
    intro later found
    obtain ⟨scrape, before, callers, phase⟩ := running later found
    obtain ⟨collection, held⟩ := held.running scrape before
    refine ⟨collection.extend event, ?_, held.valid.extend unfinished, ?_,
      phase collection held.events held.phase⟩
    · rw [held.events, Collection.events_extend]
    · intro caller member
      exact (held.callers caller (callers ▸ member)).extend event
  answers := by
    intro answer member
    rw [answers] at member
    obtain ⟨collection, held⟩ := held.answers answer member
    exact ⟨collection, held.snoc event⟩
  callers := by
    have same : next.scraping.elim [] Scrape.callers = state.scraping.elim [] Scrape.callers := by
      cases found : next.scraping with
      | none => rw [idle found]
      | some later =>
          obtain ⟨scrape, before, callers, _⟩ := running later found
          rw [before]
          exact callers
    rw [answers, same, held.callers, List.filterMap_append]
    simp [silent]

theorem ScrapeHistory.change (held : ScrapeHistory bound sources world events state)
    (later : World) :
    ScrapeHistory bound sources world (events ++ [.change later])
      { state with world := later } := by
  refine held.keep rfl (by simp) rfl rfl (fun idle => idle) ?_
  intro scrape found
  exact ⟨scrape, found, rfl, fun _ _ phase => phase.extend _⟩

theorem ScrapeHistory.execute (held : ScrapeHistory bound sources world events state)
    (read : ℕ) :
    ScrapeHistory bound sources world (events ++ [.execute read])
      { state with
        reads := state.reads.set read (.executed (sources.queueDepth state.world)) } := by
  refine held.keep rfl (by simp) rfl rfl (fun idle => idle) ?_
  intro scrape found
  refine ⟨scrape, found, rfl, ?_⟩
  intro collection history phase
  apply (phase.extend _).reads (by simp)
  intro own depth _ known
  rw [List.getElem?_set] at known
  split_ifs at known with same inside
  · cases known
    exact Or.inr ⟨collection.during, read, [], rfl, by rw [held.present, history]; rfl⟩
  · exact Or.inl known

theorem getElem?_set_settled {reads : List ReadPhase} {read own : ℕ} {depth : QueueDepth}
    (known : (reads.set read .settled)[own]? = some (.executed depth)) :
    reads[own]? = some (.executed depth) := by
  rw [List.getElem?_set] at known
  split_ifs at known with same inside
  · cases known
  · exact known

/-- The promise of a query settles, perhaps too late for its race. -/
theorem ScrapeHistory.settleRead (held : ScrapeHistory bound sources world events state)
    {read : ℕ} {outcome : Option QueueDepth} (silent : caller? event = none)
    (unfinished : event ≠ .finish) (still : worldAfter state.world [event] = state.world)
    (arrived : ∀ depth, outcome = some depth →
      state.reads[read]? = some (.executed depth)) :
    ScrapeHistory bound sources world (events ++ [event]) (state.settleRead read outcome) := by
  refine held.keep silent unfinished still.symm rfl ?_ ?_
  · intro none
    simpa [MetricsState.settleRead] using none
  · intro later found
    obtain ⟨scrape, before, rfl⟩ := Option.map_eq_some_iff.mp found
    have kept : ∀ collection : Collection World,
        PhaseHeld bound sources world collection state.gauges state.reads scrape.phase →
        PhaseHeld bound sources world (collection.extend event) state.gauges
          (state.reads.set read .settled) scrape.phase := by
      intro collection phase
      apply (phase.extend event).reads (by simp)
      intro own depth _ known
      exact Or.inl (getElem?_set_settled known)
    refine ⟨scrape, before, ?_, ?_⟩
    · cases scrape.phase with
      | racing own => dsimp only; split_ifs <;> rfl
      | _ => rfl
    · intro collection _ phase
      have later := kept collection phase
      cases stopped : scrape.phase with
      | racing own =>
          rw [stopped] at phase later
          simp only
          split_ifs with same
          · subst same
            refine ⟨phase.1, ?_⟩
            intro depth known
            exact (phase.2.2 depth (arrived depth known)).extend event
          · rw [stopped]
            exact later
      | _ =>
          simp only
          rw [stopped] at later ⊢
          exact later

theorem ScrapeHistory.stop (held : ScrapeHistory bound sources world events state)
    {scrape : Scrape} (found : state.scraping = some scrape) (silent : caller? event = none)
    (unfinished : event ≠ .finish) (still : worldAfter state.world [event] = state.world)
    {gauges : Gauges} {phase : ScrapePhase}
    (later : ∀ collection,
      PhaseHeld bound sources world collection state.gauges state.reads scrape.phase →
      PhaseHeld bound sources world collection gauges state.reads phase) :
    ScrapeHistory bound sources world (events ++ [event])
      ({ state with gauges := gauges }.stop scrape phase) := by
  refine held.keep silent unfinished still.symm rfl ?_ ?_
  · intro none
    cases none
  · intro now same
    cases same
    exact ⟨scrape, found, rfl, fun collection _ before => (later collection before).extend event⟩

theorem ScrapeHistory.advance (held : ScrapeHistory bound sources world events state)
    {scrape : Scrape} (found : state.scraping = some scrape) (unfinished : event ≠ .finish)
    (taken : state.advance scrape event = some next) :
    ScrapeHistory bound sources world (events ++ [event]) next := by
  cases event with
  | timeout =>
      simp only [MetricsState.advance] at taken
      split at taken
      · rename_i read stopped
        cases taken
        refine held.stop found rfl unfinished rfl ?_
        intro collection phase
        rw [stopped] at phase
        refine ⟨phase.1, ?_⟩
        intro depth impossible
        cases impossible
      · cases taken
  | resume =>
      simp only [MetricsState.advance] at taken
      split at taken
      · rename_i outcome stopped
        cases taken
        refine held.stop found rfl unfinished rfl ?_
        intro collection phase
        rw [stopped] at phase
        exact ⟨phase.1.collectDepth outcome, fun _ =>
          ⟨outcome, Gauges.collectDepth_shows state.gauges outcome, phase.2⟩⟩
      · cases taken
  | encode =>
      simp only [MetricsState.advance] at taken
      split at taken
      · rename_i stopped
        cases taken
        refine held.stop found rfl unfinished rfl ?_
        intro collection phase
        rw [stopped] at phase
        exact ⟨phase, fun family missing => absurd (mem_families family) missing⟩
      · cases taken
  | encodeFamily family =>
      simp only [MetricsState.advance] at taken
      split at taken
      · rename_i text left stopped
        split_ifs at taken with listed
        cases taken
        refine held.stop found rfl unfinished rfl ?_
        intro collection phase
        rw [stopped] at phase
        refine ⟨phase.1, ?_⟩
        intro other missing
        apply Gauges.agrees_copy
        intro different
        apply phase.2
        intro present
        exact missing ((List.mem_erase_of_ne different).mpr present)
      · cases taken
  | encodeFails =>
      simp only [MetricsState.advance] at taken
      split at taken
      · cases taken
        refine held.stop found rfl unfinished rfl ?_
        intro collection phase text impossible
        cases impossible
      · cases taken
  | encoded =>
      simp only [MetricsState.advance] at taken
      split at taken
      · rename_i text stopped
        cases taken
        refine held.stop found rfl unfinished rfl ?_
        intro collection phase shown same
        rw [stopped] at phase
        cases same
        -- No collector has run since the first metric was read.
        rw [Gauges.eq_of_agrees (fun family => phase.2 family List.not_mem_nil)]
        exact phase.1
      · cases taken
  | finish => exact absurd rfl unfinished
  | change | scrape | execute | arrive | reject => cases taken

theorem ScrapeHistory.join (held : ScrapeHistory bound sources world events state)
    {scrape : Scrape} (found : state.scraping = some scrape) (caller : ℕ) :
    ScrapeHistory bound sources world (events ++ [.scrape caller])
      { state with scraping := some { scrape with callers := scrape.callers ++ [caller] } } where
  present := by rw [worldAfter_snoc, ← held.present]; rfl
  idle := by
    intro none
    cases none
  running := by
    intro later same
    cases same
    obtain ⟨collection, running⟩ := held.running scrape found
    refine ⟨collection.extend (.scrape caller), ?_, running.valid.extend (by simp), ?_,
      running.phase.extend _⟩
    · rw [running.events, Collection.events_extend]
    · intro other member
      rcases List.mem_append.mp member with old | new
      · exact (running.callers other old).extend _
      · rw [List.mem_singleton.mp new]
        exact List.mem_cons_of_mem _ (List.mem_append_right _ (List.mem_singleton.mpr rfl))
  answers := by
    intro answer member
    obtain ⟨collection, answered⟩ := held.answers answer member
    exact ⟨collection, answered.snoc _⟩
  callers := by
    have before := held.callers
    rw [found] at before
    rw [List.filterMap_append, ← before]
    simp [caller?]

theorem ScrapeHistory.open (held : ScrapeHistory bound sources world events state)
    (idle : state.scraping = none) (caller : ℕ) :
    ScrapeHistory bound sources world (events ++ [.scrape caller])
      { state with
        gauges := state.collect bound sources
        reads := if bound .jobs then state.reads ++ [.sent] else state.reads
        scraping := some
          ⟨if bound .jobs then .racing state.reads.length else .collected, [caller]⟩ } where
  present := by rw [worldAfter_snoc, ← held.present]; rfl
  idle := by
    intro none
    cases none
  running := by
    intro later same
    cases same
    have shown : ShowsWorld bound sources (worldAfter world events) (state.collect bound sources) :=
      held.present ▸ collect_shows bound sources state
    refine ⟨⟨events, caller, []⟩, rfl, ⟨held.idle idle, List.not_mem_nil⟩, ?_, ?_⟩
    · intro other member
      rw [List.mem_singleton.mp member]
      exact List.mem_cons_self
    · cases isBound : bound .jobs with
      | true =>
          simp only [if_true]
          refine ⟨shown, by simp, ?_⟩
          intro depth impossible
          simp at impossible
      | false =>
          refine ⟨shown, ?_⟩
          intro needed
          rw [isBound] at needed
          cases needed
  answers := by
    intro answer member
    obtain ⟨collection, answered⟩ := held.answers answer member
    exact ⟨collection, answered.snoc _⟩
  callers := by
    have before := held.callers
    rw [idle] at before
    rw [List.filterMap_append, ← before]
    simp [caller?]

theorem ScrapeHistory.finish (held : ScrapeHistory bound sources world events state)
    {scrape : Scrape} (found : state.scraping = some scrape)
    (taken : state.advance scrape .finish = some next) :
    ScrapeHistory bound sources world (events ++ [.finish]) next := by
  simp only [MetricsState.advance] at taken
  split at taken
  · rename_i result stopped
    cases taken
    obtain ⟨collection, running⟩ := held.running scrape found
    have phase := running.phase
    rw [stopped] at phase
    exact
      { present := by rw [worldAfter_snoc, ← held.present]; rfl
        idle := fun _ => isOpen_snoc_finish events
        running := by
          intro later impossible
          cases impossible
        answers := by
          intro answer member
          rcases List.mem_append.mp member with old | new
          · obtain ⟨earlier, answered⟩ := held.answers answer old
            exact ⟨earlier, answered.snoc _⟩
          · obtain ⟨caller, listed, rfl⟩ := List.mem_map.mp new
            exact ⟨collection, ⟨[], by rw [running.events]⟩, running.valid,
              running.callers caller listed, phase⟩
        callers := by
          have before := held.callers
          rw [found] at before
          rw [List.filterMap_append, ← before]
          simp [caller?, Function.comp_def] }
  · cases taken

theorem ScrapeHistory.step (held : ScrapeHistory bound sources world events state)
    (taken : state.step bound sources event = some next) :
    ScrapeHistory bound sources world (events ++ [event]) next := by
  cases event with
  | change later =>
      cases taken
      exact held.change later
  | scrape caller =>
      cases taken
      unfold MetricsState.scrape
      split
      · rename_i scrape found
        exact held.join found caller
      · rename_i idle
        exact held.open idle caller
  | execute read =>
      simp only [MetricsState.step] at taken
      split at taken
      · cases taken
        exact held.execute read
      · cases taken
  | arrive read =>
      simp only [MetricsState.step] at taken
      split at taken
      · rename_i depth known
        cases taken
        exact held.settleRead rfl (by simp) rfl (by intro given same; cases same; exact known)
      · cases taken
  | reject read =>
      simp only [MetricsState.step] at taken
      split at taken
      · cases taken
        exact held.settleRead rfl (by simp) rfl (by intro given impossible; cases impossible)
      · cases taken
        exact held.settleRead rfl (by simp) rfl (by intro given impossible; cases impossible)
      · cases taken
  | finish =>
      obtain ⟨scrape, found, advanced⟩ := Option.bind_eq_some_iff.mp taken
      exact held.finish found advanced
  | timeout =>
      obtain ⟨scrape, found, advanced⟩ := Option.bind_eq_some_iff.mp taken
      exact held.advance found (by simp) advanced
  | resume =>
      obtain ⟨scrape, found, advanced⟩ := Option.bind_eq_some_iff.mp taken
      exact held.advance found (by simp) advanced
  | encode =>
      obtain ⟨scrape, found, advanced⟩ := Option.bind_eq_some_iff.mp taken
      exact held.advance found (by simp) advanced
  | encodeFamily family =>
      obtain ⟨scrape, found, advanced⟩ := Option.bind_eq_some_iff.mp taken
      exact held.advance found (by simp) advanced
  | encodeFails =>
      obtain ⟨scrape, found, advanced⟩ := Option.bind_eq_some_iff.mp taken
      exact held.advance found (by simp) advanced
  | encoded =>
      obtain ⟨scrape, found, advanced⟩ := Option.bind_eq_some_iff.mp taken
      exact held.advance found (by simp) advanced

theorem run_scrapeHistory
    (run : Run (fun state event next => MetricsState.step bound sources state event = some next)
      (.initial world) events state) : ScrapeHistory bound sources world events state := by
  apply run.historyInvariant (ScrapeHistory bound sources world)
  · exact
      { present := rfl
        idle := fun _ => rfl
        running := by intro scrape impossible; cases impossible
        answers := by intro answer impossible; cases impossible
        callers := rfl }
  · intro events state event next held taken
    exact held.step taken

end Runs

/-! ### The gateway -/

variable {Data Result Digest : Type}

/-- Every call of `scrape` is answered once, in order, or waits for the collection that
is running.  A text shows the limiter and the circuits as they were when its collection
began; its job depths are one count of the table that the database made meanwhile and
their collector is up, or they are not numbers and it is down. -/
theorem gateway_scrapes {router : ProviderRouter} {options : JobStoreOptions}
    {world : GatewayWorld Data Result Digest}
    {events : List (MetricsEvent (GatewayWorld Data Result Digest))}
    {state : MetricsState (GatewayWorld Data Result Digest)}
    (run : Run (fun state event next => gatewayStep router options state event = some next)
      (.initial world) events state) :
    state.answers.map Prod.fst ++ state.scraping.elim [] Scrape.callers =
        events.filterMap caller? ∧
      ∀ caller text, (caller, some text) ∈ state.answers →
        ∃ (collection : Collection (GatewayWorld Data Result Digest)) (opened : _),
          opened = worldAfter world collection.before ∧
          (∃ after, events = collection.events ++ .finish :: after) ∧
          collection.Valid ∧ collection.Called caller ∧
          text.concurrencyActive = .finite opened.limiter.snapshot.active ∧
          text.concurrencyQueued = .finite opened.limiter.snapshot.queued ∧
          (∀ label name, text.circuitState label name =
            (shownState (providerHealth router opened.circuits opened.now) label).map
              (fun state => oneHot state name)) ∧
          text.collectorUp .concurrency = some (.finite 1) ∧
          text.collectorUp .circuits = some (.finite 1) ∧
          ((∃ first read rest, collection.during = first ++ .execute read :: rest ∧
              text.collectorUp .jobs = some (.finite 1) ∧
              ∀ status, text.jobsDepth status = some (.finite (Gauges.depthOf (queueDepth options
                (worldAfter world
                  (collection.before ++ .scrape collection.opener :: first)).table) status))) ∨
            (text.collectorUp .jobs = some (.finite 0) ∧
              ∀ status, text.jobsDepth status = some .notANumber)) := by
  have held := run_scrapeHistory run
  refine ⟨held.callers, ?_⟩
  intro caller text member
  obtain ⟨collection, answered⟩ := held.answers _ member
  have coherent := answered.coherent text rfl
  obtain ⟨active, queued, limiterUp⟩ := coherent.shown.concurrency rfl
  obtain ⟨circuits, circuitsUp⟩ := coherent.shown.circuits rfl
  refine ⟨collection, _, rfl, answered.finished, answered.valid, answered.called, active, queued,
    circuits, limiterUp, circuitsUp, ?_⟩
  obtain ⟨observed, shown, counted⟩ := coherent.jobs rfl
  cases observed with
  | none => exact Or.inr ⟨shown.2, shown.1⟩
  | some depth =>
      obtain ⟨first, read, rest, split, same⟩ := counted depth rfl
      subst same
      exact Or.inl ⟨first, read, rest, split, shown.2, shown.1⟩

def sampleWorld (state : CircuitState) : GatewayWorld Unit Unit Unit :=
  { limiter := .initial
    circuits := fun _ => { CircuitBreaker.initial with state := state }
    now := 0
    table := KeyedTable.empty }

/-- The second call comes after the timer, and the answer of the database after that. -/
def sampleScrape : List (MetricsEvent (GatewayWorld Unit Unit Unit)) :=
  [.scrape 0, .change (sampleWorld .opened), .execute 0, .timeout, .scrape 1, .resume, .arrive 0,
    .encode, .encodeFamily .collectorUp, .encodeFamily .jobsDepth, .encodeFamily .circuitState,
    .encodeFamily .concurrencyQueued, .encodeFamily .concurrencyActive, .encoded, .finish]

theorem gateway_scrapes_timeout :
    ∃ state : MetricsState (GatewayWorld Unit Unit Unit),
      sampleScrape.foldlM (gatewayStep sampleRouter sampleOptions) (.initial (sampleWorld .closed)) =
          some state ∧
        state.answers.map Prod.fst ++ state.scraping.elim [] Scrape.callers = [0, 1] ∧
        ∃ text, (1, some text) ∈ state.answers ∧
          text.collectorUp .concurrency = some (.finite 1) ∧
          text.collectorUp .circuits = some (.finite 1) := by
  obtain ⟨state, computed, text, answered⟩ : ∃ state,
      sampleScrape.foldlM (gatewayStep sampleRouter sampleOptions) (.initial (sampleWorld .closed)) =
          some state ∧ ∃ text, (1, some text) ∈ state.answers :=
    ⟨_, rfl, _, List.mem_cons_of_mem _ List.mem_cons_self⟩
  obtain ⟨callers, texts⟩ := gateway_scrapes (Run.of_foldlM computed)
  obtain ⟨collection, opened, _, _, _, _, _, _, _, limiterUp, circuitsUp, _⟩ :=
    texts 1 text answered
  exact ⟨state, computed, callers, text, answered, limiterUp, circuitsUp⟩

end ModelMux.Observability
