/-
Scrapes of the metrics.

`scrape` runs the collectors, which copy what they read of the process into gauges,
and then encodes the gauges.  Calls that come while a collection is running share it.
The collectors of the limiter and of the circuits read at once; that of the jobs
races a query against a timer, and the answer of a query may come long after its
timer.  The encoder may read each metric at another time.  Still every text shows
what was read in one collection: the limiter and the circuits as they were when it
began, and the jobs as the database has counted them meanwhile, or as unavailable.
-/

import Mathlib.Logic.Function.Basic
import ModelMux.Concurrency.InMemoryConcurrencyLimiter
import ModelMux.Foundation.LabelledRun
import ModelMux.Providers.Router
import ModelMux.Queue.PostgresJobStore

namespace ModelMux.Observability

open Concurrency Providers Queue

/-! ### What is read -/

structure ProviderHealth extends CircuitSnapshot where
  name : String

def providerHealth (router : ProviderRouter) (circuits : Circuits) (now : ℚ) :
    List ProviderHealth :=
  let health (role : TargetRole) (target : ProviderTarget) : ProviderHealth :=
    { (circuits role).snapshot target.circuit now with name := target.name }
  match router.fallback with
  | none => [health .primary router.primary]
  | some fallback => [health .primary router.primary, health .fallback fallback.toProviderTarget]

structure QueueDepth where
  queued : ℕ
  retrying : ℕ
  active : ℕ
deriving DecidableEq

/-- The query of `queueDepth`.  A status without rows has no group and stays 0. -/
def queueDepth {Data Result Digest : Type} (options : JobStoreOptions)
    (table : JobTable Data Result Digest) : QueueDepth :=
  let count (status : JobState) : ℕ :=
    table.rows.countP (fun row => row.queueName = options.name && row.status = status)
  { queued := count .queued, retrying := count .retrying, active := count .active }

/-- What the collectors read of a process; `none` where the read throws. -/
structure Sources (World : Type) where
  concurrency : World → Option ConcurrencySnapshot
  providers : World → Option (List ProviderHealth)
  queueDepth : World → QueueDepth

/-! ### Gauges -/

inductive Collector where
  | concurrency
  | circuits
  | jobs
deriving DecidableEq

inductive DepthStatus where
  | queued
  | retrying
  | active
deriving DecidableEq

def providerLabel (name : String) : String :=
  if name = "ollama" || name = "openai" then name else "other"

/-- The gauges that collectors set.  One with labels has no value for labels that have
not been set. -/
structure Gauges where
  concurrencyActive : JsNumber
  concurrencyQueued : JsNumber
  circuitState : String → CircuitState → Option JsNumber
  jobsDepth : DepthStatus → Option JsNumber
  collectorUp : Collector → Option JsNumber

namespace Gauges

def initial : Gauges :=
  { concurrencyActive := .finite 0
    concurrencyQueued := .finite 0
    circuitState := fun _ _ => none
    jobsDepth := fun _ => none
    collectorUp := fun _ => none }

def setUp (gauges : Gauges) (collector : Collector) (up : Bool) : Gauges :=
  { gauges with
    collectorUp :=
      Function.update gauges.collectorUp collector (some (.finite (if up then 1 else 0))) }

def collectConcurrency (gauges : Gauges) : Option ConcurrencySnapshot → Gauges
  | some value =>
      { gauges with
        concurrencyActive := .finite value.active
        concurrencyQueued := .finite value.queued }.setUp .concurrency true
  | none =>
      { gauges with
        concurrencyActive := .notANumber
        concurrencyQueued := .notANumber }.setUp .concurrency false

def setCircuit (gauges : Gauges) (provider : ProviderHealth) : Gauges :=
  { gauges with
    circuitState := Function.update gauges.circuitState (providerLabel provider.name)
      (fun name => some (.finite (if provider.state = name then 1 else 0))) }

def collectProviders (gauges : Gauges) : Option (List ProviderHealth) → Gauges
  | some providers =>
      (providers.foldl setCircuit { gauges with circuitState := fun _ _ => none }).setUp
        .circuits true
  | none => { gauges with circuitState := fun _ _ => none }.setUp .circuits false

def depthOf (depth : QueueDepth) : DepthStatus → ℕ
  | .queued => depth.queued
  | .retrying => depth.retrying
  | .active => depth.active

/-- The end of the collector of `bindQueueDepth`; `none` if the race was rejected. -/
def collectDepth (gauges : Gauges) : Option QueueDepth → Gauges
  | some depth =>
      { gauges with
        jobsDepth := fun status => some (.finite (depthOf depth status)) }.setUp .jobs true
  | none => { gauges with jobsDepth := fun _ => some .notANumber }.setUp .jobs false

end Gauges

/-! ### Scrapes -/

inductive Family where
  | concurrencyActive
  | concurrencyQueued
  | circuitState
  | jobsDepth
  | collectorUp
deriving DecidableEq

def families : List Family :=
  [.concurrencyActive, .concurrencyQueued, .circuitState, .jobsDepth, .collectorUp]

def Gauges.copy (text gauges : Gauges) : Family → Gauges
  | .concurrencyActive => { text with concurrencyActive := gauges.concurrencyActive }
  | .concurrencyQueued => { text with concurrencyQueued := gauges.concurrencyQueued }
  | .circuitState => { text with circuitState := gauges.circuitState }
  | .jobsDepth => { text with jobsDepth := gauges.jobsDepth }
  | .collectorUp => { text with collectorUp := gauges.collectorUp }

/-- A query of the depth: the database has it, has answered it, or its promise has settled. -/
inductive ReadPhase where
  | sent
  | executed (depth : QueueDepth)
  | settled

/-- Where the promise in `scraping` stops.  `left` are the metrics that the encoder has
still to read; a result of `none` is an error of the encoder. -/
inductive ScrapePhase where
  | racing (read : ℕ)
  | raced (outcome : Option QueueDepth)
  | collected
  | encoding (text : Gauges) (left : List Family)
  | settled (result : Option Gauges)

structure Scrape where
  phase : ScrapePhase
  callers : List ℕ

/-- `answers` are the results with which the promises of the callers have settled. -/
structure MetricsState (World : Type) where
  world : World
  gauges : Gauges
  reads : List ReadPhase
  scraping : Option Scrape
  answers : List (ℕ × Option Gauges)

inductive MetricsEvent (World : Type) where
  | change (world : World)
  | scrape (caller : ℕ)
  | execute (read : ℕ)
  | arrive (read : ℕ)
  | reject (read : ℕ)
  | timeout
  | resume
  | encode
  | encodeFamily (family : Family)
  | encodeFails
  | encoded
  | finish

variable {World : Type}

namespace MetricsState

def initial (world : World) : MetricsState World :=
  { world := world, gauges := .initial, reads := [], scraping := none, answers := [] }

/-- The collectors up to the first await; each of them writes metrics of its own. -/
def collect (bound : Collector → Bool) (sources : Sources World) (state : MetricsState World) :
    Gauges :=
  let first :=
    if bound .concurrency then
      state.gauges.collectConcurrency (sources.concurrency state.world)
    else state.gauges
  if bound .circuits then first.collectProviders (sources.providers state.world) else first

def scrape (bound : Collector → Bool) (sources : Sources World) (state : MetricsState World)
    (caller : ℕ) : MetricsState World :=
  match state.scraping with
  | some scrape =>
      { state with scraping := some { scrape with callers := scrape.callers ++ [caller] } }
  | none =>
      let phase := if bound .jobs then .racing state.reads.length else .collected
      { state with
        gauges := state.collect bound sources
        reads := if bound .jobs then state.reads ++ [.sent] else state.reads
        scraping := some ⟨phase, [caller]⟩ }

/-- The promise of a query settles.  The race takes it if it is its own and comes first. -/
def settleRead (state : MetricsState World) (read : ℕ) (outcome : Option QueueDepth) :
    MetricsState World :=
  let scraping := state.scraping.map (fun scrape =>
    match scrape.phase with
    | .racing own => if own = read then { scrape with phase := .raced outcome } else scrape
    | _ => scrape)
  { state with reads := state.reads.set read .settled, scraping := scraping }

def stop (state : MetricsState World) (scrape : Scrape) (phase : ScrapePhase) :
    MetricsState World :=
  { state with scraping := some { scrape with phase := phase } }

def advance (state : MetricsState World) (scrape : Scrape) :
    MetricsEvent World → Option (MetricsState World)
  | .timeout =>
      match scrape.phase with
      | .racing _ => some (state.stop scrape (.raced none))
      | _ => none
  | .resume =>
      match scrape.phase with
      | .raced outcome =>
          some ({ state with gauges := state.gauges.collectDepth outcome }.stop scrape .collected)
      | _ => none
  | .encode =>
      match scrape.phase with
      | .collected => some (state.stop scrape (.encoding .initial families))
      | _ => none
  | .encodeFamily family =>
      match scrape.phase with
      | .encoding text left =>
          if family ∈ left then
            some (state.stop scrape
              (.encoding (text.copy state.gauges family) (left.erase family)))
          else none
      | _ => none
  | .encodeFails =>
      match scrape.phase with
      | .encoding _ _ => some (state.stop scrape (.settled none))
      | _ => none
  | .encoded =>
      match scrape.phase with
      | .encoding text [] => some (state.stop scrape (.settled (some text)))
      | _ => none
  | .finish =>
      match scrape.phase with
      | .settled result =>
          some
            { state with
              scraping := none
              answers := state.answers ++ scrape.callers.map (fun caller => (caller, result)) }
      | _ => none
  | _ => none

def step (bound : Collector → Bool) (sources : Sources World) (state : MetricsState World) :
    MetricsEvent World → Option (MetricsState World)
  | .change world => some { state with world := world }
  | .scrape caller => some (state.scrape bound sources caller)
  | .execute read =>
      match state.reads[read]? with
      | some .sent =>
          some { state with
            reads := state.reads.set read (.executed (sources.queueDepth state.world)) }
      | _ => none
  | .arrive read =>
      match state.reads[read]? with
      | some (.executed depth) => some (state.settleRead read (some depth))
      | _ => none
  | .reject read =>
      match state.reads[read]? with
      | some .sent => some (state.settleRead read none)
      | some (.executed _) => some (state.settleRead read none)
      | _ => none
  | event => state.scraping.bind (fun scrape => state.advance scrape event)

end MetricsState

/-! ### The gateway -/

structure GatewayWorld (Data Result Digest : Type) where
  limiter : LimiterSystem
  circuits : Circuits
  now : ℚ
  table : JobTable Data Result Digest

variable {Data Result Digest : Type}

def gatewaySources (router : ProviderRouter) (options : JobStoreOptions) :
    Sources (GatewayWorld Data Result Digest) :=
  { concurrency := fun world => some world.limiter.snapshot
    providers := fun world => some (providerHealth router world.circuits world.now)
    queueDepth := fun world => queueDepth options world.table }

def gatewayStep (router : ProviderRouter) (options : JobStoreOptions)
    (state : MetricsState (GatewayWorld Data Result Digest)) :
    MetricsEvent (GatewayWorld Data Result Digest) →
      Option (MetricsState (GatewayWorld Data Result Digest)) :=
  state.step (fun _ => true) (gatewaySources router options)

end ModelMux.Observability
