/-
A streamed answer comes from one provider.

The texts that reach the consumer of a pass are compared with the texts that
the providers have emitted, as the history of the router records them.  A
provider that calls its consumer only until its own promise settles emits
during its own call, and once a text has been handed over no other call
begins.
-/

import Mathlib.Data.List.TakeWhile
import ModelMux.Providers.RouterCircuits

namespace ModelMux.Providers

variable {Response Failure : Type}

/-! ### Emitted and delivered texts -/

namespace RouterEvent

/-- The text that a provider of the pass emits. -/
def emission (id : ℕ) (event : RouterEvent Response Failure) : Option (TargetRole × JsString) :=
  match event.input with
  | .consume role content => if event.pass = id then some (role, content) else none
  | _ => none

def cancels (id : ℕ) (event : RouterEvent Response Failure) : Bool :=
  match event.input with
  | .abort => event.pass = id
  | .start _ _ aborted => aborted && event.pass = id
  | _ => false

end RouterEvent

/-- What the providers of a pass have emitted before it was cancelled, oldest
first. -/
def emissions (id : ℕ) (events : List (RouterEvent Response Failure)) :
    List (TargetRole × JsString) :=
  (events.takeWhile (fun event => !event.cancels id)).filterMap (RouterEvent.emission id)

/-- The texts among them that one provider has emitted. -/
def emittedBy (role : TargetRole) (emitted : List (TargetRole × JsString)) : List JsString :=
  (emitted.filter (fun emission => emission.1 = role)).map Prod.snd

def PassEvent.handedText : PassEvent Response Failure → Option (TargetRole × JsString)
  | .handed role content => some (role, content)
  | _ => none

def handedTexts (log : List (PassEvent Response Failure)) : List (TargetRole × JsString) :=
  log.filterMap PassEvent.handedText

/-- A provider makes no call of its consumer after its promise has settled. -/
def EmitsDuringCall (system : RouterSystem Response Failure)
    (event : RouterEvent Response Failure) : Prop :=
  ∀ role content, event.input = .consume role content →
    ∀ pass, system.passes[event.pass]? = some pass →
      ∃ target generation, pass.phase = .operating role target generation

theorem emissions_snoc (id : ℕ) (events : List (RouterEvent Response Failure))
    (event : RouterEvent Response Failure) :
    emissions id (events ++ [event]) =
      if events.any (RouterEvent.cancels id) || event.cancels id then emissions id events
      else emissions id events ++ (event.emission id).toList := by
  unfold emissions
  cases cancelled : events.any (RouterEvent.cancels id) with
  | true =>
      obtain ⟨cancel, member, cancels⟩ := List.any_eq_true.mp cancelled
      rw [List.takeWhile_append, if_neg]
      · simp
      · intro whole
        have kept := (List.takeWhile_sublist _).eq_of_length whole
        rw [← kept] at member
        have spared := List.mem_takeWhile_imp member
        simp [cancels] at spared
  | false =>
      have kept : events.takeWhile (fun event => !event.cancels id) = events := by
        apply List.takeWhile_eq_self_iff.mpr
        intro other member
        have spared := List.any_eq_false.mp cancelled other member
        simpa using spared
      rw [List.takeWhile_append, if_pos (by rw [kept]), kept]
      cases cancels : event.cancels id with
      | true => simp [cancels]
      | false =>
          cases emitted : event.emission id <;> simp [cancels, emitted]

theorem emissions_other {id : ℕ} {event : RouterEvent Response Failure} (other : event.pass ≠ id)
    (events : List (RouterEvent Response Failure)) :
    emissions id (events ++ [event]) = emissions id events ∧
      (events ++ [event]).any (RouterEvent.cancels id) = events.any (RouterEvent.cancels id) := by
  obtain ⟨now, pass, input⟩ := event
  have silent : (⟨now, pass, input⟩ : RouterEvent Response Failure).emission id = none := by
    cases input <;> simp_all [RouterEvent.emission]
  have harmless : (⟨now, pass, input⟩ : RouterEvent Response Failure).cancels id = false := by
    cases input <;> simp_all [RouterEvent.cancels]
  rw [emissions_snoc, silent]
  simp [harmless]

/-! ### What a step hands over -/

variable {router : ProviderRouter} {pass next : Pass Response Failure} {now : ℚ}
  {circuits circuits' : Circuits}

theorem handedTexts_operate (pass : Pass Response Failure) (role : TargetRole)
    (target : ProviderTarget) (data : ChatRequest) (generation : ℕ) :
    handedTexts (pass.operate role target data generation).log = handedTexts pass.log := by
  simp only [Pass.operate]
  split_ifs <;> simp [handedTexts, Pass.record, Pass.stop, PassEvent.handedText]

theorem handedTexts_call (pass : Pass Response Failure) (role : TargetRole)
    (target : ProviderTarget) (data : ChatRequest) (circuits : Circuits) (now : ℚ) :
    handedTexts (pass.call role target data circuits now).1.log = handedTexts pass.log := by
  unfold Pass.call
  cases (circuits role).enter target.circuit now with
  | error error => simp [handedTexts, Pass.record, Pass.stop, PassEvent.handedText]
  | ok breaker =>
      dsimp only
      rw [handedTexts_operate]
      simp [handedTexts, Pass.record, PassEvent.handedText]

theorem handedTexts_leave (pass : Pass Response Failure) (role : TargetRole)
    (target : ProviderTarget) (outcome : Except (Thrown Failure) Response) :
    handedTexts (pass.leave role target outcome).log = handedTexts pass.log := by
  simp only [Pass.leave, Pass.recordMetrics]
  split_ifs <;> simp [handedTexts, Pass.record, Pass.stop, PassEvent.handedText]

theorem handedTexts_route (pass : Pass Response Failure)
    (outcome : Except (Thrown Failure) Response) (circuits : Circuits) (now : ℚ) :
    handedTexts (pass.route router outcome circuits now).1.log = handedTexts pass.log := by
  cases outcome with
  | ok response => rfl
  | error error =>
      simp only [Pass.route]
      split_ifs
      · rfl
      · cases pass.fallbackFor router error with
        | none => rfl
        | some choice =>
            dsimp only
            rw [handedTexts_call]
            simp [handedTexts, Pass.record, PassEvent.handedText]

/-- A step hands over the text that the provider emits, unless it is empty or the
signal is aborted. -/
theorem handedTexts_step {input : PassInput Response Failure}
    (taken : PassStep router now pass circuits input next circuits') (id : ℕ) :
    handedTexts next.log = handedTexts pass.log ++
      (if pass.aborted then []
        else (RouterEvent.emission id ⟨now, id, input⟩).toList.filter
          (fun emission => emission.2 ≠ [])) := by
  cases taken with
  | abort => simp [handedTexts, Pass.abort, Pass.record, PassEvent.handedText, RouterEvent.emission]
  | @consume role content allowed =>
      cases found : pass.aborted with
      | true =>
          simp [Pass.consume, throwIfCancelled, found, handedTexts, Pass.record,
            PassEvent.handedText]
      | false =>
          by_cases empty : content = [] <;>
            simp [Pass.consume, throwIfCancelled, found, empty, handedTexts, Pass.record,
              PassEvent.handedText, RouterEvent.emission]
  | deliver writing =>
      simp [handedTexts, Pass.deliver, Pass.record, PassEvent.handedText, RouterEvent.emission]
  | answer stopped =>
      simp [handedTexts, Pass.answer, Pass.record, Pass.stop, PassEvent.handedText,
        RouterEvent.emission]
  | execute stopped => simp [Pass.stop, RouterEvent.emission]
  | call stopped => simp [handedTexts_leave, RouterEvent.emission]
  | route stopped => simp [handedTexts_route, RouterEvent.emission]

theorem aborted_call (pass : Pass Response Failure) (role : TargetRole) (target : ProviderTarget)
    (data : ChatRequest) (circuits : Circuits) (now : ℚ) :
    (pass.call role target data circuits now).1.aborted = pass.aborted := by
  unfold Pass.call
  cases (circuits role).enter target.circuit now with
  | error error => rfl
  | ok breaker =>
      simp only [Pass.operate]
      split_ifs <;> rfl

theorem aborted_step {input : PassInput Response Failure}
    (taken : PassStep router now pass circuits input next circuits') (id : ℕ) :
    next.aborted = (pass.aborted || RouterEvent.cancels id ⟨now, id, input⟩) := by
  cases taken with
  | abort => simp [Pass.abort, Pass.record, RouterEvent.cancels]
  | consume allowed =>
      unfold Pass.consume
      cases (throwIfCancelled pass.aborted : Except (Thrown Failure) Unit) with
      | error error => simp [Pass.record, RouterEvent.cancels]
      | ok done =>
          dsimp only
          split_ifs <;> simp [Pass.record, RouterEvent.cancels]
  | deliver writing => simp [Pass.deliver, Pass.record, RouterEvent.cancels]
  | answer stopped => simp [Pass.answer, Pass.record, Pass.stop, RouterEvent.cancels]
  | execute stopped => simp [Pass.stop, RouterEvent.cancels]
  | call stopped =>
      simp only [Pass.leave, Pass.recordMetrics]
      split_ifs <;> simp [Pass.record, Pass.stop, RouterEvent.cancels]
  | @route outcome stopped =>
      cases outcome with
      | ok response => simp [Pass.route, Pass.stop, RouterEvent.cancels]
      | error error =>
          simp only [Pass.route]
          split_ifs
          · simp [Pass.stop, RouterEvent.cancels]
          · cases pass.fallbackFor router error with
            | none => simp [Pass.stop, RouterEvent.cancels]
            | some choice => simp [aborted_call, Pass.record, RouterEvent.cancels]

/-! ### One provider -/

theorem mem_handedTexts {role : TargetRole} {content : JsString}
    {log : List (PassEvent Response Failure)} :
    (role, content) ∈ handedTexts log ↔ .handed role content ∈ log := by
  unfold handedTexts
  rw [List.mem_filterMap]
  constructor
  · rintro ⟨event, member, found⟩
    cases event <;> simp_all [PassEvent.handedText]
  · intro member
    exact ⟨_, member, rfl⟩

/-- The delivered texts against the history, and who has emitted them. -/
structure StreamInvariant (id : ℕ) (events : List (RouterEvent Response Failure))
    (pass : Pass Response Failure) : Prop where
  flagged : pass.aborted = events.any (RouterEvent.cancels id)
  delivered : handedTexts pass.log =
    (emissions id events).filter (fun emission => emission.2 ≠ [])
  single : ∀ emission ∈ handedTexts pass.log,
    emission.1 = .primary ↔ Untouched .fallback pass.log

theorem untouched_consume (pass : Pass Response Failure) (role : TargetRole)
    (content : JsString) :
    Untouched .fallback (pass.consume role content).log ↔ Untouched .fallback pass.log := by
  unfold Pass.consume
  cases (throwIfCancelled pass.aborted : Except (Thrown Failure) Unit) with
  | error error => simp [Pass.record, untouched_snoc, PassEvent.begins]
  | ok done =>
      dsimp only
      split_ifs <;> simp [Pass.record, untouched_snoc, PassEvent.begins]

theorem untouched_step {input : PassInput Response Failure} (invariant : PassInvariant router pass)
    (taken : PassStep router now pass circuits input next circuits')
    (handed : handedTexts pass.log ≠ []) :
    Untouched .fallback next.log ↔ Untouched .fallback pass.log := by
  have quiet : ∀ event : PassEvent Response Failure, event.begins .fallback = false →
      (Untouched .fallback (pass.log ++ [event]) ↔ Untouched .fallback pass.log) := by
    intro event begun
    simp [untouched_snoc, begun]
  cases taken with
  | abort => exact quiet _ rfl
  | consume allowed => exact untouched_consume pass _ _
  | deliver writing => exact quiet _ rfl
  | answer stopped => exact quiet _ rfl
  | execute stopped => rfl
  | call stopped =>
      simp only [Pass.leave, Pass.recordMetrics]
      split_ifs <;> simp [Pass.record, Pass.stop, Untouched, or_imp, forall_and, PassEvent.begins]
  | @route outcome stopped =>
      cases outcome with
      | ok response => rfl
      | error error =>
          simp only [Pass.route]
          split_ifs
          · rfl
          · cases chosen : pass.fallbackFor router error with
            | none => rfl
            | some choice =>
                -- The pass can fall back, so nothing has been handed over.
                obtain ⟨can, _⟩ := fallbackFor_eq_some chosen
                obtain ⟨⟨role, content⟩, member⟩ := List.exists_mem_of_ne_nil _ handed
                exact absurd (mem_handedTexts.mp member) (invariant.silent can role content)

theorem PassInvariant.operating_untouched {role : TargetRole} {target : ProviderTarget}
    {generation : ℕ} (invariant : PassInvariant router pass)
    (stopped : pass.phase = .operating role target generation) :
    role = .primary ↔ Untouched .fallback pass.log := by
  have held := invariant.stopped
  rw [stopped] at held
  obtain ⟨call, _⟩ := held
  constructor
  · exact call.order
  · intro untouched
    cases role with
    | primary => rfl
    | fallback =>
        have last := call.last
        unfold lastTried at last
        obtain ⟨event, member, tried⟩ := List.mem_filterMap.mp (List.mem_of_getLast? last)
        have quiet := untouched event member
        cases event <;> simp_all [PassEvent.triedRole, PassEvent.begins]

theorem StreamInvariant.step {id : ℕ} {input : PassInput Response Failure}
    {events : List (RouterEvent Response Failure)} (held : StreamInvariant id events pass)
    (invariant : PassInvariant router pass)
    (during : ∀ role content, input = .consume role content →
      ∃ target generation, pass.phase = .operating role target generation)
    (taken : PassStep router now pass circuits input next circuits') :
    StreamInvariant id (events ++ [⟨now, id, input⟩]) next where
  flagged := by
    rw [aborted_step taken id, held.flagged]
    simp
  delivered := by
    rw [handedTexts_step taken id, held.delivered, emissions_snoc, ← held.flagged]
    cases found : pass.aborted with
    | true => simp
    | false =>
        cases input <;> simp [RouterEvent.cancels, RouterEvent.emission]
  single := by
    intro emission member
    rw [handedTexts_step taken id, List.mem_append] at member
    rcases member with old | new
    · rw [untouched_step invariant taken (List.ne_nil_of_mem old)]
      exact held.single emission old
    · cases input with
      | consume role content =>
          obtain ⟨target, generation, stopped⟩ := during role content rfl
          have own : emission.1 = role := by
            split_ifs at new with found
            · cases new
            · simp [RouterEvent.emission] at new
              rw [new.1]
          rw [own, invariant.operating_untouched stopped]
          cases taken with
          | consume allowed => exact (untouched_consume pass role content).symm
      | _ => simp [RouterEvent.emission] at new

theorem StreamInvariant.other {id : ℕ} {events : List (RouterEvent Response Failure)}
    {event : RouterEvent Response Failure} (held : StreamInvariant id events pass)
    (other : event.pass ≠ id) : StreamInvariant id (events ++ [event]) pass := by
  obtain ⟨emitted, cancelled⟩ := emissions_other other events
  exact ⟨by rw [cancelled, held.flagged], by rw [emitted, held.delivered], held.single⟩

theorem streamInvariant_start (router : ProviderRouter) (mode : PassMode) (request : ChatRequest)
    (aborted : Bool) (circuits : Circuits) (now : ℚ) {id : ℕ}
    {events : List (RouterEvent Response Failure)} (fresh : ∀ event ∈ events, event.pass ≠ id) :
    StreamInvariant id (events ++ [⟨now, id, .start mode request aborted⟩])
      (Pass.start router mode request aborted circuits now :
        Pass Response Failure × Circuits).1 := by
  have uncancelled : events.any (RouterEvent.cancels id) = false := by
    rw [List.any_eq_false]
    intro event member
    have different := fresh event member
    obtain ⟨now', pass', input⟩ := event
    cases input <;> simp_all [RouterEvent.cancels]
  have silent : emissions id events = [] := by
    unfold emissions
    rw [List.filterMap_eq_nil_iff]
    intro event member
    have different := fresh event (List.takeWhile_subset _ member)
    obtain ⟨now', pass', input⟩ := event
    cases input <;> simp_all [RouterEvent.emission]
  have nothing : handedTexts (Pass.start router mode request aborted circuits now :
      Pass Response Failure × Circuits).1.log = [] := by
    unfold Pass.start
    cases aborted with
    | true => simp [Pass.initial, handedTexts, PassEvent.handedText]
    | false =>
        simp only [Bool.false_eq_true, if_false]
        rw [handedTexts_call]
        simp [Pass.initial, handedTexts]
  constructor
  · cases aborted with
    | true => simp [Pass.start, Pass.initial, RouterEvent.cancels]
    | false => simp [Pass.start, aborted_call, Pass.initial, RouterEvent.cancels, uncancelled]
  · rw [nothing, emissions_snoc, silent]
    simp [RouterEvent.emission]
  · rw [nothing]
    simp

/-! ### Whole runs -/

/-- A step of a router whose providers emit only during their calls. -/
def StreamingStep (router : ProviderRouter) (system : RouterSystem Response Failure)
    (event : RouterEvent Response Failure) (next : RouterSystem Response Failure) : Prop :=
  RouterStep router system event next ∧ EmitsDuringCall system event

/-- The invariants of all passes, and which passes the history speaks about. -/
structure StreamHistory (router : ProviderRouter) (events : List (RouterEvent Response Failure))
    (system : RouterSystem Response Failure) : Prop where
  started : ∀ event ∈ events, event.pass < system.passes.length
  passes : ∀ pass ∈ system.passes, PassInvariant router pass
  streams : ∀ id pass, system.passes[id]? = some pass → StreamInvariant id events pass

theorem StreamHistory.step {events : List (RouterEvent Response Failure)}
    {system next : RouterSystem Response Failure} {event : RouterEvent Response Failure}
    (held : StreamHistory router events system)
    (taken : StreamingStep router system event next) :
    StreamHistory router (events ++ [event]) next := by
  obtain ⟨moved, during⟩ := taken
  have kept := routerStep_passInvariant held.passes moved
  cases moved with
  | @start now mode request aborted pass circuits later started =>
      refine ⟨?_, kept, ?_⟩
      · intro event member
        rw [List.length_append, List.length_singleton]
        rcases List.mem_append.mp member with old | new
        · exact Nat.lt_succ_of_lt (held.started event old)
        · rw [List.mem_singleton.mp new]
          exact Nat.lt_succ_self _
      · intro id pass' present
        rcases lt_or_ge id system.passes.length with inside | outside
        · rw [List.getElem?_append_left inside] at present
          exact (held.streams id pass' present).other (Nat.ne_of_gt inside)
        · have last := (List.getElem?_eq_some_iff.mp present).1
          have here : id = system.passes.length := by
            rw [List.length_append, List.length_singleton] at last
            omega
          subst here
          have fresh : ∀ event ∈ events, event.pass ≠ system.passes.length :=
            fun event member => Nat.ne_of_lt (held.started event member)
          have begun := streamInvariant_start router mode request aborted system.circuits now fresh
          rw [started] at begun
          simp only [List.getElem?_concat_length, Option.some.injEq] at present
          rw [← present]
          exact begun
  | @step now id pass next input circuits later present taken =>
      refine ⟨?_, kept, ?_⟩
      · intro event member
        rw [List.length_set]
        rcases List.mem_append.mp member with old | new
        · exact held.started event old
        · rw [List.mem_singleton.mp new]
          exact (List.getElem?_eq_some_iff.mp present).1
      · intro index pass' found
        rw [getElem?_set_present present] at found
        split_ifs at found with here
        · cases found
          subst here
          exact (held.streams index pass present).step (held.passes _ (List.mem_of_getElem? present))
            (fun role content emits => during role content emits pass present) taken
        · exact (held.streams index pass' found).other (Ne.symm here)

theorem filter_emittedBy {role : TargetRole} {emitted : List (TargetRole × JsString)}
    (own : ∀ emission ∈ emitted.filter (fun emission => emission.2 ≠ []), emission.1 = role) :
    (emittedBy role emitted).filter (fun content => content ≠ []) =
      (emitted.filter (fun emission => emission.2 ≠ [])).map Prod.snd := by
  unfold emittedBy
  rw [List.filter_map, List.filter_filter]
  congr 1
  apply List.filter_congr
  intro emission member
  by_cases empty : emission.2 = []
  · simp [empty]
  · have same := own emission (List.mem_filter.mpr ⟨member, by simpa using empty⟩)
    simp [empty, same]

theorem StreamInvariant.one_provider {id : ℕ} {events : List (RouterEvent Response Failure)}
    (held : StreamInvariant id events pass) :
    ∃ role, ∀ emission ∈ handedTexts pass.log, emission.1 = role := by
  by_cases untouched : Untouched .fallback pass.log
  · exact ⟨.primary, fun emission member => (held.single emission member).mpr untouched⟩
  · refine ⟨.fallback, fun emission member => ?_⟩
    have foreign : emission.1 ≠ .primary :=
      fun primary => untouched ((held.single emission member).mp primary)
    cases owner : emission.1 with
    | primary => exact absurd owner foreign
    | fallback => rfl

/-- In every pass of every run whose providers emit only during their calls, the
texts handed to `onDelta` are the nonempty texts that one provider has emitted
before the pass was cancelled; a pass whose primary has handed over a text never
tries its fallback. -/
theorem streamed_from_one_provider (router : ProviderRouter) {clock : ℚ} {circuits : Circuits}
    {system : RouterSystem Response Failure} {events : List (RouterEvent Response Failure)}
    (run : Run (StreamingStep router) (.initial clock circuits) events system) {id : ℕ}
    {pass : Pass Response Failure} (present : system.passes[id]? = some pass) :
    (∃ role, (∀ emission ∈ handedTexts pass.log, emission.1 = role) ∧
      (handedTexts pass.log).map Prod.snd =
        (emittedBy role (emissions id events)).filter (fun content => content ≠ [])) ∧
    ((∃ content, .handed .primary content ∈ pass.log) →
      ∀ data, .tried .fallback data ∉ pass.log ∧ .invoked .fallback data ∉ pass.log) := by
  have history := run.historyInvariant (StreamHistory router)
    ⟨by simp, by simp [RouterSystem.initial], by simp [RouterSystem.initial]⟩
    (fun _ _ _ _ held taken => held.step taken)
  have held := history.streams id pass present
  constructor
  · obtain ⟨role, own⟩ := held.one_provider
    refine ⟨role, own, ?_⟩
    rw [held.delivered] at own ⊢
    exact (filter_emittedBy own).symm
  · rintro ⟨content, handed⟩ data
    have untouched := (held.single _ (mem_handedTexts.mpr handed)).mp rfl
    refine ⟨?_, untouched.not_invoked data⟩
    intro tried
    have begun := untouched _ tried
    simp [PassEvent.begins] at begun

/-- The primary streams: an empty text, then one that the consumer refuses. -/
def sampleStreaming : Pass Unit Unit :=
  { mode := .stream
    request := ⟨[0x61], []⟩
    aborted := false
    emitted := true
    attempted := true
    writes := []
    phase := .operating .primary sampleRouter.primary 0
    log := [.tried .primary ⟨[0x61], []⟩, .metric (.providerStart "ollama" .stream),
      .invoked .primary ⟨[0x61], []⟩, .consumed .primary (.ok ()), .handed .primary [0x68],
      .consumed .primary (.error .streamConsumerError)] }

def sampleStreamEvents : List (RouterEvent Unit Unit) :=
  [⟨0, 0, .start .stream ⟨[0x61], []⟩ false⟩, ⟨0, 0, .consume .primary []⟩,
    ⟨0, 0, .consume .primary [0x68]⟩, ⟨0, 0, .deliver .primary false⟩]

theorem sample_run_streaming :
    Run (StreamingStep sampleRouter) (.initial 0 (fun _ => .initial)) sampleStreamEvents
      ⟨0, sampleCircuits, [sampleStreaming]⟩ := by
  have operating : ∀ pass : Pass Unit Unit,
      pass.phase = .operating .primary sampleRouter.primary 0 → ∀ content : JsString,
        EmitsDuringCall ⟨0, sampleCircuits, [pass]⟩
          (⟨0, 0, .consume .primary content⟩ : RouterEvent Unit Unit) := by
    intro pass stopped content role content' emits pass' present
    cases emits
    cases present
    exact ⟨_, _, stopped⟩
  have started : RouterStep sampleRouter (.initial 0 (fun _ => .initial))
      ⟨0, 0, .start .stream ⟨[0x61], []⟩ false⟩ ⟨0, sampleCircuits,
        [{ sampleStreaming with emitted := false, log := sampleStreaming.log.take 3 }]⟩ :=
    .start le_rfl rfl
  have emptied : RouterStep sampleRouter
      ⟨0, sampleCircuits,
        [{ sampleStreaming with emitted := false, log := sampleStreaming.log.take 3 }]⟩
      ⟨0, 0, .consume .primary []⟩ ⟨0, sampleCircuits,
        [{ sampleStreaming with emitted := false, log := sampleStreaming.log.take 4 }]⟩ :=
    .step le_rfl rfl (.consume ⟨rfl, ⟨[0x61], []⟩, by simp [sampleStreaming]⟩)
  have handed : RouterStep sampleRouter
      ⟨0, sampleCircuits,
        [{ sampleStreaming with emitted := false, log := sampleStreaming.log.take 4 }]⟩
      ⟨0, 0, .consume .primary [0x68]⟩ ⟨0, sampleCircuits,
        [{ sampleStreaming with writes := [.primary], log := sampleStreaming.log.take 5 }]⟩ :=
    .step le_rfl rfl (.consume ⟨rfl, ⟨[0x61], []⟩, by simp [sampleStreaming]⟩)
  have refused : RouterStep sampleRouter
      ⟨0, sampleCircuits,
        [{ sampleStreaming with writes := [.primary], log := sampleStreaming.log.take 5 }]⟩
      ⟨0, 0, .deliver .primary false⟩ ⟨0, sampleCircuits, [sampleStreaming]⟩ :=
    .step le_rfl rfl (.deliver (by simp))
  refine (((Run.single ⟨started, ?_⟩).snoc ⟨emptied, operating _ rfl _⟩).snoc
    ⟨handed, operating _ rfl _⟩).snoc ⟨refused, ?_⟩
  · intro role content emits
    cases emits
  · intro role content emits
    cases emits

theorem streamed_from_one_provider_refused :
    handedTexts sampleStreaming.log = [(.primary, [0x68])] ∧
      ∀ data, .tried .fallback data ∉ sampleStreaming.log ∧
        .invoked .fallback data ∉ sampleStreaming.log :=
  ⟨rfl, (@streamed_from_one_provider Unit Unit sampleRouter 0 _ _ _ sample_run_streaming 0
    sampleStreaming rfl).2 ⟨[0x68], by simp [sampleStreaming]⟩⟩

end ModelMux.Providers
