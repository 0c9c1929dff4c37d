/-
The guard of the protected routes.

The hook runs before every protected handler: it authenticates the request,
charges the bucket of its key and lets the request pass if there was a token.
It awaits the database and then Redis, and any number of requests and changes
of the table come in between.  A command that fails may still have been
evaluated.
-/

import ModelMux.Auth.ApiKeys
import ModelMux.RateLimit.RetryAfter

namespace ModelMux.Auth

open RateLimit

/-! ### The hook, between two awaits -/

structure RateLimitHeaders where
  limit : JsNumber
  remaining : ℤ
deriving DecidableEq

inductive GuardPhase where
  | querying (rawApiKey : JsString)
  | charging (apiKey : ApiKeyPrincipal)
  | admitted (apiKey : ApiKeyPrincipal) (nowMs : ℤ) (headers : RateLimitHeaders)
  | rejected (error : GuardError) (headers : Option RateLimitHeaders)
deriving DecidableEq

def arrival (authorizationHeader : Option JsString) : GuardPhase :=
  match parseBearerToken authorizationHeader with
  | none => .rejected .authenticationError none
  | some rawApiKey => .querying rawApiKey

def afterLookup (found : Except GuardError (Option ApiKeyPrincipal)) : GuardPhase :=
  match authenticated found with
  | .error error => .rejected error none
  | .ok apiKey => .charging apiKey

def afterConsume (apiKey : ApiKeyPrincipal) (nowMs : ℤ) :
    Except RateLimiterUnavailableError RateLimitDecision → GuardPhase
  | .error error => .rejected (.rateLimiterUnavailableError (some (.limiter error.cause))) none
  | .ok decision =>
      let headers := ⟨apiKey.rateLimit.capacity, decision.remaining⟩
      if decision.allowed then .admitted apiKey nowMs headers
      else .rejected (.rateLimitExceededError decision.retryAfterSeconds) (some headers)

def redisFailure : GuardPhase :=
  .rejected (.rateLimiterUnavailableError (some .redisFailed)) none

/-! ### Any number of requests -/

/-- `rejections` counts the metric `rate_limit_rejection`. -/
structure GuardSystem where
  keys : ApiKeyTable
  buckets : BucketStore
  requests : List GuardPhase
  rejections : ℕ

def GuardSystem.initial (keys : ApiKeyTable) : GuardSystem :=
  { keys := keys, buckets := ExpiringStore.empty, requests := [], rejections := 0 }

def GuardSystem.move (system : GuardSystem) (index : ℕ) (phase : GuardPhase) : GuardSystem :=
  { system with requests := system.requests.set index phase }

inductive GuardEvent where
  | administer
  | arrive (authorizationHeader : Option JsString)
  | lookup (index : ℕ) (answered : Bool)
  | charge (index : ℕ) (call : ConsumeCall)
  | chargeUnreported (index : ℕ) (call : ConsumeCall)
  | chargeFailed (index : ℕ)

structure Charges (apiKey : ApiKeyPrincipal) (before : BucketStore) (call : ConsumeCall)
    (after : BucketStore) : Prop where
  subject : call.subject = apiKey.id
  policy : call.policy = apiKey.rateLimit
  taken : ConsumeStep before call after

inductive GuardStep (sha256 : List UInt8 → JsString) : GuardSystem → GuardEvent → GuardSystem → Prop
  | administer (system : GuardSystem) (keys : ApiKeyTable) :
      GuardStep sha256 system .administer { system with keys := keys }
  | arrive (system : GuardSystem) (header : Option JsString) :
      GuardStep sha256 system (.arrive header)
        { system with requests := system.requests ++ [arrival header] }
  | lookup (system : GuardSystem) (index : ℕ) (rawApiKey : JsString) (answered : Bool)
      (waiting : system.requests[index]? = some (.querying rawApiKey)) :
      GuardStep sha256 system (.lookup index answered)
        (system.move index
          (afterLookup (findEnabledByHash (if answered then some system.keys else none)
            (hashApiKey sha256 rawApiKey))))
  | charge (system : GuardSystem) (index : ℕ) (apiKey : ApiKeyPrincipal) (call : ConsumeCall)
      (buckets : BucketStore) (waiting : system.requests[index]? = some (.charging apiKey))
      (charges : Charges apiKey system.buckets call buckets) :
      GuardStep sha256 system (.charge index call)
        { system.move index (afterConsume apiKey call.time.nowMs call.result) with
          buckets := buckets
          rejections := system.rejections +
            if call.result.toOption.any (fun decision => !decision.allowed) then 1 else 0 }
  | chargeUnreported (system : GuardSystem) (index : ℕ) (apiKey : ApiKeyPrincipal)
      (call : ConsumeCall) (buckets : BucketStore)
      (waiting : system.requests[index]? = some (.charging apiKey))
      (charges : Charges apiKey system.buckets call buckets) :
      GuardStep sha256 system (.chargeUnreported index call)
        { system.move index redisFailure with buckets := buckets }
  | chargeFailed (system : GuardSystem) (index : ℕ) (apiKey : ApiKeyPrincipal)
      (waiting : system.requests[index]? = some (.charging apiKey)) :
      GuardStep sha256 system (.chargeFailed index) (system.move index redisFailure)

/-! ### Why a request stands where it stands -/

def GuardEvent.header? : GuardEvent → Option (Option JsString)
  | .arrive header => some header
  | _ => none

def arrivals (events : List GuardEvent) : List (Option JsString) :=
  events.filterMap GuardEvent.header?

section Explanations

variable (sha256 : List UInt8 → JsString) (first : GuardSystem) (events : List GuardEvent)
  (last : GuardSystem) (index : ℕ)

def Presented (events : List GuardEvent) (index : ℕ) (rawApiKey : JsString) : Prop :=
  ∃ header, (arrivals events)[index]? = some header ∧ parseBearerToken header = some rawApiKey

/-- The request has presented the text of a key that was enabled, with these limits,
when the database was asked for it. -/
structure Known (apiKey : ApiKeyPrincipal) : Prop where
  accepted : validatePolicy apiKey.rateLimit = .ok ()
  looked : ∃ rawApiKey before after row, Presented events index rawApiKey ∧
    Run.Taken (GuardStep sha256) first events last before (.lookup index true) after ∧
    row ∈ before.keys.rows ∧ row.keyHash = hashApiKey sha256 rawApiKey ∧ row.enabled = true ∧
    row.principal = apiKey

/-- The bucket of the key has answered the request. -/
def Answered (apiKey : ApiKeyPrincipal) (call : ConsumeCall) (decision : RateLimitDecision) : Prop :=
  call.result = .ok decision ∧
    ∃ before after, Run.Taken (GuardStep sha256) first events last before (.charge index call) after ∧
      Charges apiKey before.buckets call after.buckets

structure HeadersSound (apiKey : ApiKeyPrincipal) (decision : RateLimitDecision)
    (headers : RateLimitHeaders) : Prop where
  limit : headers.limit = apiKey.rateLimit.capacity
  remaining : headers.remaining = decision.remaining
  bounded : ∃ capacity : ℕ, headers.limit = .finite capacity ∧ 0 ≤ headers.remaining ∧
    headers.remaining + (if decision.allowed then 1 else 0) ≤ capacity

inductive Rejection : GuardError → Option RateLimitHeaders → Prop
  | unreadable {header : Option JsString} (presented : (arrivals events)[index]? = some header)
      (unmatched : parseBearerToken header = none) : Rejection .authenticationError none
  | unknown {rawApiKey : JsString} {before after : GuardSystem}
      (presented : Presented events index rawApiKey)
      (looked : Run.Taken (GuardStep sha256) first events last before (.lookup index true) after)
      (absent : ∀ row ∈ before.keys.rows, row.keyHash = hashApiKey sha256 rawApiKey →
        row.enabled = false) : Rejection .authenticationError none
  | unavailable {rawApiKey : JsString} {before after : GuardSystem}
      (presented : Presented events index rawApiKey)
      (failed : Run.Taken (GuardStep sha256) first events last before (.lookup index false) after) :
      Rejection (.apiKeyStoreUnavailableError (some .queryFailed)) none
  | misconfigured {rawApiKey : JsString} {before after : GuardSystem} {row : ApiKeyRow}
      (presented : Presented events index rawApiKey)
      (looked : Run.Taken (GuardStep sha256) first events last before (.lookup index true) after)
      (listed : row ∈ before.keys.rows) (hash : row.keyHash = hashApiKey sha256 rawApiKey)
      (enabled : row.enabled = true) (refused : validatePolicy row.principal.rateLimit ≠ .ok ()) :
      Rejection (.apiKeyStoreUnavailableError (some (.invalidMetadata row.id))) none
  | uncharged {apiKey : ApiKeyPrincipal} {before after : GuardSystem}
      (known : Known sha256 first events last index apiKey)
      (failed : Run.Taken (GuardStep sha256) first events last before (.chargeFailed index) after) :
      Rejection (.rateLimiterUnavailableError (some .redisFailed)) none
  | unreported {apiKey : ApiKeyPrincipal} {before after : GuardSystem} {call : ConsumeCall}
      (known : Known sha256 first events last index apiKey)
      (failed : Run.Taken (GuardStep sha256) first events last before
        (.chargeUnreported index call) after) :
      Rejection (.rateLimiterUnavailableError (some .redisFailed)) none
  | exceeded {apiKey : ApiKeyPrincipal} {call : ConsumeCall} {decision : RateLimitDecision}
      {headers : RateLimitHeaders} (known : Known sha256 first events last index apiKey)
      (answered : Answered sha256 first events last index apiKey call decision)
      (refused : decision.allowed = false) (positive : 1 ≤ decision.retryAfterSeconds)
      (sound : HeadersSound apiKey decision headers) :
      Rejection (.rateLimitExceededError decision.retryAfterSeconds) (some headers)

def Explained : GuardPhase → Prop
  | .querying rawApiKey => Presented events index rawApiKey
  | .charging apiKey => Known sha256 first events last index apiKey
  | .admitted apiKey nowMs headers =>
      Known sha256 first events last index apiKey ∧
        ∃ call decision, Answered sha256 first events last index apiKey call decision ∧
          decision.allowed = true ∧ call.time.nowMs = nowMs ∧ HeadersSound apiKey decision headers
  | .rejected error headers => Rejection sha256 first events last index error headers

end Explanations

variable {sha256 : List UInt8 → JsString} {first last next : GuardSystem}
  {events : List GuardEvent} {event : GuardEvent} {index : ℕ} {apiKey : ApiKeyPrincipal}

theorem arrivals_snoc (events : List GuardEvent) (event : GuardEvent) :
    arrivals (events ++ [event]) = arrivals events ++ event.header?.toList := by
  unfold arrivals
  cases found : event.header? <;> simp [found]

theorem arrivals_snoc_some {header : Option JsString} (event : GuardEvent)
    (presented : (arrivals events)[index]? = some header) :
    (arrivals (events ++ [event]))[index]? = some header := by
  rw [arrivals_snoc, List.getElem?_append_left]
  · exact presented
  · exact (List.getElem?_eq_some_iff.mp presented).1

theorem Presented.snoc {rawApiKey : JsString} (presented : Presented events index rawApiKey)
    (event : GuardEvent) : Presented (events ++ [event]) index rawApiKey := by
  obtain ⟨header, listed, parsed⟩ := presented
  exact ⟨header, arrivals_snoc_some event listed, parsed⟩

theorem Known.snoc (known : Known sha256 first events last index apiKey)
    (more : GuardStep sha256 last event next) :
    Known sha256 first (events ++ [event]) next index apiKey := by
  obtain ⟨accepted, rawApiKey, before, after, row, presented, looked, stored⟩ := known
  exact ⟨accepted, rawApiKey, before, after, row, presented.snoc event, looked.snoc more, stored⟩

theorem Answered.snoc {call : ConsumeCall} {decision : RateLimitDecision}
    (answered : Answered sha256 first events last index apiKey call decision)
    (more : GuardStep sha256 last event next) :
    Answered sha256 first (events ++ [event]) next index apiKey call decision := by
  obtain ⟨result, before, after, charged, charges⟩ := answered
  exact ⟨result, before, after, charged.snoc more, charges⟩

theorem Explained.snoc {phase : GuardPhase}
    (explained : Explained sha256 first events last index phase)
    (more : GuardStep sha256 last event next) :
    Explained sha256 first (events ++ [event]) next index phase := by
  cases phase with
  | querying rawApiKey => exact Presented.snoc explained event
  | charging apiKey => exact Known.snoc explained more
  | admitted apiKey nowMs headers =>
      obtain ⟨known, call, decision, answered, rest⟩ := explained
      exact ⟨known.snoc more, call, decision, answered.snoc more, rest⟩
  | rejected error headers =>
      cases explained with
      | unreadable presented unmatched =>
          exact .unreadable (arrivals_snoc_some event presented) unmatched
      | unknown presented looked absent =>
          exact .unknown (presented.snoc event) (looked.snoc more) absent
      | unavailable presented failed =>
          exact .unavailable (presented.snoc event) (failed.snoc more)
      | misconfigured presented looked listed hash enabled refused =>
          exact .misconfigured (presented.snoc event) (looked.snoc more) listed hash enabled refused
      | uncharged known failed => exact .uncharged (known.snoc more) (failed.snoc more)
      | unreported known failed => exact .unreported (known.snoc more) (failed.snoc more)
      | exceeded known answered refused positive sound =>
          exact .exceeded (known.snoc more) (answered.snoc more) refused positive sound

/-! ### The buckets -/

def GuardEvent.call? : GuardEvent → Option ConsumeCall
  | .charge _ call => some call
  | .chargeUnreported _ call => some call
  | _ => none

def consumeCalls (events : List GuardEvent) : List ConsumeCall :=
  events.filterMap GuardEvent.call?

theorem consumeCalls_append (left right : List GuardEvent) :
    consumeCalls (left ++ right) = consumeCalls left ++ consumeCalls right :=
  List.filterMap_append

theorem consumeRun_step (taken : GuardStep sha256 last event next) :
    Run ConsumeStep last.buckets (consumeCalls [event]) next.buckets := by
  cases taken with
  | administer => exact .refl _
  | arrive => exact .refl _
  | lookup => exact .refl _
  | charge _ _ _ _ _ charges => exact .single charges.taken
  | chargeUnreported _ _ _ _ _ charges => exact .single charges.taken
  | chargeFailed => exact .refl _

theorem consumeRun (run : Run (GuardStep sha256) first events last) :
    Run ConsumeStep first.buckets (consumeCalls events) last.buckets := by
  induction run with
  | refl => exact .refl _
  | snoc _ taken ih =>
      rw [consumeCalls_append]
      exact ih.append (consumeRun_step taken)

theorem foundAt_le_capacity (bucket : AcceptedPolicy) (store : BucketStore) (subject : JsString)
    (nowMs : ℤ) : bucket.foundAt store subject nowMs ≤ bucket.capacity :=
  min_le_left _ _

/-- The answer of a bucket that is neither in debt nor above its capacity. -/
theorem decision_sound (bucket : AcceptedPolicy) {tokens : ℚ} (held : 0 ≤ tokens)
    (capped : tokens ≤ bucket.capacity) :
    0 ≤ (bucket.decision tokens).remaining ∧
      (bucket.decision tokens).remaining +
        (if (bucket.decision tokens).allowed then 1 else 0) ≤ bucket.capacity ∧
      ((bucket.decision tokens).allowed = false → 1 ≤ (bucket.decision tokens).retryAfterSeconds) := by
  have below : ⌊tokens⌋ ≤ bucket.capacity := by
    have floored := (Int.floor_le tokens).trans capped
    exact_mod_cast floored
  unfold AcceptedPolicy.decision
  split
  · rename_i token
    have left : 0 ≤ ⌊tokens⌋ - 1 := by
      have least : 1 ≤ ⌊tokens⌋ := Int.le_floor.mpr (by exact_mod_cast token)
      omega
    simp only [Int.floor_sub_one, if_true]
    exact ⟨left, by omega, fun refused => absurd refused (by simp)⟩
  · simp only [Bool.false_eq_true, if_false, add_zero]
    exact ⟨Int.floor_nonneg.mpr held, below, fun _ => le_max_left _ _⟩

theorem charge_sound {buckets after : BucketStore} {calls : List ConsumeCall} {call : ConsumeCall}
    (accepted : validatePolicy apiKey.rateLimit = .ok ())
    (reached : Run ConsumeStep ExpiringStore.empty calls buckets)
    (charges : Charges apiKey buckets call after) :
    ∃ decision, call.result = .ok decision ∧
      (decision.allowed = false → 1 ≤ decision.retryAfterSeconds) ∧
      HeadersSound apiKey decision ⟨apiKey.rateLimit.capacity, decision.remaining⟩ := by
  obtain ⟨bucket, policy⟩ := AcceptedPolicy.validatePolicy_ok_iff.mp accepted
  obtain ⟨result, _, _⟩ := consume_found charges.subject (charges.policy.trans policy.symm)
    charges.taken
  have held : 0 ≤ bucket.foundAt buckets apiKey.id call.time.nowMs :=
    (unindebted_run reached).found_nonneg _
  obtain ⟨nonnegative, bounded, positive⟩ :=
    decision_sound bucket held (foundAt_le_capacity bucket buckets apiKey.id call.time.nowMs)
  refine ⟨_, result, positive, rfl, rfl, bucket.capacity, ?_, nonnegative, bounded⟩
  rw [← policy]
  rfl

/-! ### Every request is explained -/

variable {keys : ApiKeyTable}

theorem explained_arrival {header : Option JsString}
    (presented : (arrivals events)[index]? = some header) :
    Explained sha256 first events last index (arrival header) := by
  unfold arrival
  cases parsed : parseBearerToken header with
  | none => exact .unreadable presented parsed
  | some rawApiKey => exact ⟨header, presented, parsed⟩

theorem explained_lookup {rawApiKey : JsString} {answered : Bool} {before : GuardSystem}
    (presented : Presented events index rawApiKey)
    (looked : Run.Taken (GuardStep sha256) first events last before (.lookup index answered) next) :
    Explained sha256 first events last index
      (afterLookup (findEnabledByHash (if answered then some before.keys else none)
        (hashApiKey sha256 rawApiKey))) := by
  cases answered with
  | false => exact .unavailable presented looked
  | true =>
      simp only [if_true]
      cases found : findEnabledByHash (some before.keys) (hashApiKey sha256 rawApiKey) with
      | error error =>
          obtain ⟨row, selected, refused, rfl⟩ := findEnabledByHash_error found
          obtain ⟨member, hash, enabled⟩ := selectEnabled_eq_some_iff.mp selected
          exact .misconfigured presented looked member hash enabled refused
      | ok principal =>
          cases principal with
          | none =>
              refine .unknown presented looked ?_
              intro row member hash
              rw [Bool.eq_false_iff]
              intro enabled
              have listed := selectEnabled_eq_some_iff.mpr ⟨member, hash, enabled⟩
              simp only [findEnabledByHash, listed] at found
              split at found <;> cases found
          | some apiKey =>
              obtain ⟨row, selected, accepted, same⟩ := findEnabledByHash_eq_some_iff.mp found
              obtain ⟨member, hash, enabled⟩ := selectEnabled_eq_some_iff.mp selected
              exact ⟨accepted, rawApiKey, before, next, row, presented, looked, member, hash,
                enabled, same⟩

theorem explained_charge {before after : GuardSystem} {call : ConsumeCall}
    (known : Known sha256 first events last index apiKey)
    (reached : Run ConsumeStep ExpiringStore.empty (consumeCalls events) before.buckets)
    (charged : Run.Taken (GuardStep sha256) first (events ++ [event]) next before
      (.charge index call) after) (more : GuardStep sha256 last event next)
    (charges : Charges apiKey before.buckets call after.buckets) :
    Explained sha256 first (events ++ [event]) next index
      (afterConsume apiKey call.time.nowMs call.result) := by
  obtain ⟨decision, result, positive, sound⟩ := charge_sound known.accepted reached charges
  have answered : Answered sha256 first (events ++ [event]) next index apiKey call decision :=
    ⟨result, before, after, charged, charges⟩
  rw [result, afterConsume]
  split
  · rename_i allowed
    exact ⟨known.snoc more, call, decision, answered, allowed, rfl, sound⟩
  · rename_i refused
    have denied : decision.allowed = false := by simpa using refused
    exact .exceeded (known.snoc more) answered denied (positive denied) sound

def GuardPhase.isLimited : GuardPhase → Bool
  | .rejected (.rateLimitExceededError _) _ => true
  | _ => false

structure GuardHistory (sha256 : List UInt8 → JsString) (first : GuardSystem)
    (events : List GuardEvent) (system : GuardSystem) : Prop where
  listed : (arrivals events).length = system.requests.length
  explained : ∀ index phase, system.requests[index]? = some phase →
    Explained sha256 first events system index phase
  counted : system.rejections = system.requests.countP GuardPhase.isLimited

theorem explained_move {phase : GuardPhase}
    (explained : ∀ index phase, last.requests[index]? = some phase →
      Explained sha256 first events last index phase)
    (more : GuardStep sha256 last event next)
    (moved : next.requests = last.requests.set index phase)
    (now : Explained sha256 first (events ++ [event]) next index phase) :
    ∀ other phase', next.requests[other]? = some phase' →
      Explained sha256 first (events ++ [event]) next other phase' := by
  intro other phase' present
  rw [moved, List.getElem?_set] at present
  split at present
  · rename_i same
    split at present
    · cases present
      exact same ▸ now
    · cases present
  · exact (explained other phase' present).snoc more

theorem countP_move {requests : List GuardPhase} {before after : GuardPhase}
    (present : requests[index]? = some before) (count : GuardPhase → Bool)
    (uncounted : count before = false) :
    (requests.set index after).countP count =
      requests.countP count + if count after then 1 else 0 := by
  obtain ⟨bound, here⟩ := List.getElem?_eq_some_iff.mp present
  rw [List.countP_set bound, here, uncounted]
  simp

theorem isLimited_lookup (database : Option ApiKeyTable) (keyHash : JsString) :
    (afterLookup (findEnabledByHash database keyHash)).isLimited = false := by
  unfold findEnabledByHash
  split
  · rfl
  · split
    · rfl
    · dsimp only
      split <;> rfl

theorem explained_arrive {header : Option JsString}
    (history : GuardHistory sha256 first events last)
    (more : GuardStep sha256 last (.arrive header) next)
    (arrived : next.requests = last.requests ++ [arrival header]) :
    ∀ index phase, next.requests[index]? = some phase →
      Explained sha256 first (events ++ [.arrive header]) next index phase := by
  intro index phase present
  rw [arrived, List.getElem?_append] at present
  split at present
  · exact (history.explained index phase present).snoc more
  · rename_i bound
    have here : index = last.requests.length := by
      have within := (List.getElem?_eq_some_iff.mp present).1
      simp only [List.length_singleton] at within
      omega
    subst here
    simp only [Nat.sub_self, List.getElem?_cons_zero, Option.some.injEq] at present
    subst present
    apply explained_arrival
    rw [arrivals_snoc, List.getElem?_append_right history.listed.le, history.listed]
    simp [GuardEvent.header?]

theorem GuardHistory.step (history : GuardHistory sha256 (.initial keys) events last)
    (run : Run (GuardStep sha256) (.initial keys) events last)
    (more : GuardStep sha256 last event next) :
    GuardHistory sha256 (.initial keys) (events ++ [event]) next := by
  have step := more
  have taken := Run.taken_last run more
  have explained := history.explained
  refine ⟨?_, ?_, ?_⟩
  · rw [arrivals_snoc, List.length_append, history.listed]
    cases more <;> simp [GuardEvent.header?, GuardSystem.move]
  · cases more with
    | administer keys' =>
        exact fun index phase present => (explained index phase present).snoc step
    | arrive header => exact explained_arrive history step rfl
    | lookup index rawApiKey answered waiting =>
        have presented : Presented events index rawApiKey := explained _ _ waiting
        exact explained_move explained step rfl (explained_lookup (presented.snoc _) taken)
    | charge index apiKey call buckets waiting charges =>
        exact explained_move explained step rfl
          (explained_charge (explained _ _ waiting) (consumeRun run) taken step charges)
    | chargeUnreported index apiKey call buckets waiting charges =>
        have known : Known sha256 (.initial keys) events last index apiKey := explained _ _ waiting
        exact explained_move explained step rfl (.unreported (known.snoc step) taken)
    | chargeFailed index apiKey waiting =>
        have known : Known sha256 (.initial keys) events last index apiKey := explained _ _ waiting
        exact explained_move explained step rfl (.uncharged (known.snoc step) taken)
  · have counted := history.counted
    cases more with
    | administer keys' => exact counted
    | arrive header =>
        have quiet : (arrival header).isLimited = false := by
          unfold arrival
          split <;> rfl
        simp [List.countP_append, quiet, counted]
    | lookup index rawApiKey answered waiting =>
        rw [GuardSystem.move, countP_move waiting _ rfl, isLimited_lookup]
        exact counted
    | charge index apiKey call buckets waiting charges =>
        simp only [GuardSystem.move]
        rw [countP_move waiting _ rfl, ← counted]
        cases result : call.result with
        | error error => simp [afterConsume, GuardPhase.isLimited, Except.toOption]
        | ok decision =>
            cases allowed : decision.allowed <;>
              simp [afterConsume, GuardPhase.isLimited, Except.toOption, allowed]
    | chargeUnreported index apiKey call buckets waiting charges =>
        simp only [GuardSystem.move]
        rw [countP_move waiting _ rfl, ← counted]
        rfl
    | chargeFailed index apiKey waiting =>
        simp only [GuardSystem.move]
        rw [countP_move waiting _ rfl, ← counted]
        rfl

/-- Whatever requests and changes of the keys come in between: a request has reached
its handler only with the text of a key that was enabled and with a token of its
bucket, and every other answer has the reason that it names. -/
theorem requests_explained (run : Run (GuardStep sha256) (.initial keys) events last) :
    GuardHistory sha256 (.initial keys) events last := by
  induction run with
  | refl => exact ⟨rfl, fun index phase impossible => by simp [GuardSystem.initial] at impossible, rfl⟩
  | snoc before taken ih => exact ih.step before taken

def sampleRawApiKey : JsString :=
  JsString.ofString "mm_AAECAwQFBgcICQoLDA0ODxAREhMUFRYXGBkaGxwdHh8"

/-- SHA-256 in hexadecimal, on the sample key. -/
def sampleKeySha256 (bytes : List UInt8) : JsString :=
  if bytes = Utf8.encode sampleRawApiKey then
    JsString.ofString "03380877564b3c60db442819dea87a7f77465eb53234337f73273543f90c09e8"
  else []

def sampleKeyRow : ApiKeyRow :=
  { id := JsString.ofString "00000000-0000-4000-8000-000000000001"
    name := JsString.ofString "demo"
    keyPrefix := JsString.ofString "mm_AAECAwQFB"
    keyHash := hashApiKey sampleKeySha256 sampleRawApiKey
    rateLimitCapacity := 1
    rateLimitRefillPerSecond := .finite (1 / 2)
    enabled := true }

theorem sampleKeyRow_ids : ([sampleKeyRow].map ApiKeyRow.id).Nodup := List.nodup_singleton _

theorem sampleKeyRow_hashes : ([sampleKeyRow].map ApiKeyRow.keyHash).Nodup := List.nodup_singleton _

def sampleKeys : ApiKeyTable := ⟨[sampleKeyRow], sampleKeyRow_ids, sampleKeyRow_hashes⟩

def sampleHeader : Option JsString := some (JsString.ofString "bearer  " ++ sampleRawApiKey)

def sampleCharge (seconds : ℤ) (decision : RateLimitDecision) : ConsumeCall :=
  ⟨⟨seconds, 0⟩, sampleKeyRow.id, sampleKeyRow.principal.rateLimit, .ok decision⟩

def sampleGuardEvents : List GuardEvent :=
  [.arrive sampleHeader, .lookup 0 true, .charge 0 (sampleCharge 100 ⟨true, 0, 0⟩),
    .arrive sampleHeader, .lookup 1 true, .charge 1 (sampleCharge 101 ⟨false, 0, 1⟩)]

def sampleBuckets (seconds : ℤ) (buckets : BucketStore) : BucketStore :=
  (consume buckets ⟨seconds, 0⟩ sampleKeyRow.id sampleKeyRow.principal.rateLimit).2

def sampleGuarded : GuardSystem :=
  { keys := sampleKeys
    buckets := sampleBuckets 101 (sampleBuckets 100 ExpiringStore.empty)
    requests :=
      [.admitted sampleKeyRow.principal 100000 ⟨.finite 1, 0⟩,
        .rejected (.rateLimitExceededError 1) (some ⟨.finite 1, 0⟩)]
    rejections := 1 }

section Sample

variable (buckets : BucketStore) (requests : List GuardPhase) (rejections index : ℕ)

theorem sample_enters :
    Run (GuardStep sampleKeySha256) ⟨sampleKeys, buckets, requests, rejections⟩
      [.arrive sampleHeader, .lookup requests.length true]
      ⟨sampleKeys, buckets, requests ++ [GuardPhase.charging sampleKeyRow.principal], rejections⟩ := by
  have parsed : arrival sampleHeader = .querying sampleRawApiKey := by decide +kernel
  have found : afterLookup (findEnabledByHash (some sampleKeys)
      (hashApiKey sampleKeySha256 sampleRawApiKey)) = .charging sampleKeyRow.principal := by
    decide +kernel
  have arrived : GuardStep sampleKeySha256 ⟨sampleKeys, buckets, requests, rejections⟩
      (.arrive sampleHeader)
      ⟨sampleKeys, buckets, requests ++ [GuardPhase.querying sampleRawApiKey], rejections⟩ := by
    rw [← parsed]
    exact .arrive _ _
  have looked : GuardStep sampleKeySha256
      ⟨sampleKeys, buckets, requests ++ [GuardPhase.querying sampleRawApiKey], rejections⟩
      (.lookup requests.length true)
      ⟨sampleKeys, buckets, requests ++ [GuardPhase.charging sampleKeyRow.principal], rejections⟩ := by
    have moved : (requests ++ [GuardPhase.querying sampleRawApiKey]).set requests.length
        (.charging sampleKeyRow.principal) = requests ++ [GuardPhase.charging sampleKeyRow.principal] := by
      simp
    rw [← moved, ← found]
    exact .lookup _ _ sampleRawApiKey true (by simp)
  exact (Run.single arrived).snoc looked

theorem sample_charged {seconds : ℤ} {decision : RateLimitDecision}
    (waiting : requests[index]? = some (.charging sampleKeyRow.principal))
    (answer : (consume buckets ⟨seconds, 0⟩ sampleKeyRow.id sampleKeyRow.principal.rateLimit).1 =
      .ok decision) :
    GuardStep sampleKeySha256 ⟨sampleKeys, buckets, requests, rejections⟩
      (.charge index (sampleCharge seconds decision))
      ⟨sampleKeys, sampleBuckets seconds buckets,
        requests.set index (afterConsume sampleKeyRow.principal (sampleCharge seconds decision).time.nowMs
          (.ok decision)),
        rejections + if !decision.allowed then 1 else 0⟩ :=
  .charge _ index _ (sampleCharge seconds decision) _ waiting
    ⟨rfl, rfl, consumeStep_of_result (sampleCharge seconds decision) answer⟩

end Sample

theorem sampleGuarded_run :
    Run (GuardStep sampleKeySha256) (.initial sampleKeys) sampleGuardEvents sampleGuarded := by
  have first := (sample_enters ExpiringStore.empty [] 0).snoc
    (sample_charged _ _ 0 0 rfl
      (by decide +kernel : (consume ExpiringStore.empty ⟨100, 0⟩ sampleKeyRow.id
        sampleKeyRow.principal.rateLimit).1 = .ok ⟨true, 0, 0⟩))
  have second := (sample_enters (sampleBuckets 100 ExpiringStore.empty)
      [.admitted sampleKeyRow.principal 100000 ⟨.finite 1, 0⟩] 0).snoc
    (sample_charged _ _ 0 1 rfl
      (by decide +kernel : (consume (sampleBuckets 100 ExpiringStore.empty) ⟨101, 0⟩ sampleKeyRow.id
        sampleKeyRow.principal.rateLimit).1 = .ok ⟨false, 0, 1⟩))
  exact first.append second

theorem requests_explained_limited :
    sampleGuarded.rejections = 1 ∧
      GuardHistory sampleKeySha256 (.initial sampleKeys) sampleGuardEvents sampleGuarded :=
  ⟨rfl, requests_explained sampleGuarded_run⟩

end ModelMux.Auth
