/-
What the gateway builds from its configuration.

The constructors check their arguments again.  A configuration that has been
loaded passes all of these checks but two: the address of Ollama is resolved a
second time, against the path of its chat, and the key of the fallback has to be
one visible ASCII token, where the loading only trims it.
-/

import ModelMux.Cache.CacheNamespace
import ModelMux.Cache.RedisChatCache
import ModelMux.Concurrency.InMemoryConcurrencyLimiter
import ModelMux.Providers.Router
import ModelMux.Queue.JobRow

namespace ModelMux.Config

open Cache (RedisChatCacheOptions chatCacheNamespace)
open Concurrency (InMemoryConcurrencyLimiterOptions)
open Providers (CircuitBreakerOptions ProviderRouter ProviderTarget)
open Queue (JobStoreOptions)

/-! ### The providers -/

def checkTimeout (provider : String) (requestTimeoutMs : ℕ) : Except JsString Unit :=
  if requestTimeoutMs < 1 ∨ 2147483647 < requestTimeoutMs then
    .error (JsString.ofString (provider ++ " request timeout must be a positive integer"))
  else .ok ()

def normalizedBaseUrl (baseUrl : JsString) : JsString :=
  if baseUrl.getLast? = some 0x2F then baseUrl else baseUrl ++ [0x2F]

def isVisible (unit : UInt16) : Bool := 0x21 ≤ unit && unit ≤ 0x7E

def checkApiKey (apiKey : JsString) : Except JsString Unit :=
  if apiKey = [] ∨ apiKey.all isVisible = false then
    .error (JsString.ofString "OpenAI API key must be a non-empty token without whitespace")
  else .ok ()

def newCircuit (options : CircuitBreakerConfig) : Except JsString CircuitBreakerOptions :=
  (CircuitBreakerOptions.check (.finite options.failureThreshold)
    (.finite options.resetTimeoutMs)).mapError JsString.ofString

section Build

variable (digest : JsString → JsString) (resolveUrl : JsString → JsString → Option JsString)

structure OllamaProvider where
  chatUrl : JsString
  requestTimeoutMs : ℕ

structure OpenAIProvider where
  apiKey : JsString
  requestTimeoutMs : ℕ

structure CreatedRouter extends ProviderRouter where
  ollama : OllamaProvider
  openai : Option OpenAIProvider

def chatUrl (baseUrl : JsString) : Except JsString JsString :=
  match resolveUrl (JsString.ofString "api/chat") (normalizedBaseUrl baseUrl) with
  | none => .error (JsString.ofString "Invalid Ollama base URL: " ++ baseUrl)
  | some url => .ok url

def newOllamaProvider (baseUrl : JsString) (requestTimeoutMs : ℕ) :
    Except JsString OllamaProvider := do
  checkTimeout "Ollama" requestTimeoutMs
  let url ← chatUrl resolveUrl baseUrl
  return { chatUrl := url, requestTimeoutMs := requestTimeoutMs }

def newOpenAIProvider (apiKey : JsString) (requestTimeoutMs : ℕ) :
    Except JsString OpenAIProvider := do
  checkApiKey apiKey
  checkTimeout "OpenAI" requestTimeoutMs
  return { apiKey := apiKey, requestTimeoutMs := requestTimeoutMs }

def createFallback (circuitBreaker : CircuitBreakerConfig) (openai : OpenAIConfig) :
    Except JsString (Providers.FallbackTarget × OpenAIProvider) := do
  let provider ← newOpenAIProvider openai.apiKey openai.requestTimeoutMs
  let circuit ← newCircuit circuitBreaker
  let target : Providers.FallbackTarget :=
    { name := "openai", circuit := circuit, streams := true
      modelMap := fun model => openai.modelMap.lookup model }
  return (target, provider)

def createProvider (config : Config) : Except JsString CreatedRouter := do
  let ollama ← newOllamaProvider resolveUrl config.ollamaBaseUrl config.ollamaRequestTimeoutMs
  let circuit ← newCircuit config.circuitBreaker
  let primary : ProviderTarget := ⟨"ollama", circuit, true⟩
  match config.openai with
  | none => return { primary := primary, fallback := none, ollama := ollama, openai := none }
  | some openai =>
      let (fallback, provider) ← createFallback config.circuitBreaker openai
      return { primary := primary, fallback := some fallback
               ollama := ollama, openai := some provider }

/-! ### The gateway -/

def inferenceQueueName : JsString := JsString.ofString "modelmux-inference"

/-- The options of the job store, in the gateway as in the workers. -/
def jobStoreOptions (config : Config) : JobStoreOptions :=
  { name := inferenceQueueName
    maxAttempts := config.jobMaxAttempts
    backoffMs := config.jobBackoffMs
    leaseMs := providerExecutionTimeoutMs config + 30000 }

def createLimiter (config : Config) : Except JsString InMemoryConcurrencyLimiterOptions :=
  (Concurrency.validateOptions (.finite config.providerMaxConcurrency)
    (.finite config.providerMaxQueueSize) (.finite config.providerQueueTimeoutMs)).mapError
      JsString.ofString

def createCache (config : Config) : Except JsString (Option RedisChatCacheOptions) :=
  if 0 < config.chatCache.ttlSeconds then
    ((Cache.validateOptions (chatCacheNamespace digest config) (.finite config.chatCache.ttlSeconds)
      (.finite config.chatCache.maxEntryBytes) (.finite config.chatCache.timeoutMs)).mapError
        JsString.ofString).map some
  else .ok none

structure Gateway where
  chatCache : Option RedisChatCacheOptions
  jobStore : JobStoreOptions
  concurrencyLimiter : InMemoryConcurrencyLimiterOptions
  provider : CreatedRouter

def buildGateway (config : Config) : Except JsString Gateway := do
  let chatCache ← createCache digest config
  let concurrencyLimiter ← createLimiter config
  let provider ← createProvider resolveUrl config
  return { chatCache := chatCache, jobStore := jobStoreOptions config
           concurrencyLimiter := concurrencyLimiter, provider := provider }

end Build

/-! ### Checks that a loaded configuration passes -/

section Checks

variable {digest : JsString → JsString} {resolveUrl : JsString → JsString → Option JsString}
  {urlProtocol : JsString → Option JsString} {config : Config}

theorem checkTimeout_of_between {provider : String} {requestTimeoutMs : ℕ}
    (between : Between 1 2147483647 requestTimeoutMs) :
    checkTimeout provider requestTimeoutMs = .ok () := by
  unfold checkTimeout
  obtain ⟨least, greatest⟩ := between
  rw [if_neg]
  omega

theorem Valid.circuit (valid : Valid urlProtocol config) :
    ∃ circuit, newCircuit config.circuitBreaker = .ok circuit ∧
      circuit.failureThreshold = config.circuitBreaker.failureThreshold ∧
      circuit.resetTimeoutMs = config.circuitBreaker.resetTimeoutMs := by
  have threshold := valid.positive config.circuitBreaker.failureThreshold (by simp)
  have timeout := valid.positive config.circuitBreaker.resetTimeoutMs (by simp)
  unfold Between at threshold timeout
  have accepted := (CircuitBreakerOptions.check_ok_iff
    (.finite config.circuitBreaker.failureThreshold) (.finite config.circuitBreaker.resetTimeoutMs)
    ⟨_, _, threshold.1, timeout.1⟩).mpr ⟨⟨rfl, by simp only; omega⟩, rfl, by simp only; omega⟩
  exact ⟨⟨_, _, threshold.1, timeout.1⟩, by rw [newCircuit, accepted]; rfl, rfl, rfl⟩

theorem Valid.limiter (valid : Valid urlProtocol config) :
    ∃ options, createLimiter config = .ok options ∧
      options.maxConcurrent = config.providerMaxConcurrency ∧
      options.maxQueueSize = config.providerMaxQueueSize ∧
      options.waitTimeoutMs = config.providerQueueTimeoutMs := by
  have concurrent := valid.positive config.providerMaxConcurrency (by simp)
  have timeout := valid.positive config.providerQueueTimeoutMs (by simp)
  have accepted := (Concurrency.validateOptions_ok_iff (.finite config.providerMaxConcurrency)
    (.finite config.providerMaxQueueSize) (.finite config.providerQueueTimeoutMs)
    ⟨_, config.providerMaxQueueSize, _, concurrent.1, timeout.1⟩).mpr ⟨rfl, rfl, rfl⟩
  exact ⟨⟨_, config.providerMaxQueueSize, _, concurrent.1, timeout.1⟩,
    by rw [createLimiter, accepted]; rfl, rfl, rfl, rfl⟩

theorem positiveInteger_natCast {value : ℕ} (between : Between 1 2147483647 value) :
    Cache.positiveInteger (.finite value) = some ⟨value, between.1⟩ := by
  obtain ⟨least, greatest⟩ := between
  have safe : (JsNumber.finite (value : ℚ)).isSafeInteger = true := by
    have cast : ((value : ℤ) : ℚ) = (value : ℚ) := Int.cast_natCast value
    rw [← cast]
    exact Json.isSafeInteger_intCast (by omega) (by omega)
  have accepted : (JsNumber.finite (value : ℚ)).isSafeInteger = true ∧ 1 ≤ (value : ℚ).num ∧
      (value : ℚ).num ≤ 2147483647 := by
    rw [Rat.num_natCast]
    exact ⟨safe, by omega, by omega⟩
  rw [Cache.positiveInteger, dif_pos accepted]
  simp

theorem Valid.cache (valid : Valid urlProtocol config) (digests : ∀ text, digest text ≠ []) :
    ∃ cache, createCache digest config = .ok cache ∧
      (cache = none ↔ config.chatCache.ttlSeconds = 0) ∧
      ∀ options, cache = some options →
        options.namespaceId = chatCacheNamespace digest config ∧
        options.limits.ttlSeconds = config.chatCache.ttlSeconds ∧
        options.limits.maxEntryBytes = config.chatCache.maxEntryBytes ∧
        options.limits.timeoutMs = config.chatCache.timeoutMs := by
  have ttl := valid.nonNegative config.chatCache.ttlSeconds (by simp)
  have size := valid.positive config.chatCache.maxEntryBytes (by simp)
  have timeout := valid.positive config.chatCache.timeoutMs (by simp)
  have given : chatCacheNamespace digest config ≠ [] := digests _
  unfold createCache
  by_cases living : 0 < config.chatCache.ttlSeconds
  · have ttlBetween : Between 1 2147483647 config.chatCache.ttlSeconds := ⟨living, ttl.2⟩
    rw [if_pos living]
    simp only [Cache.validateOptions, positiveInteger_natCast ttlBetween,
      positiveInteger_natCast size, positiveInteger_natCast timeout, dif_pos given]
    refine ⟨_, rfl, ?_, ?_⟩
    · simp only [reduceCtorEq, false_iff]
      omega
    · rintro options ⟨rfl⟩
      exact ⟨rfl, rfl, rfl, rfl⟩
  · rw [if_neg living]
    refine ⟨none, rfl, ?_, ?_⟩
    · simp only [true_iff]
      omega
    · intro options impossible
      cases impossible

theorem checkApiKey_ok_iff {apiKey : JsString} (given : apiKey ≠ []) :
    checkApiKey apiKey = .ok () ↔ ∀ unit ∈ apiKey, isVisible unit = true := by
  unfold checkApiKey
  split
  · next rejected =>
      have hidden := rejected.resolve_left given
      simp only [reduceCtorEq, false_iff]
      rw [← List.all_eq_true, hidden]
      exact Bool.false_ne_true
  · next accepted =>
      simp only [not_or, Bool.not_eq_false] at accepted
      simp only [true_iff]
      exact List.all_eq_true.mp accepted.2

/-! ### The whole gateway -/

def SameCircuit (options : CircuitBreakerConfig) (circuit : CircuitBreakerOptions) : Prop :=
  circuit.failureThreshold = options.failureThreshold ∧
    circuit.resetTimeoutMs = options.resetTimeoutMs

/-- The fallback as it is configured.  Models that its map does not list are refused, and
the names that it gives are never empty. -/
structure WiredFallback (openai : OpenAIConfig) (circuitBreaker : CircuitBreakerConfig)
    (fallback : Providers.FallbackTarget) : Prop where
  name : fallback.name = "openai"
  streams : fallback.streams = true
  circuit : SameCircuit circuitBreaker fallback.circuit
  listed : ∀ entry ∈ openai.modelMap, fallback.modelMap entry.1 ≠ none
  mapped : ∀ model hosted, fallback.modelMap model = some hosted →
    (model, hosted) ∈ openai.modelMap ∧ isTrimmed hosted = true

def Matched {Left Right : Type} (related : Left → Right → Prop) : Option Left → Option Right → Prop
  | none, none => True
  | some left, some right => related left right
  | _, _ => False

/-- The providers of the router with the address, the timeouts and the key of the
configuration. -/
structure WiredProviders (resolveUrl : JsString → JsString → Option JsString) (config : Config)
    (router : CreatedRouter) : Prop where
  primary : router.primary.name = "ollama" ∧ router.primary.streams = true ∧
    SameCircuit config.circuitBreaker router.primary.circuit
  fallback : Matched (fun openai => WiredFallback openai config.circuitBreaker) config.openai
    router.fallback
  ollama : resolveUrl (JsString.ofString "api/chat") (normalizedBaseUrl config.ollamaBaseUrl) =
      some router.ollama.chatUrl ∧
    router.ollama.requestTimeoutMs = config.ollamaRequestTimeoutMs
  openai : Matched (fun openai provider => provider.apiKey = openai.apiKey ∧
    provider.requestTimeoutMs = openai.requestTimeoutMs) config.openai router.openai

structure Wired (digest : JsString → JsString)
    (resolveUrl : JsString → JsString → Option JsString) (config : Config) (gateway : Gateway) :
    Prop where
  uncached : gateway.chatCache = none ↔ config.chatCache.ttlSeconds = 0
  cached : ∀ options, gateway.chatCache = some options →
    options.namespaceId = chatCacheNamespace digest config ∧
      options.limits.ttlSeconds = config.chatCache.ttlSeconds ∧
      options.limits.maxEntryBytes = config.chatCache.maxEntryBytes ∧
      options.limits.timeoutMs = config.chatCache.timeoutMs
  limiter : gateway.concurrencyLimiter.maxConcurrent = config.providerMaxConcurrency ∧
    gateway.concurrencyLimiter.maxQueueSize = config.providerMaxQueueSize ∧
    gateway.concurrencyLimiter.waitTimeoutMs = config.providerQueueTimeoutMs
  providers : WiredProviders resolveUrl config gateway.provider
  jobStore : gateway.jobStore =
    { name := JsString.ofString "modelmux-inference"
      maxAttempts := config.jobMaxAttempts
      backoffMs := config.jobBackoffMs
      leaseMs := providerExecutionTimeoutMs config + 30000 }

theorem mapped_of_lookup {openai : OpenAIConfig} (valid : ValidOpenAI openai)
    {model hosted : JsString} (found : openai.modelMap.lookup model = some hosted) :
    (model, hosted) ∈ openai.modelMap ∧ isTrimmed hosted = true := by
  obtain ⟨before, after, split, _⟩ := List.lookup_eq_some_iff.mp found
  have member : (model, hosted) ∈ openai.modelMap := by
    rw [split]
    simp
  exact ⟨member, (valid.names _ member).2⟩

theorem newOllamaProvider_eq_ok (valid : Valid urlProtocol config) (provider : OllamaProvider) :
    newOllamaProvider resolveUrl config.ollamaBaseUrl config.ollamaRequestTimeoutMs =
        .ok provider ↔
      resolveUrl (JsString.ofString "api/chat") (normalizedBaseUrl config.ollamaBaseUrl) =
          some provider.chatUrl ∧
        provider.requestTimeoutMs = config.ollamaRequestTimeoutMs := by
  have timed : checkTimeout "Ollama" config.ollamaRequestTimeoutMs = .ok () :=
    checkTimeout_of_between (valid.positive _ (by simp))
  simp only [newOllamaProvider, chatUrl, bind_eq_ok, timed]
  cases resolved : resolveUrl (JsString.ofString "api/chat")
      (normalizedBaseUrl config.ollamaBaseUrl) with
  | none => simp
  | some url =>
      constructor
      · rintro ⟨_, _, _, sameUrl, made⟩
        cases sameUrl
        cases made
        exact ⟨rfl, rfl⟩
      · obtain ⟨chatUrl, requestTimeoutMs⟩ := provider
        rintro ⟨sameUrl, rfl⟩
        cases sameUrl
        exact ⟨(), trivial, chatUrl, rfl, rfl⟩

theorem newOpenAIProvider_eq_ok {openai : OpenAIConfig} (valid : ValidOpenAI openai)
    (provider : OpenAIProvider) :
    newOpenAIProvider openai.apiKey openai.requestTimeoutMs = .ok provider ↔
      (∀ unit ∈ openai.apiKey, isVisible unit = true) ∧ provider.apiKey = openai.apiKey ∧
        provider.requestTimeoutMs = openai.requestTimeoutMs := by
  have given : openai.apiKey ≠ [] := by
    intro empty
    have trimmed := valid.apiKey
    rw [empty] at trimmed
    cases trimmed
  have timed : checkTimeout "OpenAI" openai.requestTimeoutMs = .ok () :=
    checkTimeout_of_between valid.requestTimeoutMs
  rw [← checkApiKey_ok_iff given]
  simp only [newOpenAIProvider, bind_eq_ok, timed]
  constructor
  · rintro ⟨_, accepted, _, _, made⟩
    cases made
    exact ⟨accepted, rfl, rfl⟩
  · obtain ⟨apiKey, requestTimeoutMs⟩ := provider
    rintro ⟨accepted, rfl, rfl⟩
    exact ⟨(), accepted, (), trivial, rfl⟩

theorem createFallback_iff (valid : Valid urlProtocol config) {openai : OpenAIConfig}
    (configured : config.openai = some openai) :
    ((∃ fallback, createFallback config.circuitBreaker openai = .ok fallback) ↔
        ∀ unit ∈ openai.apiKey, isVisible unit = true) ∧
      ∀ fallback, createFallback config.circuitBreaker openai = .ok fallback →
        WiredFallback openai config.circuitBreaker fallback.1 ∧
          fallback.2.apiKey = openai.apiKey ∧
            fallback.2.requestTimeoutMs = openai.requestTimeoutMs := by
  have sound := valid.openai openai configured
  obtain ⟨circuit, built, threshold, timeout⟩ := valid.circuit
  simp only [createFallback, bind_eq_ok, newOpenAIProvider_eq_ok sound, built]
  constructor
  · constructor
    · rintro ⟨_, _, accepted, _⟩
      exact accepted.1
    · intro accepted
      exact ⟨_, ⟨openai.apiKey, openai.requestTimeoutMs⟩, ⟨accepted, rfl, rfl⟩, circuit, rfl, rfl⟩
  · rintro fallback ⟨provider, ⟨_, sameKey, sameTimeout⟩, _, sameCircuit, made⟩
    cases sameCircuit
    cases made
    refine ⟨?_, sameKey, sameTimeout⟩
    exact
      { name := rfl
        streams := rfl
        circuit := ⟨threshold, timeout⟩
        listed := by
          intro entry member missing
          have different := List.lookup_eq_none_iff.mp missing entry member
          simp at different
        mapped := fun _ _ found => mapped_of_lookup sound found }

variable (resolveUrl) in
theorem createProvider_iff (valid : Valid urlProtocol config) :
    ((∃ provider, createProvider resolveUrl config = .ok provider) ↔
        (∃ url, resolveUrl (JsString.ofString "api/chat")
          (normalizedBaseUrl config.ollamaBaseUrl) = some url) ∧
        ∀ openai, config.openai = some openai → ∀ unit ∈ openai.apiKey, isVisible unit = true) ∧
      ∀ provider, createProvider resolveUrl config = .ok provider →
        WiredProviders resolveUrl config provider := by
  obtain ⟨circuit, built, same⟩ := valid.circuit
  cases configured : config.openai with
  | none =>
      simp only [createProvider, bind_eq_ok, newOllamaProvider_eq_ok valid, built, configured]
      constructor
      · constructor
        · rintro ⟨_, ollama, ⟨resolved, _⟩, _⟩
          exact ⟨⟨ollama.chatUrl, resolved⟩, fun _ impossible => by cases impossible⟩
        · rintro ⟨⟨url, resolved⟩, _⟩
          exact ⟨_, ⟨url, config.ollamaRequestTimeoutMs⟩, ⟨resolved, rfl⟩, circuit, rfl, rfl⟩
      · rintro provider ⟨ollama, wired, _, sameCircuit, made⟩
        cases sameCircuit
        cases made
        exact
          { primary := ⟨rfl, rfl, same⟩
            fallback := by rw [configured]; trivial
            ollama := wired
            openai := by rw [configured]; trivial }
  | some openai =>
      obtain ⟨accepted, wired⟩ := createFallback_iff valid configured
      simp only [createProvider, bind_eq_ok, newOllamaProvider_eq_ok valid, built, configured]
      constructor
      · constructor
        · rintro ⟨_, ollama, ⟨resolved, _⟩, _, _, fallback, made, _⟩
          refine ⟨⟨ollama.chatUrl, resolved⟩, ?_⟩
          rintro _ ⟨rfl⟩
          exact accepted.mp ⟨fallback, made⟩
        · rintro ⟨⟨url, resolved⟩, visible⟩
          obtain ⟨fallback, made⟩ := accepted.mpr (visible openai rfl)
          exact ⟨_, ⟨url, config.ollamaRequestTimeoutMs⟩, ⟨resolved, rfl⟩, circuit, rfl, fallback,
            made, rfl⟩
      · rintro provider ⟨ollama, wiredOllama, _, sameCircuit, fallback, made, result⟩
        cases sameCircuit
        cases result
        obtain ⟨wiredFallback, wiredKey⟩ := wired fallback made
        exact
          { primary := ⟨rfl, rfl, same⟩
            fallback := by rw [configured]; exact wiredFallback
            ollama := wiredOllama
            openai := by rw [configured]; exact wiredKey }

/-- A configuration that has been loaded fails to build the gateway exactly if the address
of the chat does not resolve or the key of the fallback has a character that is not
visible ASCII.  Otherwise every part gets the configured values. -/
theorem gateway_built_iff {env : Environment} (loaded : loadConfig urlProtocol env = .ok config)
    (digests : ∀ text, digest text ≠ []) :
    ((∃ gateway, buildGateway digest resolveUrl config = .ok gateway) ↔
        (∃ url, resolveUrl (JsString.ofString "api/chat")
          (normalizedBaseUrl config.ollamaBaseUrl) = some url) ∧
        ∀ openai, config.openai = some openai → ∀ unit ∈ openai.apiKey, isVisible unit = true) ∧
      ∀ gateway, buildGateway digest resolveUrl config = .ok gateway →
        Wired digest resolveUrl config gateway := by
  have valid := (loadConfig_eq_ok_iff.mp loaded).valid
  obtain ⟨cache, cacheBuilt, uncached, cached⟩ := valid.cache digests
  obtain ⟨limiter, limiterBuilt, limits⟩ := valid.limiter
  obtain ⟨accepted, wired⟩ := createProvider_iff resolveUrl valid
  simp only [buildGateway, bind_eq_ok, cacheBuilt, limiterBuilt]
  constructor
  · rw [← accepted]
    constructor
    · rintro ⟨_, _, _, _, _, provider, made, _⟩
      exact ⟨provider, made⟩
    · rintro ⟨provider, made⟩
      exact ⟨_, cache, rfl, limiter, rfl, provider, made, rfl⟩
  · rintro gateway ⟨_, sameCache, _, sameLimiter, provider, made, result⟩
    cases sameCache
    cases sameLimiter
    cases result
    exact
      { uncached := uncached
        cached := cached
        limiter := limits
        providers := wired provider made
        jobStore := rfl }

end Checks

/-- The key of the fallback is `two words` or `token`. -/
def keyedConfig (apiKey : String) : Config :=
  { Cache.sampleConfig 3000 [(JsString.ofString "small", JsString.ofString "mini")] with
    openai := some
      { apiKey := JsString.ofString apiKey
        requestTimeoutMs := 30000
        modelMap := [(JsString.ofString "small", JsString.ofString "mini")] } }

/-- SHA-256 in hexadecimal, on the keys of the two configurations and on their namespaces. -/
def keyedDigest (text : JsString) : JsString :=
  let spaced := JsString.ofString "30b0c53cc188ba492964b63641d6868174efaf61bcaa58fc74bf9e0f349dd210"
  let token := JsString.ofString "3d872b2ab22a2475ca9ba197dc3cc954d8c991e44284994557fbcaf873cdb73f"
  if text = JsString.ofString "\"two words\"" then spaced
  else if text = JsString.ofString "\"token\"" then token
  else if text = Cache.namespaceText (fun _ => spaced) (keyedConfig "two words") then
    JsString.ofString "c56797b36727db3c82bc780afa23915cbd6afec19e178067c9e96bf637a0d4c7"
  else JsString.ofString "795799818e9c8ec859057a0448cc19bfcd4e55e1ca43b06ccaca8b89266c5563"

/-- The key is trimmed when it is loaded, and refused when the provider is built if it has
a space inside. -/
theorem gateway_built_iff_spaced :
    let environment (apiKey : String) : Environment :=
      [("OPENAI_FALLBACK_MODEL_MAP", JsString.ofString "\x7b\"small\": \"mini\"\x7d"),
        ("OPENAI_API_KEY", JsString.ofString apiKey)]
    let resolve (input base : JsString) : Option JsString := some (base ++ input)
    loadConfig Cache.sampleAddress (environment " two words ") = .ok (keyedConfig "two words") ∧
      (¬∃ gateway, buildGateway keyedDigest resolve (keyedConfig "two words") = .ok gateway) ∧
      loadConfig Cache.sampleAddress (environment " token ") = .ok (keyedConfig "token") ∧
      ∃ gateway, buildGateway keyedDigest resolve (keyedConfig "token") = .ok gateway ∧
        gateway.provider.openai.map OpenAIProvider.apiKey = some (JsString.ofString "token") ∧
        gateway.jobStore.maxAttempts = 3 := by
  intro environment resolve
  have spaced : loadConfig Cache.sampleAddress (environment " two words ") =
      .ok (keyedConfig "two words") := by
    decide +kernel
  have token : loadConfig Cache.sampleAddress (environment " token ") =
      .ok (keyedConfig "token") := by
    decide +kernel
  have digests : ∀ text, keyedDigest text ≠ [] := by
    intro text
    simp only [keyedDigest]
    repeat' split
    all_goals decide
  refine ⟨spaced, ?_, token, ?_⟩
  · rw [(gateway_built_iff spaced digests).1]
    rintro ⟨_, visible⟩
    exact absurd (visible _ rfl 0x20 (by decide)) (by decide)
  · have accepted :
        ∃ gateway, buildGateway keyedDigest resolve (keyedConfig "token") = .ok gateway :=
      (gateway_built_iff token digests).1.mpr
        ⟨⟨_, rfl⟩, by rintro _ ⟨rfl⟩; exact List.all_eq_true.mp (by decide)⟩
    obtain ⟨gateway, built⟩ := accepted
    have wired := (gateway_built_iff token digests).2 gateway built
    refine ⟨gateway, built, ?_, ?_⟩
    · have matched := wired.providers.openai
      cases made : gateway.provider.openai with
      | none => simp [made, keyedConfig, Matched] at matched
      | some provider =>
          simp only [made, keyedConfig, Matched] at matched
          exact congrArg some matched.1
    · rw [wired.jobStore]
      rfl

end ModelMux.Config
