import ModelMux.Foundation.LabelledRun
import ModelMux.Foundation.KeyedTable
import ModelMux.Foundation.ExpiringStore
import ModelMux.Foundation.TokenBucket
import ModelMux.Json.Text
import ModelMux.Json.Parser
import ModelMux.Json.Canonical
import ModelMux.Json.CanonicalForm
import ModelMux.Json.Number
import ModelMux.Json.NumberText
import ModelMux.Json.Utf8
import ModelMux.Json.Utf8Decoder
import ModelMux.Json.Jsonb
import ModelMux.Queue.JobRow
import ModelMux.Queue.Envelope
import ModelMux.Queue.PostgresJobStore
import ModelMux.Queue.JobStoreRun
import ModelMux.Queue.RowInvariant
import ModelMux.Queue.AttemptClaims
import ModelMux.Queue.Submission
import ModelMux.Queue.OwnerIsolation
import ModelMux.Queue.Worker
import ModelMux.Queue.NoLostJob
import ModelMux.Queue.WorkerHistory
import ModelMux.Queue.RabbitMqBroker
import ModelMux.Queue.DeliveryLog
import ModelMux.Queue.BrokerDrain
import ModelMux.Queue.ConsumerShutdown
import ModelMux.Queue.AttemptFencing
import ModelMux.Queue.RetryDelay
import ModelMux.Queue.LeaseExclusion
import ModelMux.Providers.CircuitBreaker
import ModelMux.Providers.CircuitInvariant
import ModelMux.Providers.CircuitRuns
import ModelMux.Providers.Router
import ModelMux.Providers.RoutingPass
import ModelMux.Providers.RouterCircuits
import ModelMux.Providers.ProviderMetrics
import ModelMux.Providers.CircuitMetrics
import ModelMux.Providers.StreamedAnswer
import ModelMux.Providers.HealthEvidence
import ModelMux.Providers.ProviderContact
import ModelMux.Providers.StreamParser
import ModelMux.Providers.StreamAdapter
import ModelMux.Providers.StreamCall
import ModelMux.Providers.ChatAdapter
import ModelMux.Providers.OllamaStream
import ModelMux.Providers.OpenAIStream
import ModelMux.Concurrency.InMemoryConcurrencyLimiter
import ModelMux.Concurrency.LimiterInvariant
import ModelMux.Concurrency.LimiterFairness
import ModelMux.Concurrency.LimiterGrants
import ModelMux.Concurrency.LimiterClients
import ModelMux.RateLimit.RedisTokenBucket
import ModelMux.RateLimit.BucketBounds
import ModelMux.RateLimit.BackwardClock
import ModelMux.RateLimit.BucketExpiry
import ModelMux.RateLimit.RetryAfter
import ModelMux.Cache.CacheKey
import ModelMux.Cache.CanonicalHash
import ModelMux.Cache.RedisChatCache
import ModelMux.Cache.CacheHistory
import ModelMux.Cache.CacheCommand
import ModelMux.Queue.JobContent
import ModelMux.Routes.ChatHandler
import ModelMux.Routes.CacheTransparency
import ModelMux.Routes.StreamHandler
import ModelMux.Routes.StreamProtocol
import ModelMux.Routes.SseRoundTrip
import ModelMux.Routes.Gateway
import ModelMux.Routes.AppError
import ModelMux.Auth.ApiKeys
import ModelMux.Auth.Guard
import ModelMux.Auth.GuardBounds
import ModelMux.Auth.CreateApiKey
import ModelMux.Config.Config
import ModelMux.Config.ConfigRange
import ModelMux.Cache.CacheNamespace
import ModelMux.Queue.JobMetrics
import ModelMux.Queue.Publisher
import ModelMux.Providers.ChatCall
import ModelMux.Jobs.InferenceProcessor
import ModelMux.Config.Wiring
import ModelMux.Jobs.StoredOutcomes
import ModelMux.Jobs.LeaseBudget
import ModelMux.Jobs.WorkerMain
import ModelMux.Routes.RequestLifetime
import ModelMux.Routes.JobRoutes
import ModelMux.Observability.Scrape
import ModelMux.Observability.ScrapeCoherence
import ModelMux.Routes.ChatService
import ModelMux.Routes.ServedAnswers
