import ServiceOrderOs.Core.AtLeastOnce
import ServiceOrderOs.Core.ExactlyOnce
import ServiceOrderOs.Core.Keyed
import ServiceOrderOs.Core.Lts
import ServiceOrderOs.Core.Passes
import ServiceOrderOs.Core.Race
import ServiceOrderOs.Core.ReadWrite
import ServiceOrderOs.Core.Related
import ServiceOrderOs.Core.Replace
import ServiceOrderOs.Core.Sorted
import ServiceOrderOs.Core.Trail
import ServiceOrderOs.Core.Unwinding
import ServiceOrderOs.Core.Upsert
import ServiceOrderOs.L1Values.Text
import ServiceOrderOs.L1Values.Decimal
import ServiceOrderOs.L1Values.Value
import ServiceOrderOs.L1Values.Lines
import ServiceOrderOs.L1Values.JsonText
import ServiceOrderOs.L1Values.JsonDocument
import ServiceOrderOs.L1Values.Interpreter
import ServiceOrderOs.L1Values.Url
import ServiceOrderOs.L2Domain.Event
import ServiceOrderOs.L2Domain.ServiceOrder
import ServiceOrderOs.L2Domain.Lifecycle
import ServiceOrderOs.L2Domain.Forward
import ServiceOrderOs.L2Domain.Aggregate
import ServiceOrderOs.L2Domain.Registry
import ServiceOrderOs.L2Domain.Validation
import ServiceOrderOs.L3App.State
import ServiceOrderOs.L3App.UseCases
import ServiceOrderOs.L3App.Acceptance
import ServiceOrderOs.L3App.EventHandlers
import ServiceOrderOs.L3App.EventContracts
import ServiceOrderOs.L3App.RabbitMq
import ServiceOrderOs.L3App.BlockingWorker
import ServiceOrderOs.L3App.EventPublishers
import ServiceOrderOs.L3App.RegistryUseCases
import ServiceOrderOs.L3App.InMemoryRegistries
import ServiceOrderOs.L3App.Ports
import ServiceOrderOs.L3App.SqlRegistries
import ServiceOrderOs.L3App.Records
import ServiceOrderOs.L3App.SqlServiceOrders
import ServiceOrderOs.L4Runs.System
import ServiceOrderOs.L4Runs.Invariant
import ServiceOrderOs.L4Runs.EventLog
import ServiceOrderOs.L4Runs.FailureStage
import ServiceOrderOs.L4Runs.Opening
import ServiceOrderOs.L4Runs.Registries
import ServiceOrderOs.L4Runs.RecordRuns
import ServiceOrderOs.L4Runs.Owners
import ServiceOrderOs.L4Runs.Redelivery
import ServiceOrderOs.L4Runs.RegistryModes
import ServiceOrderOs.L4Runs.SagaTable
import ServiceOrderOs.L4Runs.Course
import ServiceOrderOs.L4Runs.Progress
import ServiceOrderOs.L4Runs.PublishedMessages
import ServiceOrderOs.L4Runs.OrderTable
import ServiceOrderOs.L5Concurrency.Steps
import ServiceOrderOs.L5Concurrency.Crash
import ServiceOrderOs.L5Concurrency.Interference
import ServiceOrderOs.L5Concurrency.LostUpdate
import ServiceOrderOs.L5Concurrency.TwoWorkers
import ServiceOrderOs.L5Concurrency.RegistrySteps
import ServiceOrderOs.L5Concurrency.RegistryGuards
import ServiceOrderOs.L5Concurrency.RegistryRaces
import ServiceOrderOs.L5Concurrency.WorkerQueue
import ServiceOrderOs.L5Concurrency.WorkerOrder
import ServiceOrderOs.L5Concurrency.WorkerOutcome
import ServiceOrderOs.L5Concurrency.Crowd
import ServiceOrderOs.L5Concurrency.TableRaces
import ServiceOrderOs.L6Api.ServiceOrderRoutes
import ServiceOrderOs.L6Api.EventStatus
import ServiceOrderOs.L6Api.Settings
import ServiceOrderOs.L6Api.Auth
import ServiceOrderOs.L6Api.ServiceOrderApi
import ServiceOrderOs.L6Api.RegistryRoutes
import ServiceOrderOs.L6Api.AuthRoutes
import ServiceOrderOs.L6Api.Server
import ServiceOrderOs.L6Api.RegistrySchemas
import ServiceOrderOs.L6Api.TrustRoot
import ServiceOrderOs.L6Api.Escalation
import ServiceOrderOs.L6Api.ServerRuns
import ServiceOrderOs.L6Api.Isolation
import ServiceOrderOs.L6Api.PutBack
import ServiceOrderOs.L6Api.Documents
import ServiceOrderOs.L6Api.Accounts
import ServiceOrderOs.L7Deploy.EnvFile
import ServiceOrderOs.L7Deploy.DatabaseUrl
import ServiceOrderOs.L7Deploy.PrepareEnv
import ServiceOrderOs.L7Deploy.Normalized
import ServiceOrderOs.L7Deploy.Idempotence
import ServiceOrderOs.L7Deploy.RenderManifests
import ServiceOrderOs.L7Deploy.AppSettings
import ServiceOrderOs.L7Deploy.Manifests
import ServiceOrderOs.L7Deploy.Startup
