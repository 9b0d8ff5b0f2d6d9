import QaRunner.Lib.Guarded
import QaRunner.Domain.RunReplay
import QaRunner.Domain.PolicyRetry
import QaRunner.Domain.RetryChain
import QaRunner.Application.RunStory
import QaRunner.Adapters.PostgresRunFinalization
import QaRunner.Domain.ResolutionDigest
import QaRunner.Domain.BatchLifecycle
import QaRunner.Domain.BatchOutcome
import QaRunner.Domain.BatchRebuild
import QaRunner.Domain.ScopeDigest
import QaRunner.Application.PreexecutionReplay
import QaRunner.Domain.LeaseOversell
import QaRunner.Domain.WorkerLease
import QaRunner.Domain.SecretDelivery
import QaRunner.Domain.BoundedQueue
import QaRunner.Domain.EventLog
import QaRunner.Domain.DigestIdentity
import QaRunner.Application.ReadinessCoverage
import QaRunner.Adapters.FinalizationSafety
import QaRunner.Application.RetrySafety
import QaRunner.Domain.RunRetryEvaluation
import QaRunner.Domain.AttemptSelection
import QaRunner.Lib.InstantText
import QaRunner.Adapters.SqliteSchedules
import QaRunner.Adapters.OutboxFencing
import QaRunner.Core.Orchestrator
import QaRunner.Adapters.AsyncioScheduler
import QaRunner.Application.PreexecutionSoundness
import QaRunner.Domain.ScopeNormalForm
import QaRunner.Domain.ShardBalance
import QaRunner.Domain.ShardAdmission
import QaRunner.Domain.EvidenceRebuild
import QaRunner.PytestPlugin.CanonicalPlugin
import QaRunner.Domain.CaseIdentity
import QaRunner.Domain.ResidualSandbox
import QaRunner.Domain.WorkerExecution
import QaRunner.Domain.BrowserSandbox
import QaRunner.Application.HandoffConsistency
import QaRunner.Core.Regression
import QaRunner.Core.RateLimit
import QaRunner.Core.LoginThrottle
import QaRunner.Domain.EgressEvaluation
import QaRunner.Domain.SecretRedaction
import QaRunner.Core.RunArguments
import QaRunner.Domain.PlanOrder
import QaRunner.Domain.RehydrationSafety
import QaRunner.Domain.WorkerLifecycle
import QaRunner.Domain.UnknownReview
import QaRunner.Adapters.SuiteHistory
import QaRunner.Adapters.AuditHistory
import QaRunner.Api.TokenRevocation
import QaRunner.Api.AccountAuthority
import QaRunner.Api.CleanupSafety
