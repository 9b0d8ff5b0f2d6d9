import QaRunner.Domain.RunRetryPolicy

/-! The whole of a Run retry decision, with the budget it was taken under and its digest. -/
namespace QaRunner
open Guarded

inductive RetryScope where
  | fullRun
  deriving DecidableEq, Repr

def RetryScope.value : RetryScope → String
  | .fullRun => "full_run"

def RetryDecision.value : RetryDecision → String
  | .retry => "retry"
  | .closedNoRetry => "closed_no_retry"

structure RetryBudget.Fields where
  maxRetries : ℤ
  maxExecutionSeconds : ℤ
  maxResourceUnitSeconds : ℤ
  deriving DecidableEq

def RetryBudget.Fields.postInit (b : RetryBudget.Fields) : Result Unit :=
  each [("max_retries", b.maxRetries), ("max_execution_seconds", b.maxExecutionSeconds),
    ("max_resource_unit_seconds", b.maxResourceUnitSeconds)] fun f =>
      policyNonnegative "retry_budget" f.1 f.2

structure RetryBudget extends RetryBudget.Fields where
  accepted : toFields.postInit = .ok ()
  deriving DecidableEq

def RetryBudget.canonicalPayload (b : RetryBudget) : Json :=
  .dict [("max_retries", .int b.maxRetries), ("max_execution_seconds", .int b.maxExecutionSeconds),
    ("max_resource_unit_seconds", .int b.maxResourceUnitSeconds)]

structure RetryBudgetUsage.Fields where
  retryCount : ℤ
  executionSeconds : ℤ
  resourceUnitSeconds : ℤ
  deriving DecidableEq

def RetryBudgetUsage.Fields.postInit (u : RetryBudgetUsage.Fields) : Result Unit :=
  each [("retry_count", u.retryCount), ("execution_seconds", u.executionSeconds),
    ("resource_unit_seconds", u.resourceUnitSeconds)] fun f =>
      policyNonnegative "retry_budget_usage" f.1 f.2

structure RetryBudgetUsage extends RetryBudgetUsage.Fields where
  accepted : toFields.postInit = .ok ()
  deriving DecidableEq

def RetryBudgetUsage.canonicalPayload (u : RetryBudgetUsage) : Json :=
  .dict [("retry_count", .int u.retryCount), ("execution_seconds", .int u.executionSeconds),
    ("resource_unit_seconds", .int u.resourceUnitSeconds)]

structure RetryRequestedBudget.Fields where
  executionSeconds : ℤ
  resourceUnitSeconds : ℤ
  deriving DecidableEq

def RetryRequestedBudget.Fields.postInit (b : RetryRequestedBudget.Fields) : Result Unit :=
  each [("execution_seconds", b.executionSeconds),
    ("resource_unit_seconds", b.resourceUnitSeconds)] fun f =>
      policyPositive "retry_requested_budget" f.1 f.2

structure RetryRequestedBudget extends RetryRequestedBudget.Fields where
  accepted : toFields.postInit = .ok ()
  deriving DecidableEq

def RetryRequestedBudget.canonicalPayload (b : RetryRequestedBudget) : Json :=
  .dict [("execution_seconds", .int b.executionSeconds),
    ("resource_unit_seconds", .int b.resourceUnitSeconds)]

/-- A decision with everything that its digest covers. -/
structure RunRetryDecision.Record extends RunRetryDecision where
  retryScope : RetryScope
  reasonClass : Str
  reasonCode : Str
  priorExecutionStopDigest : Option Digest
  budget : RetryBudget
  usage : RetryBudgetUsage
  requested : RetryRequestedBudget
  decidedAt : Datetime
  deriving DecidableEq

namespace RunRetryDecision.Record

def canonicalPayload (d : Record) : Json :=
  .dict [("run_id", .str d.source.runId), ("source_run_version", .int d.source.runVersion),
    ("source_attempt_id", .str d.source.attemptId),
    ("source_attempt_no", .int d.source.attemptNo),
    ("source_attempt_fence", .int d.source.attemptFence),
    ("source_outcome", .str d.source.outcome.value),
    ("source_item_resolution_set_digest", .str d.source.itemResolutionSetDigest.value),
    ("source_item_set_digest", .str d.source.sourceItemSetDigest.value),
    ("target_item_set_digest", .str d.source.targetItemSetDigest.value),
    ("retry_scope", .str d.retryScope.value), ("decision", .str d.decision.value),
    ("decision_source_kind", .str d.decisionSourceKind.value),
    ("reason_class", .str d.reasonClass), ("reason_code", .str d.reasonCode),
    ("retry_intent_digest", optionalDigestValue d.retryIntentDigest),
    ("authority_schema", optionalString d.authoritySchema),
    ("authority_id", optionalString d.authorityId),
    ("authority_version", optionalInt d.authorityVersion),
    ("authority_digest", optionalDigestValue d.authorityDigest),
    ("policy_digest", optionalDigestValue d.policyDigest), ("adjudication_digest", .null),
    ("prior_execution_stop_digest", optionalDigestValue d.priorExecutionStopDigest),
    ("duplicate_risk_acceptance_digest", .null),
    ("attempt_budget_snapshot", .dict [("configured", d.budget.canonicalPayload),
      ("usage", d.usage.canonicalPayload), ("requested", d.requested.canonicalPayload)]),
    ("decided_at", .str d.decidedAt.isoformat)]

def decisionDigest (d : Record) : Result Digest :=
  canonicalDigest "qep.run-retry-decision.v1" d.canonicalPayload

end RunRetryDecision.Record

end QaRunner
