import QaRunner.Domain.RunFinalization

/-! Facts and decisions of the versioned Run retry policies. -/
namespace QaRunner
open Guarded

inductive RetryPolicyFamily where
  | suite
  | platform
  deriving DecidableEq, Repr

def RetryPolicyFamily.value : RetryPolicyFamily → String
  | .suite => "suite"
  | .platform => "platform"

inductive RetryDecisionSourceKind where
  | suitePolicy
  | platformPolicy
  deriving DecidableEq, Repr

def RetryDecisionSourceKind.value : RetryDecisionSourceKind → String
  | .suitePolicy => "suite_policy"
  | .platformPolicy => "platform_policy"

inductive RetryDecision where
  | retry
  | closedNoRetry
  deriving DecidableEq, Repr

def policyString (entity field : String) (value : Str) : Result Unit :=
  invalidIf (isBlank value) entity field "empty"

def policyPositive (entity field : String) (value : ℤ) : Result Unit :=
  invalidIf (value ≤ 0) entity field "not_positive_integer"

def policyNonnegative (entity field : String) (value : ℤ) : Result Unit :=
  invalidIf (value < 0) entity field "not_nonnegative_integer"

structure RetrySourceFact.Fields where
  runId : Str
  runVersion : ℤ
  attemptId : Str
  attemptNo : ℤ
  attemptFence : ℤ
  outcome : AttemptExecutionFact
  reasonClass : Str
  reasonCode : Str
  itemResolutionSetDigest : Digest
  sourceItemSetDigest : Digest
  targetItemSetDigest : Digest
  priorExecutionStopDigest : Option Digest
  deriving DecidableEq

def RetrySourceFact.Fields.postInit (f : RetrySourceFact.Fields) : Result Unit := do
  each [("run_id", f.runId), ("attempt_id", f.attemptId), ("reason_class", f.reasonClass),
    ("reason_code", f.reasonCode)] fun s => policyString "retry_source_fact" s.1 s.2
  policyNonnegative "retry_source_fact" "run_version" f.runVersion
  policyPositive "retry_source_fact" "attempt_no" f.attemptNo
  policyPositive "retry_source_fact" "attempt_fence" f.attemptFence
  invalidIf (f.sourceItemSetDigest ≠ f.targetItemSetDigest) "retry_source_fact"
    "target_item_set_digest" "full_run_scope_mismatch"

/-- The attempt a retry decision is about, at one Run version. -/
structure RetrySourceFact extends RetrySourceFact.Fields where
  accepted : toFields.postInit = .ok ()
  deriving DecidableEq

structure RunRetryDecision.Fields where
  source : RetrySourceFact
  decision : RetryDecision
  decisionSourceKind : RetryDecisionSourceKind
  retryIntentDigest : Option Digest
  authoritySchema : Option Str
  authorityId : Option Str
  authorityVersion : Option ℤ
  authorityDigest : Option Digest
  policyDigest : Option Digest
  deriving DecidableEq

def RunRetryDecision.Fields.postInit (d : RunRetryDecision.Fields) : Result Unit := do
  invalidIf (d.decision = .retry ∧ d.retryIntentDigest.isNone) "run_retry_decision"
    "retry_intent_digest" "required"
  invalidIf (d.decision = .closedNoRetry ∧ d.retryIntentDigest.isSome) "run_retry_decision"
    "retry_intent_digest" "forbidden"

/-- The decision fields a Run checks before it queues a policy retry. -/
structure RunRetryDecision extends RunRetryDecision.Fields where
  accepted : toFields.postInit = .ok ()
  deriving DecidableEq

end QaRunner
