import QaRunner.Domain.RunRetryPolicy

/-! Immutable retry authorization and Attempt provenance facts. -/
namespace QaRunner
open Guarded

structure UnknownAdjudicationRetryAuthority.Fields where
  adjudicationId : Str
  adjudicationDigest : Digest
  decision : UnknownAdjudicationDecision
  deriving DecidableEq

def UnknownAdjudicationRetryAuthority.Fields.postInit
    (a : UnknownAdjudicationRetryAuthority.Fields) : Result Unit :=
  requireNonemptyString "unknown_retry_authority" "adjudication_id" a.adjudicationId

/-- A retry authorized by the adjudication of an unknown Attempt. -/
structure UnknownAdjudicationRetryAuthority extends UnknownAdjudicationRetryAuthority.Fields where
  accepted : toFields.postInit = .ok ()
  deriving DecidableEq

def UnknownAdjudicationRetryAuthority.canonicalPayload (a : UnknownAdjudicationRetryAuthority) :
    Json :=
  .dict [("kind", .str "unknown_adjudication"), ("adjudication_id", .str a.adjudicationId),
    ("adjudication_digest", .str a.adjudicationDigest.value), ("decision", .str a.decision.value)]

structure PolicyRetryAuthority.Fields where
  family : RetryPolicyFamily
  decisionSourceKind : RetryDecisionSourceKind
  policyDigest : Digest
  authoritySchema : Str
  authorityId : Str
  authorityVersion : ℤ
  authorityDigest : Digest
  sourceOutcome : AttemptExecutionFact
  itemResolutionSetDigest : Digest
  sourceItemSetDigest : Digest
  targetItemSetDigest : Digest
  deriving DecidableEq

/-- The source kind that belongs to a policy family. -/
def RetryPolicyFamily.expectedSourceKind : RetryPolicyFamily → RetryDecisionSourceKind
  | .suite => .suitePolicy
  | .platform => .platformPolicy

/-- The attempt outcome a policy family retries. -/
def RetryPolicyFamily.expectedOutcome : RetryPolicyFamily → AttemptExecutionFact
  | .suite => .testFailed
  | .platform => .infraFailed

def PolicyRetryAuthority.Fields.postInit (a : PolicyRetryAuthority.Fields) : Result Unit := do
  invalidIf (a.decisionSourceKind ≠ a.family.expectedSourceKind) "policy_retry_authority"
    "decision_source_kind" "family_mismatch"
  invalidIf (a.sourceOutcome ≠ a.family.expectedOutcome) "policy_retry_authority"
    "source_outcome" "family_mismatch"
  requireNonemptyString "policy_retry_authority" "authority_schema" a.authoritySchema
  requireNonemptyString "policy_retry_authority" "authority_id" a.authorityId
  requirePositiveInteger "policy_retry_authority" "authority_version" a.authorityVersion
  invalidIf (a.sourceItemSetDigest ≠ a.targetItemSetDigest) "policy_retry_authority"
    "target_item_set_digest" "full_run_scope_mismatch"

/-- A retry authorized by a suite or platform policy. -/
structure PolicyRetryAuthority extends PolicyRetryAuthority.Fields where
  accepted : toFields.postInit = .ok ()
  deriving DecidableEq

def PolicyRetryAuthority.canonicalPayload (a : PolicyRetryAuthority) : Json :=
  .dict [("kind", .str "policy"), ("family", .str a.family.value),
    ("decision_source_kind", .str a.decisionSourceKind.value),
    ("policy_digest", .str a.policyDigest.value), ("authority_schema", .str a.authoritySchema),
    ("authority_id", .str a.authorityId), ("authority_version", .int a.authorityVersion),
    ("authority_digest", .str a.authorityDigest.value),
    ("source_outcome", .str a.sourceOutcome.value),
    ("item_resolution_set_digest", .str a.itemResolutionSetDigest.value),
    ("source_item_set_digest", .str a.sourceItemSetDigest.value),
    ("target_item_set_digest", .str a.targetItemSetDigest.value)]

inductive RetryAuthority where
  | unknownAdjudication (authority : UnknownAdjudicationRetryAuthority)
  | policy (authority : PolicyRetryAuthority)
  deriving DecidableEq

namespace RetryAuthority

def canonicalPayload : RetryAuthority → Json
  | unknownAdjudication a => a.canonicalPayload
  | policy a => a.canonicalPayload

/-- Empty for a policy authority. -/
def adjudicationId : RetryAuthority → Str
  | unknownAdjudication a => a.adjudicationId
  | policy _ => ""

def adjudicationDigest : RetryAuthority → Option Digest
  | unknownAdjudication a => some a.adjudicationDigest
  | policy _ => none

def decision : RetryAuthority → Option UnknownAdjudicationDecision
  | unknownAdjudication a => some a.decision
  | policy _ => none

end RetryAuthority

structure RetryIntent.Fields where
  id : Str
  runId : Str
  sourceAttemptId : Str
  sourceAttemptNo : ℤ
  sourceFence : ℤ
  authority : RetryAuthority
  executionSpecDigest : Digest
  createdAt : Datetime
  deriving DecidableEq

def RetryIntent.Fields.postInit (i : RetryIntent.Fields) : Result Unit := do
  each [("id", i.id), ("run_id", i.runId), ("source_attempt_id", i.sourceAttemptId)] fun f =>
    requireNonemptyString "retry_intent" f.1 f.2
  requirePositiveInteger "retry_intent" "source_attempt_no" i.sourceAttemptNo
  requirePositiveInteger "retry_intent" "source_fence" i.sourceFence
  requireUtc "retry_intent" "created_at" i.createdAt

/-- A durable request to execute the Run again after one source Attempt. -/
structure RetryIntent extends RetryIntent.Fields where
  accepted : toFields.postInit = .ok ()
  deriving DecidableEq

def RetryIntent.adjudicationId (i : RetryIntent) : Str := i.authority.adjudicationId

def RetryIntent.adjudicationDigest (i : RetryIntent) : Option Digest :=
  i.authority.adjudicationDigest

def RetryIntent.decision (i : RetryIntent) : Option UnknownAdjudicationDecision :=
  i.authority.decision

def RetryIntent.digest (i : RetryIntent) : Result Digest :=
  canonicalDigest "qep.retry-intent.v2"
    (.dict [("id", .str i.id), ("run_id", .str i.runId),
      ("source_attempt_id", .str i.sourceAttemptId), ("source_attempt_no", .int i.sourceAttemptNo),
      ("source_fence", .int i.sourceFence), ("authority", i.authority.canonicalPayload),
      ("execution_spec_digest", .str i.executionSpecDigest.value),
      ("created_at", .str i.createdAt.isoformat)])

structure RetryProvenance.Fields where
  retryIntentId : Str
  retryIntentDigest : Digest
  sourceAttemptId : Str
  sourceAttemptNo : ℤ
  sourceFence : ℤ
  authority : RetryAuthority
  deriving DecidableEq

def RetryProvenance.Fields.postInit (p : RetryProvenance.Fields) : Result Unit := do
  requireNonemptyString "retry_provenance" "retry_intent_id" p.retryIntentId
  requireNonemptyString "retry_provenance" "source_attempt_id" p.sourceAttemptId
  requirePositiveInteger "retry_provenance" "source_attempt_no" p.sourceAttemptNo
  requirePositiveInteger "retry_provenance" "source_fence" p.sourceFence

/-- Which retry intent an Attempt consumed. -/
structure RetryProvenance extends RetryProvenance.Fields where
  accepted : toFields.postInit = .ok ()
  deriving DecidableEq

def RetryProvenance.new : RetryProvenance.Fields → Result RetryProvenance :=
  construct RetryProvenance.Fields.postInit RetryProvenance.mk

def RetryProvenance.fromIntent (intent : RetryIntent) : Result RetryProvenance := do
  let digest ← intent.digest
  RetryProvenance.new {
    retryIntentId := intent.id
    retryIntentDigest := digest
    sourceAttemptId := intent.sourceAttemptId
    sourceAttemptNo := intent.sourceAttemptNo
    sourceFence := intent.sourceFence
    authority := intent.authority }

end QaRunner
