import QaRunner.Domain.Digest

/-! Single-use duplicate-risk acceptance for an unknown retry intent. -/
namespace QaRunner
open Guarded

structure DuplicateRiskAcceptanceBasis.Fields where
  id : Str
  runId : Str
  sourceAttemptId : Str
  sourceAttemptNo : ℤ
  sourceFence : ℤ
  runItemSetDigest : Digest
  sutIdentity : Str
  sutDigest : Digest
  targetGrantIdentity : Str
  targetGrantVersion : ℤ
  targetGrantDigest : Digest
  suiteOwnerId : Str
  reviewerId : Str
  originalExecutorId : Str
  originalTriggerActorId : Str
  acceptedAt : Datetime
  expiresAt : Datetime
  deriving DecidableEq

namespace DuplicateRiskAcceptanceBasis.Fields

/-- The microseconds an acceptance lasts. -/
def ttl (b : Fields) : ℤ := b.expiresAt.micros - b.acceptedAt.micros

def postInit (b : Fields) : Result Unit := do
  each [("id", b.id), ("run_id", b.runId), ("source_attempt_id", b.sourceAttemptId),
    ("sut_identity", b.sutIdentity), ("target_grant_identity", b.targetGrantIdentity),
    ("suite_owner_id", b.suiteOwnerId), ("reviewer_id", b.reviewerId),
    ("original_executor_id", b.originalExecutorId),
    ("original_trigger_actor_id", b.originalTriggerActorId)] fun f =>
      requireNonemptyString "duplicate_risk_acceptance" f.1 f.2
  each [("source_attempt_no", b.sourceAttemptNo), ("source_fence", b.sourceFence),
    ("target_grant_version", b.targetGrantVersion)] fun f =>
      requirePositiveInteger "duplicate_risk_acceptance" f.1 f.2
  requireUtc "duplicate_risk_acceptance" "accepted_at" b.acceptedAt
  requireUtc "duplicate_risk_acceptance" "expires_at" b.expiresAt
  -- one hour
  invalidIf (b.ttl ≠ 3600000000) "duplicate_risk_acceptance" "expires_at" "ttl_not_one_hour"
  invalidIf (b.reviewerId ∈ [b.suiteOwnerId, b.originalExecutorId, b.originalTriggerActorId])
    "duplicate_risk_acceptance" "reviewer_id" "not_independent"

end DuplicateRiskAcceptanceBasis.Fields

/-- Pre-intent two-person authority and complete retry environment binding. -/
structure DuplicateRiskAcceptanceBasis extends DuplicateRiskAcceptanceBasis.Fields where
  accepted : toFields.postInit = .ok ()
  deriving DecidableEq

def DuplicateRiskAcceptanceBasis.digest (b : DuplicateRiskAcceptanceBasis) : Result Digest :=
  canonicalDigest "qep.duplicate-risk-acceptance-basis.v1"
    (.dict [("id", .str b.id), ("run_id", .str b.runId),
      ("source_attempt_id", .str b.sourceAttemptId), ("source_attempt_no", .int b.sourceAttemptNo),
      ("source_fence", .int b.sourceFence),
      ("run_item_set_digest", .str b.runItemSetDigest.value),
      ("sut_identity", .str b.sutIdentity), ("sut_digest", .str b.sutDigest.value),
      ("target_grant_identity", .str b.targetGrantIdentity),
      ("target_grant_version", .int b.targetGrantVersion),
      ("target_grant_digest", .str b.targetGrantDigest.value),
      ("suite_owner_id", .str b.suiteOwnerId), ("reviewer_id", .str b.reviewerId),
      ("original_executor_id", .str b.originalExecutorId),
      ("original_trigger_actor_id", .str b.originalTriggerActorId),
      ("accepted_at", .str b.acceptedAt.isoformat), ("expires_at", .str b.expiresAt.isoformat)])

/-- The digest of an acceptance in terms of its basis and its intent. -/
def duplicateRiskAcceptanceDigest (basisDigest retryIntentDigest : Digest) : Result Digest :=
  canonicalDigest "qep.duplicate-risk-acceptance.v2"
    (.dict [("basis_digest", .str basisDigest.value),
      ("retry_intent_digest", .str retryIntentDigest.value)])

/-- Consumable acceptance binding a pre-intent basis to the final intent. -/
structure DuplicateRiskAcceptance where
  basis : DuplicateRiskAcceptanceBasis
  retryIntentDigest : Digest
  deriving DecidableEq

def DuplicateRiskAcceptance.digest (a : DuplicateRiskAcceptance) : Result Digest := do
  let basisDigest ← a.basis.digest
  duplicateRiskAcceptanceDigest basisDigest a.retryIntentDigest

structure DuplicateRiskAcceptanceRequest.Fields where
  scope : Str
  key : Str
  acceptance : DuplicateRiskAcceptance
  requestedAt : Datetime
  deriving DecidableEq

def DuplicateRiskAcceptanceRequest.Fields.postInit (r : DuplicateRiskAcceptanceRequest.Fields) :
    Result Unit := do
  requireNonemptyString "duplicate_risk_acceptance_request" "scope" r.scope
  requireNonemptyString "duplicate_risk_acceptance_request" "key" r.key
  requireUtc "duplicate_risk_acceptance_request" "requested_at" r.requestedAt

structure DuplicateRiskAcceptanceRequest extends DuplicateRiskAcceptanceRequest.Fields where
  accepted : toFields.postInit = .ok ()
  deriving DecidableEq

def DuplicateRiskAcceptanceRequest.digest (r : DuplicateRiskAcceptanceRequest) :
    Result Digest := do
  let acceptanceDigest ← r.acceptance.digest
  canonicalDigest "qep.duplicate-risk-acceptance-request.v1"
    (.dict [("scope", .str r.scope), ("key", .str r.key),
      ("acceptance_digest", .str acceptanceDigest.value),
      ("requested_at", .str r.requestedAt.isoformat)])

structure DuplicateRiskAcceptanceConsumption.Fields where
  scope : Str
  key : Str
  acceptanceDigest : Digest
  requestDigest : Digest
  consumedAt : Datetime
  deriving DecidableEq

def DuplicateRiskAcceptanceConsumption.Fields.postInit
    (c : DuplicateRiskAcceptanceConsumption.Fields) : Result Unit := do
  requireNonemptyString "duplicate_risk_acceptance_consumption" "scope" c.scope
  requireNonemptyString "duplicate_risk_acceptance_consumption" "key" c.key
  requireUtc "duplicate_risk_acceptance_consumption" "consumed_at" c.consumedAt

structure DuplicateRiskAcceptanceConsumption extends
    DuplicateRiskAcceptanceConsumption.Fields where
  accepted : toFields.postInit = .ok ()
  deriving DecidableEq

def DuplicateRiskAcceptanceConsumption.new :
    DuplicateRiskAcceptanceConsumption.Fields → Result DuplicateRiskAcceptanceConsumption :=
  construct DuplicateRiskAcceptanceConsumption.Fields.postInit
    DuplicateRiskAcceptanceConsumption.mk

def DuplicateRiskAcceptanceConsumption.digest (c : DuplicateRiskAcceptanceConsumption) :
    Result Digest :=
  canonicalDigest "qep.duplicate-risk-acceptance-consumption.v1"
    (.dict [("scope", .str c.scope), ("key", .str c.key),
      ("acceptance_digest", .str c.acceptanceDigest.value),
      ("request_digest", .str c.requestDigest.value),
      ("consumed_at", .str c.consumedAt.isoformat)])

/-- The consumption of a first request; a replay is of the historical one. -/
inductive DuplicateRiskConsumed where
  | consumption (consumption : DuplicateRiskAcceptanceConsumption)
  | replay (consumption : DuplicateRiskAcceptanceConsumption)
  deriving DecidableEq

/-- Consume once, or resolve an exact replay without consuming again. -/
def consumeDuplicateRiskAcceptance (request : DuplicateRiskAcceptanceRequest)
    (prior : Option DuplicateRiskAcceptanceConsumption) : Result DuplicateRiskConsumed :=
  match prior with
  | some prior => do
    let mismatch ← anyOf [.ok (decide (prior.scope ≠ request.scope ∨ prior.key ≠ request.key)),
      differs prior.acceptanceDigest request.acceptance.digest,
      differs prior.requestDigest request.digest]
    if mismatch then
      let digest ← request.digest
      throw (.idempotencyConflict request.scope request.key prior.requestDigest.value digest.value)
    return .replay prior
  | none => do
    let consumptionEntity := "duplicate_risk_acceptance_consumption"
    invalidIf (request.acceptance.basis.expiresAt ≤ request.requestedAt) consumptionEntity
      "requested_at" "acceptance_expired"
    invalidIf (request.requestedAt < request.acceptance.basis.acceptedAt) consumptionEntity
      "requested_at" "before_acceptance"
    let acceptanceDigest ← request.acceptance.digest
    let requestDigest ← request.digest
    let consumption ← DuplicateRiskAcceptanceConsumption.new {
      scope := request.scope
      key := request.key
      acceptanceDigest := acceptanceDigest
      requestDigest := requestDigest
      consumedAt := request.requestedAt }
    return .consumption consumption

end QaRunner
