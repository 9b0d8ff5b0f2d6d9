import QaRunner.Domain.Digest

/-! Immutable facts for control-plane unknown classifications. -/
namespace QaRunner
open Guarded

inductive UnknownReason where
  | workerLostAfterCommit
  | cancelStopUnproven
  | leaseStopUnproven
  | reconcileAmbiguous
  | executionStopUnproven
  deriving DecidableEq, Repr

def UnknownReason.value : UnknownReason → String
  | .workerLostAfterCommit => "worker_lost_after_commit"
  | .cancelStopUnproven => "cancel_stop_unproven"
  | .leaseStopUnproven => "lease_stop_unproven"
  | .reconcileAmbiguous => "reconcile_ambiguous"
  | .executionStopUnproven => "execution_stop_unproven"

inductive UnknownSource where
  | coordinator
  | cancelConvergence
  | leaseWatchdog
  | reconciler
  deriving DecidableEq, Repr

def UnknownSource.value : UnknownSource → String
  | .coordinator => "coordinator"
  | .cancelConvergence => "cancel_convergence"
  | .leaseWatchdog => "lease_watchdog"
  | .reconciler => "reconciler"

inductive UnknownAdjudicationDecision where
  | confirmStoppedThenRetry
  | acceptDuplicateRiskThenRetry
  | markInfraFailedNoRetry
  | markCompletedFromVerifiedEvidence
  deriving DecidableEq, Repr

def UnknownAdjudicationDecision.value : UnknownAdjudicationDecision → String
  | .confirmStoppedThenRetry => "confirm_stopped_then_retry"
  | .acceptDuplicateRiskThenRetry => "accept_duplicate_risk_then_retry"
  | .markInfraFailedNoRetry => "mark_infra_failed_no_retry"
  | .markCompletedFromVerifiedEvidence => "mark_completed_from_verified_evidence"

def UnknownAdjudicationDecision.permitsRetry : UnknownAdjudicationDecision → Bool
  | .confirmStoppedThenRetry => true
  | .acceptDuplicateRiskThenRetry => true
  | .markInfraFailedNoRetry => false
  | .markCompletedFromVerifiedEvidence => false

structure UnknownObservation.Fields where
  id : Str
  reason : UnknownReason
  source : UnknownSource
  reviewBasisDigest : Digest
  recordedAt : Datetime
  deriving DecidableEq

def UnknownObservation.Fields.postInit (o : UnknownObservation.Fields) : Result Unit := do
  requireNonemptyString "unknown_observation" "id" o.id
  requireUtc "unknown_observation" "recorded_at" o.recordedAt

/-- Frozen review input attached when an Attempt becomes unknown. -/
structure UnknownObservation extends UnknownObservation.Fields where
  accepted : toFields.postInit = .ok ()
  deriving DecidableEq

def UnknownObservation.new : UnknownObservation.Fields → Result UnknownObservation :=
  construct UnknownObservation.Fields.postInit UnknownObservation.mk

/-- Rebuild the immutable observation digest referenced by adjudication. -/
def UnknownObservation.digest (o : UnknownObservation) : Result Digest :=
  canonicalDigest "qep.unknown-observation.v1"
    (.dict [("id", .str o.id), ("reason", .str o.reason.value), ("source", .str o.source.value),
      ("review_basis_digest", .str o.reviewBasisDigest.value),
      ("recorded_at", .str o.recordedAt.isoformat)])

structure UnknownAdjudication.Fields where
  id : Str
  attemptId : Str
  unknownObservationDigest : Digest
  decision : UnknownAdjudicationDecision
  actorId : Str
  reason : Str
  occurredAt : Datetime
  proofDigest : Option Digest
  riskApproverId : Option Str
  riskAcceptanceDigest : Option Digest
  evidenceRootDigest : Option Digest
  supersedesAdjudicationId : Option Str := none
  deriving DecidableEq

/-- Which fields of an adjudication are present, by field name. -/
def UnknownAdjudication.Fields.present (a : UnknownAdjudication.Fields) : String → Bool
  | "proof_digest" => a.proofDigest.isSome
  | "risk_approver_id" => a.riskApproverId.isSome
  | "risk_acceptance_digest" => a.riskAcceptanceDigest.isSome
  | "evidence_root_digest" => a.evidenceRootDigest.isSome
  | _ => false

def UnknownAdjudication.Fields.require (a : UnknownAdjudication.Fields) (field : String) :
    Result Unit :=
  invalidIf (a.present field = false) "unknown_adjudication" field "required_for_decision"

def UnknownAdjudication.Fields.forbidAuthorityBasis (a : UnknownAdjudication.Fields)
    (fields : List String) : Result Unit :=
  each fields fun field =>
    invalidIf (a.present field = true) "unknown_adjudication" field "not_allowed_for_decision"

def UnknownAdjudication.Fields.validateDecision (a : UnknownAdjudication.Fields) : Result Unit :=
  match a.decision with
  | .confirmStoppedThenRetry => do
    a.require "proof_digest"
    a.forbidAuthorityBasis ["risk_approver_id", "risk_acceptance_digest", "evidence_root_digest"]
  | .acceptDuplicateRiskThenRetry => do
    a.require "risk_approver_id"
    a.require "risk_acceptance_digest"
    a.forbidAuthorityBasis ["proof_digest", "evidence_root_digest"]
  | .markInfraFailedNoRetry =>
    a.forbidAuthorityBasis
      ["proof_digest", "risk_approver_id", "risk_acceptance_digest", "evidence_root_digest"]
  | .markCompletedFromVerifiedEvidence => do
    a.require "evidence_root_digest"
    a.forbidAuthorityBasis ["proof_digest", "risk_approver_id", "risk_acceptance_digest"]

def UnknownAdjudication.Fields.postInit (a : UnknownAdjudication.Fields) : Result Unit := do
  requireNonemptyString "unknown_adjudication" "id" a.id
  requireNonemptyString "unknown_adjudication" "attempt_id" a.attemptId
  requireNonemptyString "unknown_adjudication" "actor_id" a.actorId
  requireNonemptyString "unknown_adjudication" "reason" a.reason
  requireUtc "unknown_adjudication" "occurred_at" a.occurredAt
  whenSome a.riskApproverId (requireNonemptyString "unknown_adjudication" "risk_approver_id")
  whenSome a.supersedesAdjudicationId
    (requireNonemptyString "unknown_adjudication" "supersedes_adjudication_id")
  a.validateDecision

/-- Append-only decision; `riskAcceptanceDigest` binds the pre-intent basis. -/
structure UnknownAdjudication extends UnknownAdjudication.Fields where
  accepted : toFields.postInit = .ok ()
  deriving DecidableEq

/-- Bind retry authorization to the complete append-only decision fact. -/
def UnknownAdjudication.digest (a : UnknownAdjudication) : Result Digest :=
  canonicalDigest "qep.unknown-adjudication.v1"
    (.dict [("id", .str a.id), ("attempt_id", .str a.attemptId),
      ("unknown_observation_digest", .str a.unknownObservationDigest.value),
      ("decision", .str a.decision.value), ("actor_id", .str a.actorId),
      ("reason", .str a.reason), ("occurred_at", .str a.occurredAt.isoformat),
      ("proof_digest", optionalDigestValue a.proofDigest),
      ("risk_approver_id", optionalString a.riskApproverId),
      ("risk_acceptance_digest", optionalDigestValue a.riskAcceptanceDigest),
      ("evidence_root_digest", optionalDigestValue a.evidenceRootDigest),
      ("supersedes_adjudication_id", optionalString a.supersedesAdjudicationId)])

end QaRunner
