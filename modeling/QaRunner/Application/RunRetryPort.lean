import QaRunner.Application.FinalizeRun
import QaRunner.Domain.DuplicateRiskAcceptance
import QaRunner.Domain.Run
import QaRunner.Domain.RunRetryDecision

/-! The port through which retries of a Run are queued: what it is given to publish, and the
receipt that a start of the retry is committed against. -/
namespace QaRunner
open Guarded Interleaving PublishOnce

/-- Scope and key under which a command is published once. -/
abbrev RunRetryIdentityScope := Str × Str

/-- Both parts are there. -/
def Port.identityScope (entity field : String) (scope : RunRetryIdentityScope) : Port Unit :=
  Port.invalidIf (scope.1 = "" ∨ scope.2 = "") entity field "invalid"

structure RunRetryWriteAuthority.Fields where
  runId : Str
  writerDigest : Digest
  policyDigest : Digest
  authoritySchema : Str
  authorityId : Str
  authorityVersion : ℤ
  authorityDigest : Digest
  writeEpoch : ℤ
  deriving DecidableEq

def RunRetryWriteAuthority.Fields.postInit (a : RunRetryWriteAuthority.Fields) : Port Unit := do
  Port.string "run_retry_write_authority" "run_id" a.runId
  Port.string "run_retry_write_authority" "authority_schema" a.authoritySchema
  Port.string "run_retry_write_authority" "authority_id" a.authorityId
  Port.positive "run_retry_write_authority" "authority_version" a.authorityVersion
  Port.positive "run_retry_write_authority" "write_epoch" a.writeEpoch

/-- The policy authority under which a retry of the Run may be written. -/
structure RunRetryWriteAuthority extends RunRetryWriteAuthority.Fields where
  accepted : toFields.postInit = .ok ()
  deriving DecidableEq

structure UnknownRetryWriteAuthority.Fields where
  runId : Str
  attemptId : Str
  attemptVersion : ℤ
  attemptFence : ℤ
  adjudicationId : Str
  adjudicationDigest : Digest
  decision : UnknownAdjudicationDecision
  proofDigest : Option Digest
  riskAcceptanceBasisDigest : Option Digest
  writerDigest : Digest
  writeEpoch : ℤ
  deriving DecidableEq

/-- The proof or the basis that the decision rests on, and not the other. -/
def UnknownRetryWriteAuthority.Fields.validateDecision (a : UnknownRetryWriteAuthority.Fields) :
    Port Unit := do
  let entity := "unknown_retry_write_authority"
  match a.decision with
  | .confirmStoppedThenRetry => do
    Port.invalidIf a.proofDigest.isNone entity "proof_digest" "not_digest"
    Port.invalidIf a.riskAcceptanceBasisDigest.isSome entity "risk_acceptance_basis_digest"
      "forbidden"
  | .acceptDuplicateRiskThenRetry => do
    Port.invalidIf a.riskAcceptanceBasisDigest.isNone entity "risk_acceptance_basis_digest"
      "not_digest"
    Port.invalidIf a.proofDigest.isSome entity "proof_digest" "forbidden"
  | _ => throw (.portContract entity "decision" "nonretry")

def UnknownRetryWriteAuthority.Fields.postInit (a : UnknownRetryWriteAuthority.Fields) :
    Port Unit := do
  Port.string "unknown_retry_write_authority" "run_id" a.runId
  Port.string "unknown_retry_write_authority" "attempt_id" a.attemptId
  Port.string "unknown_retry_write_authority" "adjudication_id" a.adjudicationId
  Port.nonnegative "unknown_retry_write_authority" "attempt_version" a.attemptVersion
  Port.positive "unknown_retry_write_authority" "attempt_fence" a.attemptFence
  a.validateDecision
  Port.positive "unknown_retry_write_authority" "write_epoch" a.writeEpoch

/-- The adjudication of the latest Attempt under which a retry of the Run may be written. -/
structure UnknownRetryWriteAuthority extends UnknownRetryWriteAuthority.Fields where
  accepted : toFields.postInit = .ok ()
  deriving DecidableEq

structure RunRetryMutationSnapshot.Fields where
  run : Run
  attemptVersion : ℤ
  deriving DecidableEq

def RunRetryMutationSnapshot.Fields.postInit (s : RunRetryMutationSnapshot.Fields) : Port Unit :=
  Port.nonnegative "run_retry_mutation_snapshot" "attempt_version" s.attemptVersion

structure RunRetryMutationSnapshot extends RunRetryMutationSnapshot.Fields where
  accepted : toFields.postInit = .ok ()

structure UnknownRetryMutationBinding.Fields where
  runItemSetDigest : Digest
  sutIdentity : Str
  sutDigest : Digest
  targetGrantIdentity : Str
  targetGrantVersion : ℤ
  targetGrantDigest : Digest
  deriving DecidableEq

def UnknownRetryMutationBinding.Fields.postInit (b : UnknownRetryMutationBinding.Fields) :
    Port Unit := do
  Port.string "unknown_retry_mutation_binding" "sut_identity" b.sutIdentity
  Port.string "unknown_retry_mutation_binding" "target_grant_identity" b.targetGrantIdentity
  Port.positive "unknown_retry_mutation_binding" "target_grant_version" b.targetGrantVersion

/-- The environment that an acceptance of a duplicate risk is bound to. -/
structure UnknownRetryMutationBinding extends UnknownRetryMutationBinding.Fields where
  accepted : toFields.postInit = .ok ()
  deriving DecidableEq

structure UnknownRetryMutationSnapshot.Fields where
  run : Run
  attemptVersion : ℤ
  binding : UnknownRetryMutationBinding
  deriving DecidableEq

def UnknownRetryMutationSnapshot.Fields.postInit (s : UnknownRetryMutationSnapshot.Fields) :
    Port Unit :=
  Port.nonnegative "unknown_retry_mutation_snapshot" "attempt_version" s.attemptVersion

structure UnknownRetryMutationSnapshot extends UnknownRetryMutationSnapshot.Fields where
  accepted : toFields.postInit = .ok ()

structure RetryBudgetReservation where
  retryIntentDigest : Digest
  decisionDigest : Digest
  configured : RetryBudget
  usage : RetryBudgetUsage
  requested : RetryRequestedBudget
  deriving DecidableEq

def RetryBudgetReservation.fromDecision (decision : RunRetryDecision.Record) :
    Raises RetryBudgetReservation := do
  let retryIntentDigest ← need decision.retryIntentDigest
    (.problem (.portContract "retry_budget_reservation" "decision" "closed_no_retry"))
  let decisionDigest ← Raises.domain decision.decisionDigest
  return {
    retryIntentDigest := retryIntentDigest
    decisionDigest := decisionDigest
    configured := decision.budget
    usage := decision.usage
    requested := decision.requested }

structure RunRetryProjection where
  run : Run
  decisionDigest : Digest
  retryIntentDigest : Option Digest

structure RunRetrySideEffect.Fields where
  runId : Str
  decisionDigest : Digest
  retryIntentDigest : Option Digest
  deriving DecidableEq

def RunRetrySideEffect.Fields.postInit (e : RunRetrySideEffect.Fields) : Port Unit :=
  Port.string "run_retry_side_effect" "run_id" e.runId

structure RunRetrySideEffect extends RunRetrySideEffect.Fields where
  accepted : toFields.postInit = .ok ()
  deriving DecidableEq

def RunRetrySideEffect.new : RunRetrySideEffect.Fields → Port RunRetrySideEffect :=
  construct Fields.postInit RunRetrySideEffect.mk

/-- The decision goes with a duplicate-risk acceptance. -/
def UnknownAdjudicationDecision.acceptsDuplicate (d : UnknownAdjudicationDecision) : Bool :=
  d = .acceptDuplicateRiskThenRetry

structure RetryQueueReceipt.Fields where
  intent : RetryIntent
  reservation : Option RetryBudgetReservation
  duplicateAcceptanceConsumption : Option DuplicateRiskAcceptanceConsumption
  queueDecisionDigest : Digest
  queueIdentityScope : RunRetryIdentityScope
  queuedRunVersion : ℤ
  queueWriterDigest : Digest
  queueWriteEpoch : ℤ
  deriving DecidableEq

namespace RetryQueueReceipt.Fields

/-- A policy retry reserves its budget; an adjudicated one consumes an acceptance instead, when
its decision goes with one. -/
def validateAuthority (r : Fields) : Raises Unit := do
  let entity := "retry_queue_receipt"
  match r.intent.authority with
  | .unknownAdjudication authority =>
    Raises.port do
      Port.invalidIf r.reservation.isSome entity "reservation" "forbidden"
      Port.invalidIf (authority.decision.acceptsDuplicate ≠ r.duplicateAcceptanceConsumption.isSome)
        entity "duplicate_acceptance_consumption" "decision_mismatch"
  | .policy _ => do
    let reservation ← need r.reservation (.problem (.portContract entity "reservation" "required"))
    Raises.port (Port.invalidIf r.duplicateAcceptanceConsumption.isSome entity
      "duplicate_acceptance_consumption" "forbidden")
    let intentDigest ← Raises.domain r.intent.digest
    Raises.port (Port.invalidIf (reservation.retryIntentDigest ≠ intentDigest) entity "reservation"
      "binding_mismatch")
    Raises.port (Port.invalidIf (reservation.decisionDigest ≠ r.queueDecisionDigest) entity
      "queue_decision_digest" "binding_mismatch")

def postInit (r : Fields) : Raises Unit := do
  Raises.port do
    Port.identityScope "retry_queue_receipt" "queue_identity_scope" r.queueIdentityScope
    Port.nonnegative "retry_queue_receipt" "queued_run_version" r.queuedRunVersion
    Port.positive "retry_queue_receipt" "queue_write_epoch" r.queueWriteEpoch
  r.validateAuthority

end RetryQueueReceipt.Fields

/-- Durable proof that a retry was queued. -/
structure RetryQueueReceipt extends RetryQueueReceipt.Fields where
  accepted : toFields.postInit = .ok ()
  deriving DecidableEq

def RetryQueueReceipt.new : RetryQueueReceipt.Fields → Raises RetryQueueReceipt :=
  construct Fields.postInit RetryQueueReceipt.mk

def RetryQueueReceipt.digest (r : RetryQueueReceipt) : Result Digest := do
  let intentDigest ← r.intent.digest
  let consumptionDigest ← match r.duplicateAcceptanceConsumption with
    | some consumption => some <$> consumption.digest
    | none => pure none
  canonicalDigest "qep.retry-queue-receipt.v1"
    (.dict [("intent_digest", .str intentDigest.value),
      ("queue_identity_scope",
        .list [.str r.queueIdentityScope.1, .str r.queueIdentityScope.2]),
      ("queued_run_version", .int r.queuedRunVersion),
      ("queue_writer_digest", .str r.queueWriterDigest.value),
      ("queue_write_epoch", .int r.queueWriteEpoch),
      ("queue_decision_digest", .str r.queueDecisionDigest.value),
      ("reservation_decision_digest", optionalDigestValue (r.reservation.map (·.decisionDigest))),
      ("consumption_digest", optionalDigestValue consumptionDigest)])

structure RetryQueuePublicationResult.Fields where
  projection : RunRetryProjection
  receipt : Option RetryQueueReceipt

def RetryQueuePublicationResult.Fields.postInit (r : RetryQueuePublicationResult.Fields) :
    Port Unit :=
  Port.invalidIf (r.projection.retryIntentDigest.isSome ≠ r.receipt.isSome)
    "retry_queue_publication_result" "receipt" "decision_mismatch"

structure RetryQueuePublicationResult extends RetryQueuePublicationResult.Fields where
  accepted : toFields.postInit = .ok ()

def RetryQueuePublicationResult.new :
    RetryQueuePublicationResult.Fields → Port RetryQueuePublicationResult :=
  construct Fields.postInit RetryQueuePublicationResult.mk

structure RunRetryPublication.Fields where
  identityScope : RunRetryIdentityScope
  authority : RunRetryWriteAuthority
  expectedSnapshot : RunRetryMutationSnapshot
  intent : Option RetryIntent
  decision : RunRetryDecision.Record
  projection : RunRetryProjection
  reservation : Option RetryBudgetReservation
  sideEffect : RunRetrySideEffect

/-- The digest of an optional intent. -/
def optionalIntentDigest (intent : Option RetryIntent) : Result (Option Digest) :=
  match intent with
  | some intent => some <$> intent.digest
  | none => .ok none

/-- The authority is the one that the decision was taken under. -/
def RunRetryWriteAuthority.Grants (a : RunRetryWriteAuthority) (d : RunRetryDecision) : Prop :=
  some a.policyDigest = d.policyDigest ∧ some a.authoritySchema = d.authoritySchema ∧
    some a.authorityId = d.authorityId ∧ some a.authorityVersion = d.authorityVersion ∧
    some a.authorityDigest = d.authorityDigest

instance (a : RunRetryWriteAuthority) (d : RunRetryDecision) : Decidable (a.Grants d) :=
  inferInstanceAs (Decidable (_ ∧ _))

namespace RunRetryPublication.Fields

/-- The parts are not of one decision about one Run. -/
def bindingMismatch (p : Fields) (intentDigest : Option Digest) : Raises Bool :=
  anyOf [.ok (decide (p.authority.runId ≠ p.decision.source.runId ∨
      ¬ p.authority.Grants p.decision.toRunRetryDecision ∨
      p.expectedSnapshot.run.id ≠ p.decision.source.runId ∨
      intentDigest ≠ p.decision.retryIntentDigest ∨
      p.projection.run.id ≠ p.decision.source.runId)),
    differs p.projection.decisionDigest (Raises.domain p.decision.decisionDigest),
    .ok (decide (p.projection.retryIntentDigest ≠ intentDigest ∨
      ∃ reservation ∈ p.reservation, some reservation.retryIntentDigest ≠ intentDigest)),
    match p.reservation with
    | some reservation =>
      differs reservation.decisionDigest (Raises.domain p.decision.decisionDigest)
    | none => .ok false,
    .ok (decide ((∃ reservation ∈ p.reservation, reservation.configured ≠ p.decision.budget ∨
        reservation.usage ≠ p.decision.usage ∨ reservation.requested ≠ p.decision.requested) ∨
      p.sideEffect.runId ≠ p.decision.source.runId)),
    differs p.sideEffect.decisionDigest (Raises.domain p.decision.decisionDigest),
    .ok (decide (p.sideEffect.retryIntentDigest ≠ intentDigest))]

def postInit (p : Fields) : Raises Unit := do
  let entity := "run_retry_publication"
  Raises.port (Port.identityScope entity "identity_scope" p.identityScope)
  Raises.port (Port.invalidIf ((p.decision.decision = .retry) ≠ (p.intent.isSome = true) ∨
    (p.decision.decision = .retry) ≠ (p.reservation.isSome = true)) entity "participants"
    "decision_mismatch")
  let intentDigest ← Raises.domain (optionalIntentDigest p.intent)
  let mismatch ← p.bindingMismatch intentDigest
  Raises.port (Port.invalidIf (mismatch = true) entity "binding" "mismatch")

end RunRetryPublication.Fields

/-- A policy decision about a Run, with the retry and the budget it grants. -/
structure RunRetryPublication extends RunRetryPublication.Fields where
  accepted : toFields.postInit = .ok ()

def RunRetryPublication.new : RunRetryPublication.Fields → Raises RunRetryPublication :=
  construct Fields.postInit RunRetryPublication.mk

structure UnknownRetryPublication.Fields where
  identityScope : RunRetryIdentityScope
  authority : UnknownRetryWriteAuthority
  expectedSnapshot : UnknownRetryMutationSnapshot
  intent : RetryIntent
  projection : RunRetryProjection
  acceptanceRequest : Option DuplicateRiskAcceptanceRequest
  sideEffect : RunRetrySideEffect

/-- The authority is the adjudication that the intent was made from. -/
def UnknownRetryWriteAuthority.Grants (a : UnknownRetryWriteAuthority) (i : RetryIntent) : Prop :=
  a.attemptId = i.sourceAttemptId ∧ a.attemptFence = i.sourceFence ∧
    a.adjudicationId = i.adjudicationId ∧ some a.adjudicationDigest = i.adjudicationDigest ∧
    some a.decision = i.decision

instance (a : UnknownRetryWriteAuthority) (i : RetryIntent) : Decidable (a.Grants i) :=
  inferInstanceAs (Decidable (_ ∧ _))

namespace UnknownRetryPublication.Fields

/-- The acceptance is not of this retry in this environment. -/
def acceptanceMismatch (p : Fields) (request : DuplicateRiskAcceptanceRequest) : Raises Bool :=
  let basis := request.acceptance.basis
  let binding := p.expectedSnapshot.binding
  anyOf [do
      let basisDigest ← Raises.domain basis.digest
      return decide (p.authority.riskAcceptanceBasisDigest ≠ some basisDigest),
    differs request.acceptance.retryIntentDigest (Raises.domain p.intent.digest),
    .ok (decide (basis.runId ≠ p.intent.runId ∨ basis.sourceAttemptId ≠ p.intent.sourceAttemptId ∨
      basis.sourceAttemptNo ≠ p.intent.sourceAttemptNo ∨
      basis.sourceFence ≠ p.intent.sourceFence ∨
      basis.runItemSetDigest ≠ binding.runItemSetDigest ∨
      basis.sutIdentity ≠ binding.sutIdentity ∨ basis.sutDigest ≠ binding.sutDigest ∨
      basis.targetGrantIdentity ≠ binding.targetGrantIdentity ∨
      basis.targetGrantVersion ≠ binding.targetGrantVersion ∨
      basis.targetGrantDigest ≠ binding.targetGrantDigest))]

/-- The parts are not of one adjudicated retry of one Run. -/
def bindingMismatch (p : Fields) : Raises Bool :=
  anyOf [.ok (decide (p.authority.runId ≠ p.intent.runId ∨ ¬ p.authority.Grants p.intent ∨
      p.authority.attemptVersion ≠ p.expectedSnapshot.attemptVersion ∨
      p.expectedSnapshot.run.id ≠ p.intent.runId ∨ p.projection.run.id ≠ p.intent.runId)),
    do
      let intentDigest ← Raises.domain p.intent.digest
      return decide (p.projection.retryIntentDigest ≠ some intentDigest),
    .ok (decide (p.projection.decisionDigest ≠ p.authority.adjudicationDigest)),
    do
      let intentDigest ← Raises.domain p.intent.digest
      return decide (p.sideEffect.toFields ≠
        ⟨p.intent.runId, p.authority.adjudicationDigest, some intentDigest⟩)]

def postInit (p : Fields) : Raises Unit := do
  let entity := "unknown_retry_publication"
  Raises.port (Port.identityScope entity "identity_scope" p.identityScope)
  Raises.port (Port.invalidIf p.intent.adjudicationDigest.isNone entity "intent" "not_unknown")
  Raises.port (Port.invalidIf
    (p.authority.decision.acceptsDuplicate ≠ p.acceptanceRequest.isSome) entity
    "acceptance_request" "decision_mismatch")
  whenSome p.acceptanceRequest fun request => do
    let mismatch ← p.acceptanceMismatch request
    Raises.port (Port.invalidIf (mismatch = true) entity "acceptance_binding" "mismatch")
  let mismatch ← p.bindingMismatch
  Raises.port (Port.invalidIf (mismatch = true) entity "binding" "mismatch")

end UnknownRetryPublication.Fields

/-- An adjudicated retry of a Run, with the acceptance it consumes. -/
structure UnknownRetryPublication extends UnknownRetryPublication.Fields where
  accepted : toFields.postInit = .ok ()

def UnknownRetryPublication.new :
    UnknownRetryPublication.Fields → Raises UnknownRetryPublication :=
  construct Fields.postInit UnknownRetryPublication.mk

inductive RetryPublication where
  | policy (publication : RunRetryPublication)
  | unknown (publication : UnknownRetryPublication)

/-- Authorize, lock and atomically publish one queued retry. -/
structure RunRetryGateway (σ : Type) where
  requireRetryAuthority : (runId : Str) → σ → Raises RunRetryWriteAuthority
  requireUnknownRetryAuthority : (runId : Str) → σ → Raises UnknownRetryWriteAuthority
  lookupStored : RunRetryIdentityScope → σ → Raises (Option RetryQueuePublicationResult)
  getMutationSnapshotForUpdate : (runId : Str) → σ → Raises RunRetryMutationSnapshot
  getUnknownMutationSnapshotForUpdate : (runId : Str) → σ → Raises UnknownRetryMutationSnapshot
  publishRetry : RetryPublication → σ → Raises (ReplayResult RetryQueuePublicationResult × σ)

end QaRunner
