import QaRunner.Application.FinalizeRun
import QaRunner.Domain.BatchFinalizationBasis

/-! The handler that finalizes a Batch, and the port through which it publishes the basis. -/
namespace QaRunner
open Guarded Interleaving PublishOnce

structure BatchFinalizationSourceSnapshot.Fields where
  batchId : Str
  sourceBatchVersion : ℤ
  manifestId : Str
  manifestDigest : Digest
  itemCount : ℤ
  shardPlanId : Str
  shardPlanVersion : ℤ
  shardPlanDigest : Digest
  canonicalRunSetDigest : Digest
  successPolicyId : Str
  successPolicyVersion : ℤ
  successPolicyDigest : Digest
  batchItemResolutionSetDigest : Digest
  completenessProofDigest : Digest
  batchCancellationIntentDigest : Option Digest
  terminalRunRefs : List BatchTerminalRunRef
  nonRunRefs : List BatchNonRunResolutionRef
  unknownFactRefs : List BatchUnknownFactRef
  deriving DecidableEq

def BatchFinalizationSourceSnapshot.Fields.postInit
    (s : BatchFinalizationSourceSnapshot.Fields) : Port Unit := do
  let entity := "batch_finalization_source_snapshot"
  each [("batch_id", s.batchId), ("manifest_id", s.manifestId), ("shard_plan_id", s.shardPlanId),
    ("success_policy_id", s.successPolicyId)] fun f => Port.string entity f.1 f.2
  each [("source_batch_version", s.sourceBatchVersion),
    ("shard_plan_version", s.shardPlanVersion)] fun f => Port.nonnegative entity f.1 f.2
  Port.positive entity "item_count" s.itemCount
  Port.positive entity "success_policy_version" s.successPolicyVersion

/-- Frozen authority inputs that a candidate basis must match. -/
structure BatchFinalizationSourceSnapshot extends BatchFinalizationSourceSnapshot.Fields where
  accepted : toFields.postInit = .ok ()
  deriving DecidableEq

namespace BatchFinalizationSourceSnapshot

def new : Fields → Port BatchFinalizationSourceSnapshot :=
  construct Fields.postInit BatchFinalizationSourceSnapshot.mk

def fromBasis (basis : BatchFinalizationBasis) : Raises BatchFinalizationSourceSnapshot := do
  let policyDigest ← Raises.domain basis.policy.policyDigest
  let setDigest ← Raises.domain basis.resolutionSet.resolutionSetDigest
  let proofDigest ← Raises.domain basis.completenessProofDigest
  Raises.port (new {
    batchId := basis.resolutionSet.batchId
    sourceBatchVersion := basis.resolutionSet.sourceBatchVersion
    manifestId := basis.resolutionSet.manifestId
    manifestDigest := basis.resolutionSet.manifestDigest
    itemCount := basis.counts.originalDenominator
    shardPlanId := basis.resolutionSet.shardPlanId
    shardPlanVersion := basis.resolutionSet.shardPlanVersion
    shardPlanDigest := basis.resolutionSet.shardPlanDigest
    canonicalRunSetDigest := basis.resolutionSet.canonicalRunSetDigest
    successPolicyId := basis.policy.policyId
    successPolicyVersion := basis.policy.policyVersion
    successPolicyDigest := policyDigest
    batchItemResolutionSetDigest := setDigest
    completenessProofDigest := proofDigest
    batchCancellationIntentDigest := basis.batchCancellationIntentDigest
    terminalRunRefs := basis.terminalRunRefs
    nonRunRefs := basis.nonRunRefs
    unknownFactRefs := basis.unknownFactRefs })

end BatchFinalizationSourceSnapshot

structure FinalizeBatchAuthority.Fields where
  sourceSnapshot : BatchFinalizationSourceSnapshot
  authorityDigest : Digest
  writeEpoch : ℤ
  deriving DecidableEq

def FinalizeBatchAuthority.Fields.postInit (a : FinalizeBatchAuthority.Fields) : Port Unit :=
  Port.positive "finalize_batch_authority" "write_epoch" a.writeEpoch

/-- Current single-writer authority for one frozen Batch source snapshot. -/
structure FinalizeBatchAuthority extends FinalizeBatchAuthority.Fields where
  accepted : toFields.postInit = .ok ()
  deriving DecidableEq

namespace FinalizeBatchAuthority

def batchId (a : FinalizeBatchAuthority) : Str := a.sourceSnapshot.batchId

def sourceBatchVersion (a : FinalizeBatchAuthority) : ℤ := a.sourceSnapshot.sourceBatchVersion

def identityScope (a : FinalizeBatchAuthority) : IdentityScope :=
  ⟨"qep.batch-finalization-basis.v1", a.batchId, a.sourceBatchVersion⟩

end FinalizeBatchAuthority

/-- The outcomes of a Batch that was executed. -/
def BatchState.ExecutionTerminal (s : BatchState) : Prop :=
  s ∈ [BatchState.succeeded, .failed, .partialOutcome, .cancelled]

instance (s : BatchState) : Decidable s.ExecutionTerminal :=
  inferInstanceAs (Decidable (_ ∈ _))

structure BatchFinalizationProjection.Fields where
  batchId : Str
  sourceBatchVersion : ℤ
  batchVersion : ℤ
  outcome : BatchState
  basisDigest : Digest
  deriving DecidableEq

def BatchFinalizationProjection.Fields.postInit (p : BatchFinalizationProjection.Fields) :
    Port Unit := do
  let entity := "batch_finalization_projection"
  Port.string entity "batch_id" p.batchId
  Port.nonnegative entity "source_batch_version" p.sourceBatchVersion
  Port.positive entity "batch_version" p.batchVersion
  Port.invalidIf (¬ p.outcome.ExecutionTerminal) entity "outcome" "not_execution_terminal"

/-- Persisted Batch terminal projection returned by first write and replay. -/
structure BatchFinalizationProjection extends BatchFinalizationProjection.Fields where
  accepted : toFields.postInit = .ok ()
  deriving DecidableEq

namespace BatchFinalizationProjection

def new : Fields → Port BatchFinalizationProjection :=
  construct Fields.postInit BatchFinalizationProjection.mk

theorem new_eq_ok {f : Fields} {p : BatchFinalizationProjection} :
    new f = .ok p ↔ p.toFields = f := by
  simp only [new, construct_eq_ok]
  constructor
  · rintro ⟨_, rfl⟩
    rfl
  · rintro rfl
    exact ⟨p.accepted, rfl⟩

end BatchFinalizationProjection

structure BatchFinalizationMutationSnapshot.Fields where
  batchId : Str
  batchVersion : ℤ
  state : BatchState
  sourceSnapshot : BatchFinalizationSourceSnapshot
  deriving DecidableEq

def BatchFinalizationMutationSnapshot.Fields.postInit
    (s : BatchFinalizationMutationSnapshot.Fields) : Port Unit := do
  let entity := "batch_finalization_mutation_snapshot"
  Port.string entity "batch_id" s.batchId
  Port.nonnegative entity "batch_version" s.batchVersion
  Port.invalidIf (s.state ≠ .finalizing) entity "state" "not_finalizing"
  Port.invalidIf (s.batchId ≠ s.sourceSnapshot.batchId) entity "batch_id" "source_mismatch"
  Port.invalidIf (s.batchVersion ≠ s.sourceSnapshot.sourceBatchVersion) entity "batch_version"
    "source_version_mismatch"

/-- Locked Batch version, read only after the stored replay lookup misses. -/
structure BatchFinalizationMutationSnapshot extends BatchFinalizationMutationSnapshot.Fields where
  accepted : toFields.postInit = .ok ()
  deriving DecidableEq

def BatchFinalizationMutationSnapshot.new :
    BatchFinalizationMutationSnapshot.Fields → Port BatchFinalizationMutationSnapshot :=
  construct Fields.postInit BatchFinalizationMutationSnapshot.mk

structure BatchFinalizationSideEffect.Fields where
  batchId : Str
  basisDigest : Digest
  outcome : BatchState
  deriving DecidableEq

def BatchFinalizationSideEffect.Fields.postInit (e : BatchFinalizationSideEffect.Fields) :
    Port Unit := do
  Port.string "batch_finalization_side_effect" "batch_id" e.batchId
  Port.invalidIf (¬ e.outcome.ExecutionTerminal) "batch_finalization_side_effect" "outcome"
    "not_execution_terminal"

/-- Semantic identity shared by terminal audit and outbox publication. -/
structure BatchFinalizationSideEffect extends BatchFinalizationSideEffect.Fields where
  accepted : toFields.postInit = .ok ()
  deriving DecidableEq

def BatchFinalizationSideEffect.new :
    BatchFinalizationSideEffect.Fields → Port BatchFinalizationSideEffect :=
  construct Fields.postInit BatchFinalizationSideEffect.mk

structure BatchFinalizationPublication.Fields where
  authority : FinalizeBatchAuthority
  expectedSnapshot : BatchFinalizationMutationSnapshot
  basis : BatchFinalizationBasis
  projection : BatchFinalizationProjection
  sideEffect : BatchFinalizationSideEffect
  deriving DecidableEq

namespace BatchFinalizationPublication.Fields

/-- The parts are not of one finalizing Batch. -/
def bindingMismatch (p : Fields) : Raises Bool :=
  let set := p.basis.resolutionSet
  anyOf [.ok (decide (p.authority.batchId ≠ set.batchId ∨
      p.authority.sourceBatchVersion ≠ set.sourceBatchVersion)),
    differs p.authority.sourceSnapshot (BatchFinalizationSourceSnapshot.fromBasis p.basis),
    .ok (decide (p.expectedSnapshot.batchId ≠ set.batchId ∨
      p.expectedSnapshot.sourceSnapshot ≠ p.authority.sourceSnapshot ∨
      p.projection.batchId ≠ set.batchId ∨
      p.projection.sourceBatchVersion ≠ set.sourceBatchVersion ∨
      p.projection.batchVersion ≠ p.expectedSnapshot.batchVersion + 1 ∨
      p.projection.outcome ≠ p.basis.batchOutcome)),
    differs p.projection.basisDigest (Raises.domain p.basis.basisDigest),
    .ok (decide (p.sideEffect.batchId ≠ set.batchId)),
    differs p.sideEffect.basisDigest (Raises.domain p.basis.basisDigest),
    .ok (decide (p.sideEffect.outcome ≠ p.basis.batchOutcome))]

def postInit (p : Fields) : Raises Unit := do
  let mismatch ← p.bindingMismatch
  Raises.port (Port.invalidIf (mismatch = true) "batch_finalization_publication" "binding"
    "mismatch")

end BatchFinalizationPublication.Fields

/-- One atomic Batch basis, terminal projection, audit and outbox write. -/
structure BatchFinalizationPublication extends BatchFinalizationPublication.Fields where
  accepted : toFields.postInit = .ok ()
  deriving DecidableEq

def BatchFinalizationPublication.new :
    BatchFinalizationPublication.Fields → Raises BatchFinalizationPublication :=
  construct Fields.postInit BatchFinalizationPublication.mk

structure BatchFinalizationGateway (σ : Type) where
  requireFinalizationAuthority : (batchId : Str) → σ → Raises FinalizeBatchAuthority
  lookupStored : IdentityScope → σ → Raises (Option BatchFinalizationProjection)
  getMutationSnapshotForUpdate : (batchId : Str) → σ →
    Raises BatchFinalizationMutationSnapshot
  publishFinalization : BatchFinalizationPublication → σ →
    Raises (ReplayResult BatchFinalizationProjection × σ)

structure FinalizeBatchCommand.Fields where
  candidateBasis : BatchFinalizationBasis
  expectedBatchVersion : ℤ
  deriving DecidableEq

def FinalizeBatchCommand.Fields.postInit (c : FinalizeBatchCommand.Fields) : Result Unit :=
  invalidIf (c.expectedBatchVersion < 0) "finalize_batch_command" "expected_batch_version"
    "invalid"

/-- A basis and the Batch version it is published over. -/
structure FinalizeBatchCommand extends FinalizeBatchCommand.Fields where
  accepted : toFields.postInit = .ok ()
  deriving DecidableEq

structure FinalizeBatchResult where
  projection : BatchFinalizationProjection
  replayed : Bool
  deriving DecidableEq

namespace FinalizeBatch

variable {σ : Type} (gateway : BatchFinalizationGateway σ) (command : FinalizeBatchCommand)

def batchId : Str := command.candidateBasis.resolutionSet.batchId

/-- The authority is for the source snapshot that the basis was made from. -/
def requireSource (authority : FinalizeBatchAuthority) : Raises Unit := do
  let source ← BatchFinalizationSourceSnapshot.fromBasis command.candidateBasis
  Raises.refuseIf (authority.sourceSnapshot ≠ source)
    (.domainValidation "finalize_batch" "source_snapshot" "authority_mismatch")

def replay (stored : BatchFinalizationProjection) : Raises FinalizeBatchResult := do
  let basis := command.candidateBasis
  let digest ← Raises.domain basis.basisDigest
  Raises.refuseIf (stored.basisDigest ≠ digest)
    (.idempotencyConflict ("batch:" ++ basis.resolutionSet.batchId ++ ":finalization")
      (toString basis.resolutionSet.sourceBatchVersion) stored.basisDigest.value digest.value)
  return ⟨stored, true⟩

def prepare (authority : FinalizeBatchAuthority) (snapshot : BatchFinalizationMutationSnapshot) :
    Raises BatchFinalizationPublication := do
  let basis := command.candidateBasis
  Raises.refuseIf (snapshot.batchVersion ≠ command.expectedBatchVersion)
    (.versionConflict "batch" (batchId command) snapshot.batchVersion
      command.expectedBatchVersion)
  Raises.refuseIf (snapshot.sourceSnapshot ≠ authority.sourceSnapshot)
    (.domainValidation "finalize_batch" "source_snapshot" "locked_snapshot_drift")
  let digest ← Raises.domain basis.basisDigest
  let projection ← Raises.port (BatchFinalizationProjection.new {
    batchId := batchId command
    sourceBatchVersion := basis.resolutionSet.sourceBatchVersion
    batchVersion := snapshot.batchVersion + 1
    outcome := basis.batchOutcome
    basisDigest := digest })
  let sideEffect ← Raises.port
    (BatchFinalizationSideEffect.new ⟨batchId command, digest, basis.batchOutcome⟩)
  BatchFinalizationPublication.new {
    authority := authority
    expectedSnapshot := snapshot
    basis := basis
    projection := projection
    sideEffect := sideEffect }

def handler : Handler σ Raised FinalizeBatchAuthority BatchFinalizationProjection
    BatchFinalizationProjection BatchFinalizationMutationSnapshot BatchFinalizationPublication
    FinalizeBatchResult where
  require := do
    let authority ← .read (gateway.requireFinalizationAuthority (batchId command))
    .lift (requireSource command authority)
    return authority
  lookup authority := gateway.lookupStored authority.identityScope
  replay _ := replay command
  lock _ := gateway.getMutationSnapshotForUpdate (batchId command)
  prepare := prepare command
  publish := gateway.publishFinalization
  finish result := ⟨result.value, result.replayed⟩

def execute : Prog σ Raised FinalizeBatchResult := (handler gateway command).execute

end FinalizeBatch

end QaRunner
