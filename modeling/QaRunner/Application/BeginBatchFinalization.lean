import QaRunner.Application.FinalizeBatch

/-! The handler that lets a ready Batch start to finalize. -/
namespace QaRunner
open Guarded Interleaving PublishOnce

structure BatchFinalizationReadinessAuthority.Fields where
  snapshot : BatchFinalizationReadinessSnapshot
  authorityDigest : Digest
  writeEpoch : ℤ
  deriving DecidableEq

def BatchFinalizationReadinessAuthority.Fields.postInit
    (a : BatchFinalizationReadinessAuthority.Fields) : Port Unit :=
  Port.positive "batch_finalization_readiness_authority" "write_epoch" a.writeEpoch

structure BatchFinalizationReadinessAuthority extends
    BatchFinalizationReadinessAuthority.Fields where
  accepted : toFields.postInit = .ok ()
  deriving DecidableEq

def BatchFinalizationReadinessAuthority.identityScope (a : BatchFinalizationReadinessAuthority) :
    IdentityScope :=
  ⟨"qep.batch-finalization-readiness.v1", a.snapshot.batchId, a.snapshot.sourceBatchVersion⟩

structure BatchFinalizationReadinessProjection.Fields where
  batchId : Str
  sourceBatchVersion : ℤ
  batchVersion : ℤ
  state : BatchState
  readinessDigest : Digest
  deriving DecidableEq

def BatchFinalizationReadinessProjection.Fields.postInit
    (p : BatchFinalizationReadinessProjection.Fields) : Port Unit := do
  let entity := "batch_finalization_readiness_projection"
  Port.string entity "batch_id" p.batchId
  Port.nonnegative entity "source_batch_version" p.sourceBatchVersion
  Port.positive entity "batch_version" p.batchVersion
  Port.invalidIf (p.state ≠ .finalizing) entity "state" "not_finalizing"

structure BatchFinalizationReadinessProjection extends
    BatchFinalizationReadinessProjection.Fields where
  accepted : toFields.postInit = .ok ()
  deriving DecidableEq

namespace BatchFinalizationReadinessProjection

def new : Fields → Port BatchFinalizationReadinessProjection :=
  construct Fields.postInit BatchFinalizationReadinessProjection.mk

theorem new_eq_ok {f : Fields} {p : BatchFinalizationReadinessProjection} :
    new f = .ok p ↔ p.toFields = f := by
  simp only [new, construct_eq_ok]
  constructor
  · rintro ⟨_, rfl⟩
    rfl
  · rintro rfl
    exact ⟨p.accepted, rfl⟩

end BatchFinalizationReadinessProjection

structure BatchFinalizationReadinessMutationSnapshot.Fields where
  batchId : Str
  batchVersion : ℤ
  state : BatchState
  readinessSnapshot : BatchFinalizationReadinessSnapshot
  deriving DecidableEq

def BatchFinalizationReadinessMutationSnapshot.Fields.postInit
    (s : BatchFinalizationReadinessMutationSnapshot.Fields) : Port Unit := do
  let entity := "batch_finalization_readiness_mutation"
  Port.string entity "batch_id" s.batchId
  Port.nonnegative entity "batch_version" s.batchVersion
  Port.invalidIf (s.state ≠ .running) entity "state" "not_running"
  Port.invalidIf ((s.batchId, s.batchVersion) ≠
    (s.readinessSnapshot.batchId, s.readinessSnapshot.sourceBatchVersion)) entity "binding"
    "mismatch"

structure BatchFinalizationReadinessMutationSnapshot extends
    BatchFinalizationReadinessMutationSnapshot.Fields where
  accepted : toFields.postInit = .ok ()
  deriving DecidableEq

def BatchFinalizationReadinessMutationSnapshot.new :
    BatchFinalizationReadinessMutationSnapshot.Fields →
      Port BatchFinalizationReadinessMutationSnapshot :=
  construct Fields.postInit BatchFinalizationReadinessMutationSnapshot.mk

structure BatchFinalizationReadinessSideEffect.Fields where
  batchId : Str
  readinessDigest : Digest
  deriving DecidableEq

def BatchFinalizationReadinessSideEffect.Fields.postInit
    (e : BatchFinalizationReadinessSideEffect.Fields) : Port Unit :=
  Port.string "batch_finalization_readiness_side_effect" "batch_id" e.batchId

structure BatchFinalizationReadinessSideEffect extends
    BatchFinalizationReadinessSideEffect.Fields where
  accepted : toFields.postInit = .ok ()
  deriving DecidableEq

def BatchFinalizationReadinessSideEffect.new :
    BatchFinalizationReadinessSideEffect.Fields → Port BatchFinalizationReadinessSideEffect :=
  construct Fields.postInit BatchFinalizationReadinessSideEffect.mk

structure BatchFinalizationReadinessPublication.Fields where
  authority : BatchFinalizationReadinessAuthority
  expectedSnapshot : BatchFinalizationReadinessMutationSnapshot
  projection : BatchFinalizationReadinessProjection
  sideEffect : BatchFinalizationReadinessSideEffect
  deriving DecidableEq

namespace BatchFinalizationReadinessPublication.Fields

/-- The parts are not of one ready Batch. -/
def bindingMismatch (p : Fields) : Raises Bool :=
  let snapshot := p.authority.snapshot
  anyOf [.ok (decide (snapshot.reason ≠ .ready ∨
      p.expectedSnapshot.readinessSnapshot ≠ snapshot ∨
      p.projection.batchId ≠ snapshot.batchId ∨
      p.projection.sourceBatchVersion ≠ snapshot.sourceBatchVersion ∨
      p.projection.batchVersion ≠ p.expectedSnapshot.batchVersion + 1)),
    differs p.projection.readinessDigest (Raises.domain snapshot.readinessDigest),
    .ok (decide (p.sideEffect.batchId ≠ p.projection.batchId ∨
      p.sideEffect.readinessDigest ≠ p.projection.readinessDigest))]

def postInit (p : Fields) : Raises Unit := do
  let mismatch ← p.bindingMismatch
  Raises.port (Port.invalidIf (mismatch = true) "batch_finalization_readiness_publication"
    "binding" "mismatch")

end BatchFinalizationReadinessPublication.Fields

structure BatchFinalizationReadinessPublication extends
    BatchFinalizationReadinessPublication.Fields where
  accepted : toFields.postInit = .ok ()
  deriving DecidableEq

def BatchFinalizationReadinessPublication.new :
    BatchFinalizationReadinessPublication.Fields → Raises BatchFinalizationReadinessPublication :=
  construct Fields.postInit BatchFinalizationReadinessPublication.mk

structure BatchFinalizationReadinessGateway (σ : Type) where
  requireReadinessAuthority : (batchId : Str) → σ → Raises BatchFinalizationReadinessAuthority
  lookupStored : IdentityScope → σ → Raises (Option BatchFinalizationReadinessProjection)
  getMutationSnapshotForUpdate : (batchId : Str) → σ →
    Raises BatchFinalizationReadinessMutationSnapshot
  publishReadiness : BatchFinalizationReadinessPublication → σ →
    Raises (ReplayResult BatchFinalizationReadinessProjection × σ)

structure BeginBatchFinalizationCommand.Fields where
  batchId : Str
  expectedBatchVersion : ℤ
  deriving DecidableEq

def BeginBatchFinalizationCommand.Fields.postInit (c : BeginBatchFinalizationCommand.Fields) :
    Result Unit := do
  invalidIf (isBlank c.batchId) "begin_batch_finalization_command" "batch_id" "invalid"
  invalidIf (c.expectedBatchVersion < 0) "begin_batch_finalization_command"
    "expected_batch_version" "invalid"

structure BeginBatchFinalizationCommand extends BeginBatchFinalizationCommand.Fields where
  accepted : toFields.postInit = .ok ()
  deriving DecidableEq

structure BeginBatchFinalizationResult where
  projection : Option BatchFinalizationReadinessProjection
  replayed : Bool
  reason : BatchFinalizationReadinessReason
  deriving DecidableEq

namespace BeginBatchFinalization

variable {σ : Type} (gateway : BatchFinalizationReadinessGateway σ)
  (command : BeginBatchFinalizationCommand)

/-- A Batch that is not ready is told why. -/
def notReady (authority : BatchFinalizationReadinessAuthority) :
    Option BeginBatchFinalizationResult :=
  if authority.snapshot.reason ≠ .ready then some ⟨none, false, authority.snapshot.reason⟩
  else none

def replay (authority : BatchFinalizationReadinessAuthority)
    (stored : BatchFinalizationReadinessProjection) : Raises BeginBatchFinalizationResult := do
  let snapshot := authority.snapshot
  let digest ← Raises.domain snapshot.readinessDigest
  Raises.refuseIf (stored.readinessDigest ≠ digest)
    (.idempotencyConflict ("batch:" ++ snapshot.batchId ++ ":begin-finalization")
      (toString snapshot.sourceBatchVersion) stored.readinessDigest.value digest.value)
  return ⟨some stored, true, .ready⟩

def prepare (authority : BatchFinalizationReadinessAuthority)
    (locked : BatchFinalizationReadinessMutationSnapshot) :
    Raises BatchFinalizationReadinessPublication := do
  let snapshot := authority.snapshot
  Raises.refuseIf (locked.batchVersion ≠ command.expectedBatchVersion)
    (.versionConflict "batch" snapshot.batchId locked.batchVersion command.expectedBatchVersion)
  Raises.refuseIf (locked.readinessSnapshot ≠ snapshot)
    (.domainValidation "begin_batch_finalization" "readiness_snapshot" "locked_snapshot_drift")
  let digest ← Raises.domain snapshot.readinessDigest
  let projection ← Raises.port (BatchFinalizationReadinessProjection.new {
    batchId := snapshot.batchId
    sourceBatchVersion := snapshot.sourceBatchVersion
    batchVersion := locked.batchVersion + 1
    state := .finalizing
    readinessDigest := digest })
  let sideEffect ← Raises.port
    (BatchFinalizationReadinessSideEffect.new ⟨snapshot.batchId, digest⟩)
  BatchFinalizationReadinessPublication.new {
    authority := authority
    expectedSnapshot := locked
    projection := projection
    sideEffect := sideEffect }

def handler : Handler σ Raised BatchFinalizationReadinessAuthority
    BatchFinalizationReadinessProjection BatchFinalizationReadinessProjection
    BatchFinalizationReadinessMutationSnapshot BatchFinalizationReadinessPublication
    BeginBatchFinalizationResult where
  require := .read (gateway.requireReadinessAuthority command.batchId)
  answer := notReady
  lookup authority := gateway.lookupStored authority.identityScope
  replay := replay
  lock authority := gateway.getMutationSnapshotForUpdate authority.snapshot.batchId
  prepare := prepare command
  publish := gateway.publishReadiness
  finish published := ⟨some published.value, published.replayed, .ready⟩

def execute : Prog σ Raised BeginBatchFinalizationResult := (handler gateway command).execute

end BeginBatchFinalization

end QaRunner
