import QaRunner.Domain.Batch

/-! Immutable execution-path handoff contracts for materialized Batch scope, and the failures and
effects of application commands. -/
namespace QaRunner
open Guarded

inductive HandoffTriggerKind where
  | cancelIntent
  | rejectionConflict
  deriving DecidableEq, Repr

def HandoffTriggerKind.value : HandoffTriggerKind → String
  | .cancelIntent => "cancel_intent"
  | .rejectionConflict => "rejection_conflict"

structure BatchMaterializedScopeHandoff where
  schemaVersion : Str
  identityAlgorithmVersion : Str
  semanticTriggerKey : Digest
  handoffId : Str
  handoffDigest : Digest
  triggerKind : HandoffTriggerKind
  commandOrObservationDigest : Digest
  batchId : Str
  sourceBatchVersion : ℤ
  projectId : Str
  suiteRevisionId : Str
  preplanScopeDigest : Option Digest
  manifestDigest : Option Digest
  shardPlanVersion : Option ℤ
  shardPlanDigest : Option Digest
  authoritativeRunSetDigest : Digest
  authorityDigest : Digest
  writeEpoch : ℤ
  destination : Str
  eventId : Str
  payloadDigest : Digest
  deriving DecidableEq

/-- What a handoff is built from besides its trigger. -/
structure HandoffSource where
  batchId : Str
  sourceBatchVersion : ℤ
  projectId : Str
  suiteRevisionId : Str
  scope : BatchCancellationScope
  authoritativeRunSetDigest : Digest
  authorityDigest : Digest
  writeEpoch : ℤ

def buildHandoff (triggerKind : HandoffTriggerKind) (triggerDigest : Digest) (s : HandoffSource) :
    Result BatchMaterializedScopeHandoff := do
  let schemaVersion := "qep.batch-materialized-scope-handoff.v1"
  let identityPayload : Json.Members := [("batch_id", Json.str s.batchId),
    ("command_or_observation_digest", .str triggerDigest.value),
    ("schema_version", .str schemaVersion), ("trigger_kind", .str triggerKind.value)]
  let semanticKey ← canonicalDigest "qep.batch-materialized-scope-handoff-identity.v1"
    (.dict identityPayload)
  let identitySuffix := String.ofList (semanticKey.value.toList.drop 7)
  let handoffDigest ← canonicalDigest schemaVersion (.dict (identityPayload ++
    ([("source_batch_version", .int s.sourceBatchVersion), ("project_id", .str s.projectId),
      ("suite_revision_id", .str s.suiteRevisionId),
      ("preplan_scope_digest", optionalDigestValue s.scope.preplanScopeDigest),
      ("manifest_digest", optionalDigestValue s.scope.manifestDigest),
      ("shard_plan_version", optionalInt s.scope.shardPlanVersion),
      ("shard_plan_digest", optionalDigestValue s.scope.shardPlanDigest),
      ("authoritative_run_set_digest", .str s.authoritativeRunSetDigest.value),
      ("authority_digest", .str s.authorityDigest.value), ("write_epoch", .int s.writeEpoch),
      ("destination", .str "execution_path")] : Json.Members)))
  let payloadDigest ← canonicalDigest "qep.batch-materialized-scope-handoff-event-payload.v1"
    (.dict [("handoff_digest", .str handoffDigest.value)])
  return {
    schemaVersion := schemaVersion
    identityAlgorithmVersion := "canonical-sha256.v1"
    semanticTriggerKey := semanticKey
    handoffId := "handoff-" ++ identitySuffix
    handoffDigest := handoffDigest
    triggerKind := triggerKind
    commandOrObservationDigest := triggerDigest
    batchId := s.batchId
    sourceBatchVersion := s.sourceBatchVersion
    projectId := s.projectId
    suiteRevisionId := s.suiteRevisionId
    preplanScopeDigest := s.scope.preplanScopeDigest
    manifestDigest := s.scope.manifestDigest
    shardPlanVersion := s.scope.shardPlanVersion
    shardPlanDigest := s.scope.shardPlanDigest
    authoritativeRunSetDigest := s.authoritativeRunSetDigest
    authorityDigest := s.authorityDigest
    writeEpoch := s.writeEpoch
    destination := "execution_path"
    eventId := "handoff-event-" ++ identitySuffix
    payloadDigest := payloadDigest }

/-- Build the one deterministic execution-path handoff for a cancellation intent. -/
def buildCancelHandoff (intent : BatchCancellationIntent) (sourceBatchVersion : ℤ)
    (authoritativeRunSetDigest authorityDigest : Digest) (writeEpoch : ℤ) :
    Result BatchMaterializedScopeHandoff := do
  let digest ← intent.digest
  buildHandoff .cancelIntent digest {
    batchId := intent.batchId
    sourceBatchVersion := sourceBatchVersion
    projectId := intent.projectId
    suiteRevisionId := intent.suiteRevisionId
    scope := intent.scope
    authoritativeRunSetDigest := authoritativeRunSetDigest
    authorityDigest := authorityDigest
    writeEpoch := writeEpoch }

/-- Build the execution-path observation for a rejection racing materialized Runs. -/
def buildRejectionConflictHandoff (rejection : BatchRejection) (projectId suiteRevisionId : Str)
    (scope : BatchCancellationScope) (authoritativeRunSetDigest authorityDigest : Digest)
    (writeEpoch : ℤ) : Result BatchMaterializedScopeHandoff := do
  let digest ← rejection.digest
  buildHandoff .rejectionConflict digest {
    batchId := rejection.batchId
    sourceBatchVersion := rejection.sourceBatchVersion
    projectId := projectId
    suiteRevisionId := suiteRevisionId
    scope := scope
    authoritativeRunSetDigest := authoritativeRunSetDigest
    authorityDigest := authorityDigest
    writeEpoch := writeEpoch }

/-- The problems an application command can raise. -/
inductive Problem where
  | temporarilyUnavailable
  | preexecutionStateConflict (reason : String)
  | closureNotReady
  | integrityFailure
  | rejectionMaterializedConflict (handoff : BatchMaterializedScopeHandoff)
  | authorityStateConflict (reason : String)
  | portContract (field reason : String) (resource : Str)
  | domain (e : DomainError)
  deriving DecidableEq

/-- What a command has asked of its gateways besides reading. -/
inductive Effect where
  | quarantineIntegrityFailure (batchId : Str)
  | publishMaterializedHandoff (handoff : BatchMaterializedScopeHandoff)
  | publishPreexecutionClosure (batch : Batch)
  | publishPreexecutionRejection (batch : Batch) (rejection : BatchRejection)
  deriving DecidableEq

/-- A raised problem and the effects that came before it. -/
structure Failure where
  problem : Problem
  effects : List Effect := []
  deriving DecidableEq

/-- A returned value and the effects that came before it. -/
structure Done (α : Type) where
  value : α
  effects : List Effect := []
  deriving DecidableEq

abbrev Application := Except Failure

/-- A domain error passes through a command. -/
def Application.lift {α : Type} (x : Result α) : Application α :=
  match x with
  | .ok a => .ok a
  | .error e => .error ⟨.domain e, []⟩

theorem Application.lift_eq_ok {α : Type} {x : Result α} {a : α} :
    Application.lift x = .ok a ↔ x = .ok a := by
  cases x <;> simp [lift]

end QaRunner
