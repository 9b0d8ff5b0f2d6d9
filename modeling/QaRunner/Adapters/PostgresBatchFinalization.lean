import QaRunner.Adapters.FinalizationTables

/-! The gateways that start and finish the finalization of a Batch. Each is made for the authority
that its caller claims, and checks that claim against the tables. -/
namespace QaRunner
open Guarded Interleaving PublishOnce

/-- What the rows of its manifest, plan, policy, cancellation and Runs say about a Batch. -/
structure BatchSourceReads where
  sourceSnapshot : FinalizationTables → BatchFinalizationSourceSnapshot →
    Raises BatchFinalizationSourceSnapshot
  validateReadiness : FinalizationTables → BatchFinalizationReadinessSnapshot → Raises Unit

def compatibilityEpoch : Str := "M0-STATE-V1"

def stateModelVersion : ℤ := 1

def readinessPayload (s : BatchFinalizationReadinessSnapshot) : Result ReadinessPayload := do
  let policyDigest ← s.successPolicy.policyDigest
  let bases ← collect s.runClosures fun closure => closure.basis.basisDigest
  let intents ← collect s.pendingRetryIntents fun intent => do
    let digest ← intent.digest
    return (intent.runId, digest)
  return {
    batchId := s.batchId
    sourceBatchVersion := s.sourceBatchVersion
    manifestId := s.manifestId
    manifestDigest := s.manifestDigest
    itemCount := s.itemCount
    shardPlanId := s.shardPlanId
    shardPlanVersion := s.frozenPlan.planVersion
    shardPlanDigest := s.shardPlanDigest
    frozenPlanBindingDigest := s.frozenPlan.bindingDigest
    canonicalRunIds := s.canonicalRunIds
    canonicalRunSetDigest := s.canonicalRunSetDigest
    successPolicyDigest := policyDigest
    batchCancellationIntentDigest := s.batchCancellationIntentDigest
    runBasisDigests := bases
    pendingRetryIntents := intents
    attemptCreationOpportunities := s.attemptCreationOpportunities }

def ReadinessPayload.digest (p : ReadinessPayload) : Result Digest :=
  canonicalDigest "qep.batch-finalization-readiness.v1"
    (.dict [("batch_id", .str p.batchId), ("source_batch_version", .int p.sourceBatchVersion),
      ("manifest_id", .str p.manifestId), ("manifest_digest", .str p.manifestDigest.value),
      ("item_count", .int p.itemCount), ("shard_plan_id", .str p.shardPlanId),
      ("shard_plan_version", .int p.shardPlanVersion),
      ("shard_plan_digest", .str p.shardPlanDigest.value),
      ("frozen_plan_binding_digest", .str p.frozenPlanBindingDigest.value),
      ("canonical_run_ids", .list (p.canonicalRunIds.map .str)),
      ("canonical_run_set_digest", .str p.canonicalRunSetDigest.value),
      ("success_policy_digest", .str p.successPolicyDigest.value),
      ("batch_cancellation_intent_digest", optionalDigestValue p.batchCancellationIntentDigest),
      ("run_basis_digests", .list (p.runBasisDigests.map fun d => .str d.value)),
      ("pending_retry_intents", .list (p.pendingRetryIntents.map fun intent =>
        .dict [("run_id", .str intent.1), ("intent_digest", .str intent.2.value)])),
      ("attempt_creation_opportunities", .list (p.attemptCreationOpportunities.map fun o =>
        .dict [("run_id", .str o.runId), ("kind", .str o.kind.value),
          ("authority_digest", .str o.authorityDigest.value)]))])

/-- What is kept of a snapshot has its digest. -/
theorem readinessDigest_eq (s : BatchFinalizationReadinessSnapshot) :
    s.readinessDigest = readinessPayload s >>= ReadinessPayload.digest := by
  have hintents : (collect s.pendingRetryIntents fun intent => do
      let digest ← intent.digest
      return Json.dict [("run_id", .str intent.runId), ("intent_digest", .str digest.value)]) =
      (collect s.pendingRetryIntents fun intent => do
        let digest ← intent.digest
        return (intent.runId, digest)).map (List.map fun intent =>
          Json.dict [("run_id", .str intent.1), ("intent_digest", .str intent.2.value)]) := by
    rw [collect_map]
    congr 1
    funext intent
    cases intent.digest with
    | ok digest => rfl
    | error e => rfl
  rw [BatchFinalizationReadinessSnapshot.readinessDigest, readinessPayload, hintents]
  cases s.successPolicy.policyDigest with
  | error e => rfl
  | ok policyDigest =>
    simp only [ok_bind]
    cases collect s.runClosures fun closure => closure.basis.basisDigest with
    | error e => rfl
    | ok bases =>
      simp only [ok_bind]
      cases collect s.pendingRetryIntents fun intent => do
          let digest ← intent.digest
          return (intent.runId, digest) with
      | error e => rfl
      | ok intents => rfl

namespace PostgresBatchFinalization

variable (reads : BatchSourceReads) (candidate : FinalizeBatchAuthority) (s : FinalizationTables)

def readinessRef (digest : Digest) : Str := "batch-finalization-readiness-" ++ digestHex digest

/-- The Batch points at a fact about the source it is to be finalized from. -/
def validateReadinessBinding (row : BatchRow) (expected : BatchFinalizationSourceSnapshot) :
    Raises Unit := do
  let fact ← need (s.referencedFact expected.batchId row)
    (.problem (.authorityStateConflict "batch_finalization_readiness_binding_missing"))
  let payload := fact.payload
  Raises.conflictIf (expected.sourceBatchVersion < 1)
    "batch_finalization_readiness_binding_invalid"
  let digest ← Raises.domain payload.digest
  Raises.conflictIf (payload.sourceBatchVersion ≠ expected.sourceBatchVersion - 1 ∨
      fact.batchVersion ≠ expected.sourceBatchVersion ∨
      payload.manifestDigest ≠ expected.manifestDigest ∨
      payload.shardPlanDigest ≠ expected.shardPlanDigest ∨
      payload.canonicalRunSetDigest ≠ expected.canonicalRunSetDigest ∨
      payload.successPolicyDigest ≠ expected.successPolicyDigest ∨
      fact.readinessDigest ≠ digest ∨
      fact.compatibilityEpoch ≠ compatibilityEpoch ∨ fact.stateModelVersion ≠ stateModelVersion ∨
      payload.batchId ≠ expected.batchId ∨ payload.manifestId ≠ expected.manifestId ∨
      payload.itemCount ≠ expected.itemCount ∨ payload.shardPlanId ≠ expected.shardPlanId ∨
      payload.shardPlanVersion ≠ expected.shardPlanVersion ∨
      payload.batchCancellationIntentDigest ≠ expected.batchCancellationIntentDigest ∨
      payload.runBasisDigests ≠ expected.terminalRunRefs.map (·.runBasisDigest) ∨
      payload.pendingRetryIntents ≠ [] ∨ payload.attemptCreationOpportunities ≠ [] ∨
      fact.ref ≠ readinessRef digest)
    "batch_finalization_readiness_binding_invalid"

/-- Before its basis is stored the Batch is finalizing; after that it shows its outcome. -/
def requireSourceState (row : BatchRow) : Raises Unit :=
  match s.batchBasisOf candidate.batchId with
  | none => Raises.conflictIf
      (row.state ≠ .finalizing ∨ row.version ≠ candidate.sourceBatchVersion)
      "batch_finalization_source_state_invalid"
  | some stored => Raises.conflictIf
      (stored.basis.resolutionSet.sourceBatchVersion ≠ candidate.sourceBatchVersion ∨
        row.version ≠ candidate.sourceBatchVersion + 1 ∨
        row.state ≠ stored.basis.batchOutcome ∨ ¬ row.state.ExecutionTerminal ∨
        stored.readinessRef ≠ row.finalizationReadinessRef)
      "stored_batch_finalization_binding_invalid"

def requireSourceSnapshot : Raises BatchFinalizationSourceSnapshot := do
  let actual ← reads.sourceSnapshot s candidate.sourceSnapshot
  Raises.conflictIf (actual ≠ candidate.sourceSnapshot)
    "batch_finalization_source_snapshot_mismatch"
  return actual

/-- The Batch and the row lock of a candidate authority that holds. -/
def requireLocked (batchId : Str) : Raises BatchRow := do
  raiseIf (candidate.batchId ≠ batchId) .permissionDenied
  let row ← need (s.batches batchId) .permissionDenied
  Raises.conflictIf (row.writeEpoch ≠ candidate.writeEpoch)
    "batch_finalization_authority_superseded"
  requireSourceState candidate s row
  validateReadinessBinding s row candidate.sourceSnapshot
  let _ ← requireSourceSnapshot reads candidate s
  return row

def requireFinalizationAuthority (batchId : Str) : Raises FinalizeBatchAuthority := do
  let _ ← requireLocked reads candidate s batchId
  return candidate

/-- The stored basis, when the Batch row agrees with it. -/
def storedProjection (batchId : Str) (stored : BatchBasisRow) (row : BatchRow) :
    Raises BatchFinalizationProjection := do
  let digest ← Raises.domain stored.basis.basisDigest
  Raises.conflictIf (digest ≠ stored.basisDigest ∨
      stored.readinessRef ≠ row.finalizationReadinessRef ∨
      row.state ≠ stored.basis.batchOutcome ∨
      row.version ≠ stored.basis.resolutionSet.sourceBatchVersion + 1)
    "stored_batch_finalization_integrity_invalid"
  Raises.port (BatchFinalizationProjection.new {
    batchId := batchId
    sourceBatchVersion := stored.basis.resolutionSet.sourceBatchVersion
    batchVersion := row.version
    outcome := stored.basis.batchOutcome
    basisDigest := digest })

def lookupStored (scope : IdentityScope) : Raises (Option BatchFinalizationProjection) := do
  Raises.port (Port.invalidIf (scope.schemaVersion ≠ "qep.batch-finalization-basis.v1")
    "batch_finalization_identity" "schema_version" "unsupported")
  let found := s.batchBases.find? fun stored =>
    stored.basis.resolutionSet.batchId = scope.aggregateId ∧
      stored.basis.resolutionSet.sourceBatchVersion = scope.sourceVersion
  match found, s.batches scope.aggregateId with
  | some stored, some row => do
    let projection ← storedProjection scope.aggregateId stored row
    return some projection
  | _, _ => return none

def getMutationSnapshotForUpdate (batchId : Str) :
    Raises BatchFinalizationMutationSnapshot := do
  let row ← need (s.batches batchId)
    (.problem (.portContract "unit_of_work" "state" "authority_not_locked"))
  let actual ← requireSourceSnapshot reads candidate s
  Raises.port (BatchFinalizationMutationSnapshot.new {
    batchId := batchId
    batchVersion := row.version
    state := .finalizing
    sourceSnapshot := actual })

/-- `UPDATE qep_batches`: the finalizing Batch at the version of the snapshot and the write epoch
of the authority. -/
def publishBatchProjection (p : BatchFinalizationPublication) : Raises BatchRow := do
  let conflict : Raised := .problem (.domain (.versionConflict "batch" p.projection.batchId
    p.expectedSnapshot.batchVersion p.expectedSnapshot.batchVersion))
  let row ← need (s.batches p.projection.batchId) conflict
  raiseIf (row.state ≠ .finalizing ∨ row.version ≠ p.expectedSnapshot.batchVersion ∨
    row.writeEpoch ≠ p.authority.writeEpoch) conflict
  return { row with state := p.projection.outcome, version := row.version + 1 }

def finalizedEvent (p : BatchFinalizationPublication) : Result OutboxEventRow := do
  let identity ← canonicalDigest "qep.batch-finalized-identity.v1"
    (.dict [("batch_id", .str p.projection.batchId),
      ("source_batch_version", .int p.projection.sourceBatchVersion),
      ("basis_digest", .str p.projection.basisDigest.value)])
  let payloadDigest ← canonicalDigest "qep.batch-finalized-event-payload.v1"
    (.dict [("schema_version", .str "qep.batch-finalized.v1"),
      ("batch_id", .str p.projection.batchId),
      ("source_batch_version", .int p.projection.sourceBatchVersion),
      ("batch_version", .int p.projection.batchVersion),
      ("basis_digest", .str p.projection.basisDigest.value),
      ("outcome", .str p.projection.outcome.value),
      ("authority_digest", .str p.authority.authorityDigest.value),
      ("write_epoch", .int p.authority.writeEpoch)])
  return {
    eventId := "batch-finalized-event-" ++ digestHex identity
    aggregateId := p.projection.batchId
    eventType := "batch.finalized.v1"
    payloadDigest := payloadDigest }

/-- The rows of a first publication; the basis keeps the fact that the locked Batch points at. -/
def publishRows (p : BatchFinalizationPublication) (locked : BatchRow) :
    Raises FinalizationTables := do
  let digest ← Raises.domain p.basis.basisDigest
  let row ← publishBatchProjection s p
  let event ← Raises.domain (finalizedEvent p)
  return { s with
    batchItemResolutions := s.batchItemResolutions ++ p.basis.resolutionSet.entries.map fun entry =>
      (p.basis.resolutionSet.batchId, entry)
    batchBases := s.batchBases ++ [⟨p.basis, digest, locked.finalizationReadinessRef⟩]
    batches := Function.update s.batches p.projection.batchId (some row)
    auditEvents := s.auditEvents ++ [{
      action := "finalize_batch"
      objectId := p.sideEffect.batchId
      afterDigest := p.sideEffect.basisDigest
      authorityDigest := p.authority.authorityDigest }]
    outboxEvents := s.outboxEvents ++ [event] }

/-- The basis that is stored already is the published one, or the publication is refused. -/
def replayStored (p : BatchFinalizationPublication) (stored : BatchBasisRow) (locked : BatchRow) :
    Raises BatchFinalizationProjection := do
  let projection ← storedProjection p.projection.batchId stored locked
  let digest ← Raises.domain p.basis.basisDigest
  Raises.refuseIf (¬ (projection.sourceBatchVersion = p.authority.sourceBatchVersion ∧
      projection.basisDigest = digest))
    (.idempotencyConflict ("batch:" ++ p.projection.batchId ++ ":finalization")
      (toString p.authority.sourceBatchVersion) projection.basisDigest.value digest.value)
  return projection

def publishFinalization (p : BatchFinalizationPublication) :
    Raises (ReplayResult BatchFinalizationProjection × FinalizationTables) := do
  let locked ← requireLocked reads candidate s p.projection.batchId
  Raises.conflictIf (candidate ≠ p.authority) "publication_authority_superseded"
  match s.batchBasisOf p.projection.batchId with
  | some stored => do
    let projection ← replayStored p stored locked
    return (⟨projection, true⟩, s)
  | none => do
    let snapshot ← getMutationSnapshotForUpdate reads candidate s p.projection.batchId
    Raises.refuseIf (snapshot ≠ p.expectedSnapshot)
      (.versionConflict "batch" p.projection.batchId snapshot.batchVersion
        p.expectedSnapshot.batchVersion)
    let s' ← publishRows s p locked
    return (⟨p.projection, false⟩, s')

def gateway : BatchFinalizationGateway FinalizationTables where
  requireFinalizationAuthority batchId s := requireFinalizationAuthority reads candidate s batchId
  lookupStored scope s := lookupStored s scope
  getMutationSnapshotForUpdate batchId s := getMutationSnapshotForUpdate reads candidate s batchId
  publishFinalization p s := publishFinalization reads candidate s p

end PostgresBatchFinalization

namespace PostgresBatchReadiness

variable (reads : BatchSourceReads) (candidate : BatchFinalizationReadinessAuthority)
  (s : FinalizationTables)

/-- The stored fact is about the snapshot of the candidate, and its Batch is still finalizing. -/
def validateStoredFactBinding (row : BatchRow) (fact : ReadinessFactRow) : Raises Unit := do
  let snapshot := candidate.snapshot
  let digest ← Raises.domain snapshot.readinessDigest
  Raises.conflictIf (row.state ≠ .finalizing ∨ row.version ≠ snapshot.sourceBatchVersion + 1 ∨
      fact.payload.sourceBatchVersion ≠ snapshot.sourceBatchVersion ∨
      fact.readinessDigest ≠ digest ∨ fact.authorityDigest ≠ candidate.authorityDigest ∨
      fact.writeEpoch ≠ candidate.writeEpoch ∨ fact.compatibilityEpoch ≠ compatibilityEpoch ∨
      fact.stateModelVersion ≠ stateModelVersion)
    "batch_readiness_stored_binding_invalid"
  let payload ← Raises.domain (readinessPayload snapshot)
  Raises.conflictIf (fact.payload ≠ payload) "batch_readiness_stored_integrity_invalid"

def requireSourceState (row : BatchRow) : Raises Unit :=
  match s.referencedFact candidate.snapshot.batchId row with
  | none => Raises.conflictIf
      (row.state ≠ .running ∨ row.version ≠ candidate.snapshot.sourceBatchVersion)
      "batch_readiness_source_state_invalid"
  | some fact => validateStoredFactBinding candidate row fact

def requireLocked (batchId : Str) : Raises BatchRow := do
  raiseIf (candidate.snapshot.batchId ≠ batchId) .permissionDenied
  let row ← need (s.batches batchId) .permissionDenied
  Raises.conflictIf (row.writeEpoch ≠ candidate.writeEpoch) "batch_readiness_authority_superseded"
  requireSourceState candidate s row
  reads.validateReadiness s candidate.snapshot
  return row

def requireReadinessAuthority (batchId : Str) : Raises BatchFinalizationReadinessAuthority := do
  let _ ← requireLocked reads candidate s batchId
  return candidate

/-- The stored fact, while its Batch is finalizing. -/
def storedProjection (batchId : Str) (fact : ReadinessFactRow) (row : BatchRow) :
    Raises BatchFinalizationReadinessProjection := do
  let digest ← Raises.domain fact.payload.digest
  Raises.conflictIf (fact.payload.batchId ≠ batchId ∨
      row.finalizationReadinessRef ≠ some fact.ref ∨
      fact.batchVersion ≠ fact.payload.sourceBatchVersion + 1 ∨ row.state ≠ .finalizing ∨
      row.version ≠ fact.batchVersion ∨ fact.readinessDigest ≠ digest)
    "batch_readiness_stored_integrity_invalid"
  Raises.port (BatchFinalizationReadinessProjection.new {
    batchId := batchId
    sourceBatchVersion := fact.payload.sourceBatchVersion
    batchVersion := fact.batchVersion
    state := .finalizing
    readinessDigest := fact.readinessDigest })

def lookupStored (scope : IdentityScope) :
    Raises (Option BatchFinalizationReadinessProjection) := do
  Raises.port (Port.invalidIf (scope.schemaVersion ≠ "qep.batch-finalization-readiness.v1")
    "batch_finalization_readiness_identity" "schema_version" "unsupported")
  let found := s.readinessFacts.find? fun fact =>
    fact.payload.batchId = scope.aggregateId ∧
      fact.payload.sourceBatchVersion = scope.sourceVersion
  match found, s.batches scope.aggregateId with
  | some fact, some row => do
    let projection ← storedProjection scope.aggregateId fact row
    return some projection
  | _, _ => return none

def getMutationSnapshotForUpdate (batchId : Str) :
    Raises BatchFinalizationReadinessMutationSnapshot := do
  let row ← need (s.batches batchId)
    (.problem (.portContract "unit_of_work" "state" "authority_not_locked"))
  reads.validateReadiness s candidate.snapshot
  Raises.port (BatchFinalizationReadinessMutationSnapshot.new {
    batchId := batchId
    batchVersion := row.version
    state := .running
    readinessSnapshot := candidate.snapshot })

/-- `UPDATE qep_batches`: the running Batch, which points at no fact yet. -/
def publishBatchProjection (p : BatchFinalizationReadinessPublication) : Raises BatchRow := do
  let conflict : Raised := .problem (.domain (.versionConflict "batch" p.projection.batchId
    p.expectedSnapshot.batchVersion p.expectedSnapshot.batchVersion))
  let row ← need (s.batches p.projection.batchId) conflict
  raiseIf (row.state ≠ .running ∨ row.version ≠ p.expectedSnapshot.batchVersion ∨
    row.writeEpoch ≠ p.authority.writeEpoch ∨ row.finalizationReadinessRef ≠ none) conflict
  return { row with
    state := .finalizing
    version := row.version + 1
    finalizationReadinessRef :=
      some (PostgresBatchFinalization.readinessRef p.projection.readinessDigest) }

def startedEvent (p : BatchFinalizationReadinessPublication) (digest : Digest) :
    Result OutboxEventRow := do
  let snapshot := p.authority.snapshot
  let identity ← canonicalDigest "qep.batch-finalization-readiness-started-identity.v1"
    (.dict [("batch_id", .str snapshot.batchId),
      ("source_batch_version", .int snapshot.sourceBatchVersion),
      ("readiness_digest", .str digest.value)])
  let payloadDigest ← canonicalDigest "qep.batch-finalization-readiness-started-payload.v1"
    (.dict [("schema_version", .str "qep.batch-finalization-readiness-started.v1"),
      ("batch_id", .str snapshot.batchId),
      ("source_batch_version", .int snapshot.sourceBatchVersion),
      ("batch_version", .int (snapshot.sourceBatchVersion + 1)),
      ("readiness_digest", .str digest.value),
      ("authority_digest", .str p.authority.authorityDigest.value),
      ("write_epoch", .int p.authority.writeEpoch)])
  return {
    eventId := "batch-finalization-readiness-started-" ++ digestHex identity
    aggregateId := snapshot.batchId
    eventType := "batch.finalization.started.v1"
    payloadDigest := payloadDigest }

def publishRows (p : BatchFinalizationReadinessPublication) : Raises FinalizationTables := do
  let snapshot := p.authority.snapshot
  let digest ← Raises.domain snapshot.readinessDigest
  let payload ← Raises.domain (readinessPayload snapshot)
  let row ← publishBatchProjection s p
  let event ← Raises.domain (startedEvent p digest)
  return { s with
    readinessFacts := s.readinessFacts ++ [{
      ref := PostgresBatchFinalization.readinessRef digest
      payload := payload
      batchVersion := snapshot.sourceBatchVersion + 1
      readinessDigest := digest
      authorityDigest := p.authority.authorityDigest
      writeEpoch := p.authority.writeEpoch
      compatibilityEpoch := compatibilityEpoch
      stateModelVersion := stateModelVersion }]
    batches := Function.update s.batches p.projection.batchId (some row)
    auditEvents := s.auditEvents ++ [{
      action := "begin_batch_finalization"
      objectId := snapshot.batchId
      afterDigest := digest
      authorityDigest := p.authority.authorityDigest }]
    outboxEvents := s.outboxEvents ++ [event] }

/-- The fact that is stored already is the published one, or the publication is refused. -/
def replayStored (p : BatchFinalizationReadinessPublication) (fact : ReadinessFactRow)
    (locked : BatchRow) : Raises BatchFinalizationReadinessProjection := do
  let projection ← storedProjection p.projection.batchId fact locked
  Raises.refuseIf (¬ (projection.sourceBatchVersion = p.authority.snapshot.sourceBatchVersion ∧
      projection.readinessDigest = p.projection.readinessDigest))
    (.idempotencyConflict ("batch:" ++ p.projection.batchId ++ ":begin-finalization")
      (toString p.authority.snapshot.sourceBatchVersion) projection.readinessDigest.value
      p.projection.readinessDigest.value)
  return projection

def publishReadiness (p : BatchFinalizationReadinessPublication) :
    Raises (ReplayResult BatchFinalizationReadinessProjection × FinalizationTables) := do
  let locked ← requireLocked reads candidate s p.projection.batchId
  Raises.conflictIf (candidate ≠ p.authority) "publication_authority_superseded"
  match s.readinessFactOf p.projection.batchId with
  | some fact => do
    let projection ← replayStored p fact locked
    return (⟨projection, true⟩, s)
  | none => do
    Raises.refuseIf (p.expectedSnapshot.batchVersion ≠ locked.version)
      (.versionConflict "batch" p.projection.batchId locked.version
        p.expectedSnapshot.batchVersion)
    reads.validateReadiness s candidate.snapshot
    let s' ← publishRows s p
    return (⟨p.projection, false⟩, s')

def gateway : BatchFinalizationReadinessGateway FinalizationTables where
  requireReadinessAuthority batchId s := requireReadinessAuthority reads candidate s batchId
  lookupStored scope s := lookupStored s scope
  getMutationSnapshotForUpdate batchId s := getMutationSnapshotForUpdate reads candidate s batchId
  publishReadiness p s := publishReadiness reads candidate s p

end PostgresBatchReadiness

end QaRunner
