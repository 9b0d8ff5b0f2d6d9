import QaRunner.Adapters.PostgresRunFinalization
import QaRunner.Application.BeginBatchFinalization

/-! The tables that the finalization of Runs and Batches shares, and the gateways over them. A
gateway holds its row lock from the first read to the commit; here every call is atomic by itself,
and a publication reads again, in its own step, what that lock would have kept. -/
namespace QaRunner
open Guarded Interleaving PublishOnce

structure RunRow where
  batchId : Str
  version : ℤ
  currentFence : ℤ
  orchestrationPhase : RunPhase
  disposition : Option RunDisposition
  outcome : Option RunOutcome
  finalizationBasisDigest : Option Digest

structure BatchRow where
  version : ℤ
  state : BatchState
  writeEpoch : ℤ
  finalizationReadinessRef : Option Str

/-- An attempt with the assignment it was made under. -/
structure AssignedAttemptRow extends AttemptRow where
  assignmentId : Str

structure AssignmentRow where
  id : Str
  attemptId : Option Str

/-- The columns of a stored basis are its own fields. -/
structure RunBasisRow where
  basis : RunFinalizationBasis
  basisDigest : Digest

structure RunItemResolutionRow where
  runId : Str
  sourceRunVersion : ℤ
  entry : RunItemResolution

/-- What is kept of the snapshot with which a Batch started to finalize. -/
structure ReadinessPayload where
  batchId : Str
  sourceBatchVersion : ℤ
  manifestId : Str
  manifestDigest : Digest
  itemCount : ℤ
  shardPlanId : Str
  shardPlanVersion : ℤ
  shardPlanDigest : Digest
  frozenPlanBindingDigest : Digest
  canonicalRunIds : List Str
  canonicalRunSetDigest : Digest
  successPolicyDigest : Digest
  batchCancellationIntentDigest : Option Digest
  runBasisDigests : List Digest
  pendingRetryIntents : List (Str × Digest)
  attemptCreationOpportunities : List AttemptCreationOpportunity
  deriving DecidableEq

/-- The columns that the payload repeats are read from the payload. -/
structure ReadinessFactRow where
  ref : Str
  payload : ReadinessPayload
  batchVersion : ℤ
  readinessDigest : Digest
  authorityDigest : Digest
  writeEpoch : ℤ
  compatibilityEpoch : Str
  stateModelVersion : ℤ

structure BatchBasisRow where
  basis : BatchFinalizationBasis
  basisDigest : Digest
  readinessRef : Option Str

structure AuditEventRow where
  action : Str
  objectId : Str
  afterDigest : Digest
  authorityDigest : Digest

structure OutboxEventRow where
  eventId : Str
  aggregateId : Str
  eventType : Str
  payloadDigest : Digest

structure FinalizationTables where
  runs : Str → Option RunRow
  batches : Str → Option BatchRow
  attempts : List AssignedAttemptRow
  assignments : List AssignmentRow
  evidence : List EvidenceRow
  adjudications : List AdjudicationRow
  runItemResolutions : List RunItemResolutionRow
  runBases : List RunBasisRow
  readinessFacts : List ReadinessFactRow
  batchItemResolutions : List (Str × BatchItemResolution)
  batchBases : List BatchBasisRow
  auditEvents : List AuditEventRow
  outboxEvents : List OutboxEventRow

namespace FinalizationTables

def factTables (s : FinalizationTables) : FactTables :=
  ⟨s.attempts.map (·.toAttemptRow), s.evidence, s.adjudications⟩

def runBasisOf (s : FinalizationTables) (runId : Str) : Option RunBasisRow :=
  s.runBases.find? (·.basis.runId = runId)

def batchBasisOf (s : FinalizationTables) (batchId : Str) : Option BatchBasisRow :=
  s.batchBases.find? (·.basis.resolutionSet.batchId = batchId)

def readinessFactOf (s : FinalizationTables) (batchId : Str) : Option ReadinessFactRow :=
  s.readinessFacts.find? (·.payload.batchId = batchId)

/-- The fact a Batch points at. -/
def referencedFact (s : FinalizationTables) (batchId : Str) (row : BatchRow) :
    Option ReadinessFactRow :=
  s.readinessFacts.find? fun fact =>
    some fact.ref = row.finalizationReadinessRef ∧ fact.payload.batchId = batchId

end FinalizationTables

namespace PostgresRunFinalization

variable (s : FinalizationTables)

def authorityDigest (runId batchId : Str) (sourceRunVersion currentFence writeEpoch : ℤ) :
    Result Digest :=
  canonicalDigest "qep.run-finalization-authority.v1"
    (.dict [("run_id", .str runId), ("batch_id", .str batchId),
      ("source_run_version", .int sourceRunVersion), ("current_fence", .int currentFence),
      ("write_epoch", .int writeEpoch)])

/-- A Run that is closed keeps the authority of the version it was closed over. -/
def requireFinalizationAuthority (runId : Str) : Raises FinalizeRunAuthority := do
  let run ← need (s.runs runId) .permissionDenied
  let batch ← need (s.batches run.batchId) .permissionDenied
  Raises.conflictIf (batch.writeEpoch < 1) "run_finalization_authority_missing"
  let terminal := s.runBasisOf runId
  Raises.conflictIf (decide (run.orchestrationPhase = .closed) ≠ terminal.isSome)
    "run_finalization_terminal_binding_invalid"
  let sourceRunVersion := (terminal.map (·.basis.sourceRunVersion)).getD run.version
  let digest ← Raises.domain
    (authorityDigest runId run.batchId sourceRunVersion run.currentFence batch.writeEpoch)
  Raises.port (FinalizeRunAuthority.new {
    runId := runId
    batchId := run.batchId
    sourceRunVersion := sourceRunVersion
    authorityDigest := digest
    writeEpoch := batch.writeEpoch })

/-- The state that the row of a closed Run and its last attempt show. -/
def storedState (run : RunRow) (row : RunBasisRow) : Raises RunFinalizationState := do
  let disposition ← need run.disposition (.valueError "None is not a valid RunDisposition")
  let outcome ← need run.outcome (.valueError "None is not a valid RunOutcome")
  let attempt := row.basis.finalAttemptId.bind fun id => s.attempts.find? (·.id = id)
  Raises.domain (RunFinalizationState.new {
    phase := run.orchestrationPhase
    disposition := some disposition
    outcome := some outcome
    finalizationBasisDigest := some row.basisDigest
    latestAttemptFact := attempt.map (·.state)
    currentAssignmentId := none
    pendingRetryIntentId := none })

def lookupStored (scope : IdentityScope) : Raises (Option RunFinalizationProjection) := do
  Raises.port (Port.invalidIf (scope.schemaVersion ≠ "qep.run-finalization-basis.v1")
    "run_finalization_identity" "schema_version" "unsupported")
  let found := s.runBases.find? fun row =>
    row.basis.runId = scope.aggregateId ∧ row.basis.sourceRunVersion = scope.sourceVersion
  match found, s.runs scope.aggregateId with
  | some row, some run => do
    let state ← storedState s run row
    let projection ← Raises.port
      (RunFinalizationProjection.new ⟨scope.aggregateId, scope.sourceVersion, state⟩)
    return some projection
  | _, _ => return none

/-- The attempt under the current fence of its Run, when its assignment names it. -/
def currentAttempt (runId : Str) (run : RunRow) : Option AssignedAttemptRow :=
  s.attempts.find? fun attempt => attempt.runId = runId ∧ attempt.fence = run.currentFence ∧
    ∃ assignment ∈ s.assignments, assignment.id = attempt.assignmentId ∧
      assignment.attemptId = some attempt.id

def getMutationSnapshotForUpdate (runId : Str) : Raises RunFinalizationMutationSnapshot := do
  let run ← need (s.runs runId)
    (.problem (.portContract "run_finalization_mutation_snapshot" "run_version" "invalid"))
  let attempt := currentAttempt s runId run
  Raises.port (RunFinalizationMutationSnapshot.new {
    runId := runId
    runVersion := run.version
    attemptId := attempt.map (·.id)
    attemptVersion := attempt.map (·.version) })

/-- `UPDATE qep_attempts`: the one attempt the basis names, at the version and fence it names. -/
def publishAttemptTerminal (p : RunFinalizationPublication) : Raises (List AssignedAttemptRow) :=
  match p.basis.finalAttemptId with
  | none => return s.attempts
  | some id => do
    let state ← need p.basis.finalAttemptState (.problem (.domain (.crash .attributeError)))
    let named := fun attempt : AssignedAttemptRow => attempt.id = id ∧
      attempt.runId = p.basis.runId ∧ some attempt.version = p.basis.finalAttemptVersion ∧
      some attempt.fence = p.basis.finalAttemptFence
    Raises.refuseIf (s.attempts.countP named ≠ 1)
      (.versionConflict "attempt" id (p.expectedSnapshot.attemptVersion.getD 0)
        (p.basis.finalAttemptVersion.getD 0))
    return s.attempts.map fun attempt =>
      if named attempt then { attempt with state := state, version := attempt.version + 1 }
      else attempt

/-- `UPDATE qep_runs`: the Run, in its Batch, at the version of the snapshot. -/
def publishRunProjection (p : RunFinalizationPublication) : Raises RunRow := do
  let conflict : Raised := .problem (.domain (.versionConflict "run" p.projection.runId
    p.expectedSnapshot.runVersion p.expectedSnapshot.runVersion))
  let run ← need (s.runs p.projection.runId) conflict
  raiseIf (run.batchId ≠ p.authority.batchId ∨ run.version ≠ p.expectedSnapshot.runVersion)
    conflict
  return { run with
    orchestrationPhase := p.projection.state.phase
    disposition := p.projection.state.disposition
    outcome := p.projection.state.outcome
    finalizationBasisDigest := p.projection.state.finalizationBasisDigest
    version := run.version + 1 }

/-- The rows of a first publication. -/
def publishRows (p : RunFinalizationPublication) : Raises FinalizationTables := do
  Raises.port (requireVerifiedTerminalInput s.factTables p.basis)
  let digest ← Raises.domain p.basis.basisDigest
  let attempts ← publishAttemptTerminal s p
  let run ← publishRunProjection s p
  return { s with
    runItemResolutions := s.runItemResolutions ++ p.resolutionSet.entries.map fun entry =>
      ⟨p.projection.runId, p.projection.sourceRunVersion, entry⟩
    runBases := s.runBases ++ [⟨p.basis, digest⟩]
    attempts := attempts
    runs := Function.update s.runs p.projection.runId (some run)
    auditEvents := s.auditEvents ++ [{
      action := "finalize_run"
      objectId := p.sideEffect.runId
      afterDigest := p.sideEffect.basisDigest
      authorityDigest := p.authority.authorityDigest }]
    outboxEvents := s.outboxEvents ++ [{
      eventId := p.handoff.eventId
      aggregateId := p.handoff.runId
      eventType := "run.closed.v1"
      payloadDigest := p.handoff.payloadDigest }] }

/-- The basis that is stored already is the published one, or the publication is refused. -/
def replayStored (p : RunFinalizationPublication) (stored : RunBasisRow) :
    Raises RunFinalizationProjection := do
  let digest ← Raises.domain p.basis.basisDigest
  Raises.refuseIf (¬ (stored.basis.sourceRunVersion = p.authority.sourceRunVersion ∧
      stored.basisDigest = digest))
    (.idempotencyConflict ("run:" ++ p.projection.runId ++ ":finalization")
      (toString p.authority.sourceRunVersion) stored.basisDigest.value digest.value)
  let projection ← lookupStored s p.authority.identityScope
  need projection (.problem (.domain (.crash .assertionError)))

def publishFinalization (p : RunFinalizationPublication) :
    Raises (ReplayResult RunFinalizationProjection × FinalizationTables) := do
  let authority ← requireFinalizationAuthority s p.projection.runId
  Raises.conflictIf (p.authority ≠ authority) "publication_authority_superseded"
  match s.runBasisOf p.projection.runId with
  | some stored => do
    let projection ← replayStored s p stored
    return (⟨projection, true⟩, s)
  | none => do
    let snapshot ← getMutationSnapshotForUpdate s p.projection.runId
    Raises.refuseIf (snapshot ≠ p.expectedSnapshot)
      (.versionConflict "run" p.projection.runId snapshot.runVersion
        p.expectedSnapshot.runVersion)
    let s' ← publishRows s p
    return (⟨p.projection, false⟩, s')

def gateway : RunFinalizationGateway FinalizationTables where
  requireFinalizationAuthority runId s := requireFinalizationAuthority s runId
  lookupStored scope s := lookupStored s scope
  getMutationSnapshotForUpdate runId s := getMutationSnapshotForUpdate s runId
  publishFinalization p s := publishFinalization s p

end PostgresRunFinalization

end QaRunner
