import QaRunner.Domain.BatchClosure
import QaRunner.Domain.Suite

/-! Batch aggregate for the execution lifecycle, and its commands. -/
namespace QaRunner
open Guarded

structure Batch.Fields where
  id : Str
  state : BatchState
  version : ℤ
  rejectionFact : Option BatchRejection := none
  cancellationIntent : Option BatchCancellationIntent := none
  preexecutionClosureBasis : Option BatchPreexecutionClosureBasis := none
  projectId : Option Str := none
  suiteRevisionId : Option Str := none
  requestDigest : Option Digest := none
  idempotencyScope : Option Str := none
  idempotencyKey : Option Str := none
  createdAt : Option Datetime := none
  priorityClass : Str := "background"
  deadlineAt : Option Datetime := none
  deriving DecidableEq

/-- The scope a cancellation freezes in a phase. -/
def expectedCancelScopeKind (state : BatchState) : BatchCancellationScopeKind :=
  if state.frozenPlanCancel then .frozenPlan else .prePlan

/-- The scope facts a closure basis and a snapshot share. -/
structure ClosureScope where
  scopeKind : BatchPreexecutionScopeKind
  preplanScopeDigest : Option Digest
  manifestDigest : Option Digest
  shardPlanVersion : Option ℤ
  shardPlanDigest : Option Digest
  canonicalRunSetDigest : Option Digest

def BatchPreexecutionClosureBasis.scope (b : BatchPreexecutionClosureBasis) : ClosureScope where
  scopeKind := b.scopeKind
  preplanScopeDigest := b.preplanScopeDigest
  manifestDigest := b.manifestDigest
  shardPlanVersion := b.shardPlanVersion
  shardPlanDigest := b.shardPlanDigest
  canonicalRunSetDigest := b.canonicalRunSetDigest

def BatchPreexecutionSnapshot.scope (s : BatchPreexecutionSnapshot) : ClosureScope where
  scopeKind := s.scopeKind
  preplanScopeDigest := s.preplanScopeDigest
  manifestDigest := s.manifestDigest
  shardPlanVersion := s.shardPlanVersion
  shardPlanDigest := s.shardPlanDigest
  canonicalRunSetDigest := s.canonicalRunSetDigest

/-- The scope an intent froze is the scope that was closed. -/
def ClosureScope.covers (closed : ClosureScope) (scope : BatchCancellationScope) : Bool :=
  match scope.kind with
  | .prePlan => closed.scopeKind == .prePlan &&
      closed.preplanScopeDigest == scope.preplanScopeDigest
  | .frozenPlan => closed.scopeKind == .plannedUnmaterialized &&
      closed.manifestDigest == scope.manifestDigest &&
      closed.shardPlanVersion == scope.shardPlanVersion &&
      closed.shardPlanDigest == scope.shardPlanDigest &&
      closed.canonicalRunSetDigest == scope.canonicalRunSetDigest

def requireCancelBasisBinding (intent : BatchCancellationIntent)
    (basis : BatchPreexecutionClosureBasis) : Result Unit :=
  invalidIf (basis.scope.covers intent.scope = false) "batch_preexecution_closure_basis" "scope"
    "cancellation_intent_mismatch"

def requireCancelScopeBinding (intent : BatchCancellationIntent)
    (snapshot : BatchPreexecutionSnapshot) : Result Unit :=
  invalidIf (snapshot.scope.covers intent.scope = false) "batch_preexecution_snapshot" "scope"
    "cancellation_intent_mismatch"

namespace Batch.Fields

/-- Create-identity fields are all-or-nothing; a lifecycle-only Batch may omit them. -/
def requireCreateIdentityConsistency (b : Fields) : Result Unit :=
  match b.projectId, b.suiteRevisionId, b.requestDigest, b.idempotencyScope, b.idempotencyKey,
    b.createdAt with
  | none, none, none, none, none, none => .ok ()
  | some projectId, some suiteRevisionId, some _, some scope, some key, some createdAt => do
    requireNonemptyString "batch" "project_id" projectId
    requireNonemptyString "batch" "suite_revision_id" suiteRevisionId
    requireNonemptyString "batch" "idempotency_scope" scope
    requireNonemptyString "batch" "idempotency_key" key
    requireUtc "batch" "created_at" createdAt
  | _, _, _, _, _, _ => invalidIf True "batch" "create_identity" "partial"

def requirePendingCancelBinding (b : Fields) (intent : BatchCancellationIntent) : Result Unit := do
  invalidIf (intent.batchId ≠ b.id ∨ b.state.prestartCancel = false ∨
    intent.sourceBatchVersion + 1 ≠ b.version) "batch" "cancellation_intent" "aggregate_mismatch"
  invalidIf (intent.scope.kind ≠ expectedCancelScopeKind b.state) "batch_cancellation_intent"
    "scope" "source_phase_mismatch"

/-- A rejected Batch keeps the fact its basis is bound to, recorded in the phase it closed. -/
def requireRejectionBinding (b : Fields) (basis : BatchPreexecutionClosureBasis) :
    Result Unit := do
  let mismatch := DomainError.domainValidation "batch" "rejection_fact" "basis_mismatch"
  let rejection ← need b.rejectionFact mismatch
  raiseIf (b.cancellationIntent.isSome ∨ rejection.batchId ≠ b.id ∨
    rejection.sourceBatchVersion ≠ basis.sourceBatchVersion) mismatch
  let digest ← rejection.digest
  raiseIf (basis.rejectionFactDigest ≠ some digest) mismatch
  let stage ← need basis.sourcePhase.rejectionStage (.crash .keyError)
  invalidIf (rejection.stage ≠ stage) "batch_rejection" "stage" "source_phase_mismatch"

/-- A cancelled Batch keeps the intent its basis is bound to, over the scope it froze. -/
def requireCancellationBinding (b : Fields) (basis : BatchPreexecutionClosureBasis) :
    Result Unit := do
  let mismatch := DomainError.domainValidation "batch" "cancellation_intent" "basis_mismatch"
  let intent ← need b.cancellationIntent mismatch
  raiseIf (b.rejectionFact.isSome ∨ intent.batchId ≠ b.id ∨
    intent.sourceBatchVersion ≠ basis.sourceBatchVersion - 1) mismatch
  let digest ← intent.digest
  raiseIf (basis.batchCancellationIntentDigest ≠ some digest) mismatch
  requireCancelBasisBinding intent basis

def validateClosure (b : Fields) : Result Unit :=
  match b.preexecutionClosureBasis with
  | none => do
    invalidIf b.rejectionFact.isSome "batch" "preexecution_closure_basis" "required_for_rejection"
    whenSome b.cancellationIntent b.requirePendingCancelBinding
  | some basis => do
    invalidIf (basis.batchId ≠ b.id ∨ basis.batchOutcome ≠ b.state ∨
      basis.sourceBatchVersion ≠ b.version - 1) "batch" "preexecution_closure_basis"
      "aggregate_mismatch"
    match basis.terminalKind with
    | .rejection => b.requireRejectionBinding basis
    | .prestartCancel => b.requireCancellationBinding basis

def postInit (b : Fields) : Result Unit := do
  invalidIf (isBlank b.id) "batch" "id" "invalid"
  invalidIf (b.version < 0) "batch" "version" "invalid"
  b.requireCreateIdentityConsistency
  invalidIf (isBlank b.priorityClass) "batch" "priority_class" "invalid"
  whenSome b.deadlineAt (requireUtc "batch" "deadline_at")
  b.validateClosure

end Batch.Fields

/-- Immutable Batch state; successful commands return a new version. -/
structure Batch extends Batch.Fields where
  accepted : toFields.postInit = .ok ()
  deriving DecidableEq

/-- The basis of a terminal command over a snapshot. -/
def buildPreexecutionBasis (sourcePhase : BatchState) (terminalKind : BatchPreexecutionTerminalKind)
    (rejectionFactDigest batchCancellationIntentDigest : Option Digest)
    (snapshot : BatchPreexecutionSnapshot) (batchOutcome : BatchState) :
    Result BatchPreexecutionClosureBasis := do
  let itemDigests ← collect snapshot.scopeItems (·.digest)
  BatchPreexecutionClosureBasis.new {
    batchId := snapshot.batchId
    sourceBatchVersion := snapshot.sourceBatchVersion
    sourcePhase := sourcePhase
    terminalKind := terminalKind
    rejectionFactDigest := rejectionFactDigest
    batchCancellationIntentDigest := batchCancellationIntentDigest
    scopeKind := snapshot.scopeKind
    submissionDigest := snapshot.submissionDigest
    preplanScopeDigest := snapshot.preplanScopeDigest
    manifestDigest := snapshot.manifestDigest
    shardPlanVersion := snapshot.shardPlanVersion
    shardPlanDigest := snapshot.shardPlanDigest
    canonicalRunSetDigest := snapshot.canonicalRunSetDigest
    materializedRunAbsenceDigest := snapshot.materializedRunAbsenceDigest
    executionAbsenceSnapshotDigest := snapshot.executionAbsenceSnapshotDigest
    taskStopFactDigests := snapshot.taskStopFactDigests
    preexecutionScopeItemFactDigests := itemDigests
    itemCoverageProofDigest := snapshot.itemCoverageProofDigest
    batchOutcome := batchOutcome }

/-- Every scope item names the command that closes the Batch. -/
def requireSnapshotCommandBinding (snapshot : BatchPreexecutionSnapshot)
    (terminalKind : BatchPreexecutionTerminalKind) (commandDigest : Digest) : Result Unit :=
  invalidIf (∃ item ∈ snapshot.scopeItems, item.terminalKind ≠ terminalKind ∨
    (match terminalKind with
      | .rejection => item.rejectionFactDigest
      | .prestartCancel => item.batchCancellationIntentDigest) ≠ some commandDigest)
    "batch_preexecution_snapshot" "scope_items" "command_binding_mismatch"

namespace Batch

def new : Fields → Result Batch := construct Fields.postInit Batch.mk

/-- Create a lifecycle-only Batch at the initial draft state. -/
def create (batchId : Str) : Result Batch :=
  Batch.new {
    id := batchId
    state := .draft
    version := 0 }

/-- Open a draft Batch bound to an active Suite revision. -/
def openForSuite (batchId : Str) (suite : Suite) (requestDigest : Digest)
    (idempotencyScope idempotencyKey : Str) (createdAt : Datetime)
    (suiteRevisionId : Option Str := none) (priorityClass : Str := "background")
    (deadlineAt : Option Datetime := none) : Result Batch := do
  suite.requireAcceptsNewBatch
  let revisionId := suiteRevisionId.getD suite.currentRevisionId
  let _ ← suite.revision revisionId
  requireNonemptyString "batch" "id" batchId
  requireNonemptyString "batch" "idempotency_scope" idempotencyScope
  requireNonemptyString "batch" "idempotency_key" idempotencyKey
  requireUtc "batch" "created_at" createdAt
  Batch.new {
    id := batchId
    state := .draft
    version := 0
    projectId := some suite.projectId
    suiteRevisionId := some revisionId
    requestDigest := some requestDigest
    idempotencyScope := some idempotencyScope
    idempotencyKey := some idempotencyKey
    createdAt := some createdAt
    priorityClass := priorityClass
    deadlineAt := deadlineAt }

variable (b : Batch)

def ensureVersion (expectedVersion : ℤ) : Result Unit :=
  ensureExpectedVersion "batch" b.id b.version expectedVersion

def invalidTransition (target : BatchState) (expectedVersion : ℤ) : DomainError :=
  .invalidTransition "batch" b.id b.state.value target.value b.version expectedVersion

/-- Return the next Batch version or reject an illegal state edge. -/
def transition (target : BatchState) (expectedVersion : ℤ) : Result Batch := do
  b.ensureVersion expectedVersion
  raiseIf b.cancellationIntent.isSome (b.invalidTransition target expectedVersion)
  raiseIf (target ∉ b.state.allowedTransitions) (b.invalidTransition target expectedVersion)
  Batch.new { b.toFields with
    state := target
    version := b.version + 1 }

/-- Record one immutable Batch cancellation intent without claiming an outcome. -/
def requestCancel (intent : BatchCancellationIntent) (expectedVersion : ℤ) : Result Batch :=
  match b.cancellationIntent with
  | some stored =>
    if stored.idempotencyKey = intent.idempotencyKey then do
      let storedDigest ← stored.requestDigest
      let receivedDigest ← intent.requestDigest
      raiseIf (storedDigest ≠ receivedDigest) (.idempotencyConflict ("batch:" ++ b.id ++ ":cancel")
        intent.idempotencyKey storedDigest.value receivedDigest.value)
      return b
    else
      throw (.batchCancellationConflict b.id stored.idempotencyKey intent.idempotencyKey)
  | none => do
    raiseIf b.state.terminal (b.invalidTransition .cancelled expectedVersion)
    b.ensureVersion expectedVersion
    raiseIf (b.state.prestartCancel = false) (b.invalidTransition .cancelled expectedVersion)
    invalidIf (intent.batchId ≠ b.id ∨ intent.sourceBatchVersion ≠ b.version)
      "batch_cancellation_intent" "source_batch" "mismatch"
    invalidIf (intent.scope.kind ≠ expectedCancelScopeKind b.state) "batch_cancellation_intent"
      "scope" "source_phase_mismatch"
    Batch.new { b.toFields with
      version := b.version + 1
      cancellationIntent := some intent }

/-- A basis rebuilt from the received snapshot must have the digest of the stored one. -/
def replayClosure (outcome : BatchState) (scope key : Str)
    (stored candidate : BatchPreexecutionClosureBasis) : Result Batch := do
  let storedDigest ← stored.digest
  let receivedDigest ← candidate.digest
  raiseIf (b.state ≠ outcome ∨ storedDigest ≠ receivedDigest)
    (.idempotencyConflict scope key storedDigest.value receivedDigest.value)
  return b

/-- The rejection was recorded before: check that it is the same one. -/
def replayRejection (stored rejection : BatchRejection) (snapshot : BatchPreexecutionSnapshot) :
    Result Batch := do
  let scope := "batch:" ++ b.id ++ ":rejection"
  let storedDigest ← stored.digest
  let receivedDigest ← rejection.digest
  raiseIf (storedDigest ≠ receivedDigest)
    (.idempotencyConflict scope rejection.rejectionId storedDigest.value receivedDigest.value)
  requireSnapshotCommandBinding snapshot .rejection receivedDigest
  let storedBasis ← need b.preexecutionClosureBasis (.crash .attributeError)
  let candidate ← buildPreexecutionBasis storedBasis.sourcePhase .rejection (some receivedDigest)
    none snapshot .rejected
  b.replayClosure .rejected scope rejection.rejectionId storedBasis candidate

/-- Close the Batch from a fact and a snapshot that both name its version. -/
def recordRejection (rejection : BatchRejection) (snapshot : BatchPreexecutionSnapshot)
    (expectedVersion : ℤ) : Result Batch := do
  raiseIf b.state.terminal (b.invalidTransition .rejected expectedVersion)
  b.ensureVersion expectedVersion
  raiseIf b.cancellationIntent.isSome (b.invalidTransition .rejected expectedVersion)
  let expectedStage ← need b.state.rejectionStage (b.invalidTransition .rejected expectedVersion)
  invalidIf (rejection.stage ≠ expectedStage) "batch_rejection" "stage" "source_phase_mismatch"
  invalidIf (rejection.batchId ≠ b.id ∨ snapshot.batchId ≠ b.id ∨
    rejection.sourceBatchVersion ≠ b.version ∨ snapshot.sourceBatchVersion ≠ b.version)
    "batch_rejection" "source_batch" "mismatch"
  invalidIf (snapshot.scopeKind ≠
    if b.state = .awaitingAdmission then .plannedUnmaterialized else .prePlan)
    "batch_preexecution_snapshot" "scope_kind" "source_phase_mismatch"
  let digest ← rejection.digest
  requireSnapshotCommandBinding snapshot .rejection digest
  let basis ← buildPreexecutionBasis b.state .rejection (some digest) none snapshot .rejected
  Batch.new { b.toFields with
    state := .rejected
    version := b.version + 1
    rejectionFact := some rejection
    preexecutionClosureBasis := some basis }

/-- Atomically persist a matching rejection fact, basis, and terminal. -/
def rejectPreexecution (rejection : BatchRejection) (snapshot : BatchPreexecutionSnapshot)
    (expectedVersion : ℤ) : Result Batch :=
  match b.rejectionFact with
  | some stored =>
    if stored.rejectionId = rejection.rejectionId then b.replayRejection stored rejection snapshot
    else b.recordRejection rejection snapshot expectedVersion
  | none => b.recordRejection rejection snapshot expectedVersion

/-- The cancellation was closed before: check that it was closed over the same snapshot. -/
def replayCancel (intent : BatchCancellationIntent) (storedBasis : BatchPreexecutionClosureBasis)
    (snapshot : BatchPreexecutionSnapshot) : Result Batch := do
  let digest ← intent.digest
  requireSnapshotCommandBinding snapshot .prestartCancel digest
  let candidate ← buildPreexecutionBasis storedBasis.sourcePhase .prestartCancel none (some digest)
    snapshot .cancelled
  b.replayClosure .cancelled ("batch:" ++ b.id ++ ":preexecution-cancel") intent.idempotencyKey
    storedBasis candidate

/-- Close the Batch from its intent and a snapshot that names its version. -/
def recordCancel (snapshot : BatchPreexecutionSnapshot) (expectedVersion : ℤ) : Result Batch := do
  raiseIf b.state.terminal (b.invalidTransition .cancelled expectedVersion)
  b.ensureVersion expectedVersion
  raiseIf (b.state.prestartCancel = false) (b.invalidTransition .cancelled expectedVersion)
  let intent ← need b.cancellationIntent (b.invalidTransition .cancelled expectedVersion)
  invalidIf (snapshot.batchId ≠ b.id ∨ snapshot.sourceBatchVersion ≠ b.version)
    "batch_preexecution_snapshot" "source_batch" "mismatch"
  requireCancelScopeBinding intent snapshot
  let digest ← intent.digest
  requireSnapshotCommandBinding snapshot .prestartCancel digest
  let basis ← buildPreexecutionBasis b.state .prestartCancel none (some digest) snapshot .cancelled
  Batch.new { b.toFields with
    state := .cancelled
    version := b.version + 1
    preexecutionClosureBasis := some basis }

/-- Close a cancelled Batch only from its intent and zero-Run proof. -/
def finalizeUnmaterializedCancel (snapshot : BatchPreexecutionSnapshot) (expectedVersion : ℤ) :
    Result Batch :=
  match b.cancellationIntent, b.preexecutionClosureBasis with
  | some intent, some basis =>
    if basis.terminalKind = .prestartCancel then b.replayCancel intent basis snapshot
    else b.recordCancel snapshot expectedVersion
  | _, _ => b.recordCancel snapshot expectedVersion

end Batch
end QaRunner
