import QaRunner.Application.PreexecutionProof

/-! Application commands for Batch-owned pre-execution convergence: closing a pending cancellation
and recording a rejection, each under authority read at the time of the command. -/
namespace QaRunner
open Guarded Application

/-- The refusals of an authority check. -/
inductive AuthorityRefusal where
  | projectionUnavailable
  | permissionDenied
  | internalRetired (reason : String)
  | stateConflict (reason : String)
  deriving DecidableEq, Repr

structure BatchClosureAuthority where
  batchId : Str
  projectId : Str
  suiteRevisionId : Str
  sourceBatchVersion : ℤ
  authorityDigest : Digest
  scope : BatchCancellationScope
  writeEpoch : ℤ
  deriving DecidableEq

/-- Server-derived phase ownership and scope for a rejection command. -/
structure BatchRejectionAuthority where
  batchId : Str
  projectId : Str
  suiteRevisionId : Str
  sourceBatchVersion : ℤ
  stage : BatchRejectionStage
  authorityDigest : Digest
  scope : BatchCancellationScope
  recordedAt : Datetime
  writeEpoch : ℤ
  deriving DecidableEq

/-- Narrow authority and persistence boundary for pre-execution Batch work. -/
structure BatchPreexecutionGateway where
  requireClosureAuthority : (batchId reconcilerId : Str) → (closureEpoch : ℤ) →
    Except AuthorityRefusal BatchClosureAuthority
  requireRejectionAuthority : (batchId phaseOwnerId : Str) → (rejectionEpoch : ℤ) →
    Except AuthorityRefusal BatchRejectionAuthority
  getBatchForUpdate : (batchId : Str) → Application Batch
  publishMaterializedHandoff : BatchMaterializedScopeHandoff →
    Application BatchMaterializedScopeHandoff
  publishPreexecutionClosure : Batch → Application Unit
  publishPreexecutionRejection : Batch → BatchRejection → Application Unit

def stateConflict (reason : String) : Failure := ⟨.preexecutionStateConflict reason, []⟩

/-- An authority, or the public problem its refusal becomes. -/
def requireAuthority {α : Type} (deniedReason : String) (x : Except AuthorityRefusal α) :
    Application α :=
  match x with
  | .ok authority => .ok authority
  | .error .projectionUnavailable => .error ⟨.temporarilyUnavailable, []⟩
  | .error .permissionDenied => .error (stateConflict deniedReason)
  | .error (.internalRetired reason) => .error (stateConflict reason)
  | .error (.stateConflict reason) => .error (stateConflict reason)

def basisMatchesAuthorityScope (basis : BatchPreexecutionClosureBasis)
    (scope : BatchCancellationScope) : Prop :=
  basis.scopeKind.value = scope.kind.value ∧
    basis.preplanScopeDigest = scope.preplanScopeDigest ∧
    basis.manifestDigest = scope.manifestDigest ∧
    basis.shardPlanVersion = scope.shardPlanVersion ∧
    basis.shardPlanDigest = scope.shardPlanDigest ∧
    basis.canonicalRunSetDigest = scope.canonicalRunSetDigest

instance (basis : BatchPreexecutionClosureBasis) (scope : BatchCancellationScope) :
    Decidable (basisMatchesAuthorityScope basis scope) :=
  inferInstanceAs (Decidable (_ ∧ _))

structure ReconcilePreexecutionCancellationCommand where
  batchId : Str
  reconcilerId : Str
  closureEpoch : ℤ

/-- A closed Batch, or the handoff of a Batch that has Runs. -/
inductive Reconciled where
  | batch (batch : Batch)
  | handoff (handoff : BatchMaterializedScopeHandoff)

namespace ReconcilePreexecutionCancellation

variable (gateway : BatchPreexecutionGateway) (proof : PreexecutionProofGateway)

/-- The Batch was closed before: the authority must be the one it was closed under. -/
def replay (authority : BatchClosureAuthority) (batch : Batch) (intent : BatchCancellationIntent)
    (basis : BatchPreexecutionClosureBasis) : Application (Done Reconciled) := do
  let superseded := stateConflict "closure_authority_binding_superseded"
  raiseIf (basis.batchId ≠ authority.batchId ∨
    basis.sourceBatchVersion ≠ authority.sourceBatchVersion ∨
    basis.terminalKind ≠ .prestartCancel) superseded
  let digest ← lift intent.digest
  raiseIf (basis.batchCancellationIntentDigest ≠ some digest ∨
    ¬ basisMatchesAuthorityScope basis authority.scope) superseded
  return ⟨.batch batch, []⟩

/-- Prove that nothing executes and close the Batch, or hand its Runs off. -/
def close (command : ReconcilePreexecutionCancellationCommand) (authority : BatchClosureAuthority)
    (batch : Batch) (intent : BatchCancellationIntent) : Application (Done Reconciled) := do
  let digest ← lift intent.digest
  let proved ← ProvePreexecutionClosure.execute proof {
    batchId := command.batchId
    projectId := authority.projectId
    suiteRevisionId := authority.suiteRevisionId
    sourceBatchVersion := authority.sourceBatchVersion
    scope := some authority.scope
    terminalKind := some .prestartCancel
    commandDigest := some digest }
  match proved with
  | .materialized scope => do
    let handoff ← lift (buildCancelHandoff intent authority.sourceBatchVersion
      scope.authoritativeRunSetDigest authority.authorityDigest authority.writeEpoch)
    let published ← gateway.publishMaterializedHandoff handoff
    return ⟨.handoff published, [.publishMaterializedHandoff handoff]⟩
  | .zeroChild snapshot => do
    let closed ← lift (batch.finalizeUnmaterializedCancel snapshot authority.sourceBatchVersion)
    gateway.publishPreexecutionClosure closed
    return ⟨.batch closed, [.publishPreexecutionClosure closed]⟩

/-- Close a pending intent only from current authority and zero-child proof. -/
def execute (command : ReconcilePreexecutionCancellationCommand) :
    Application (Done Reconciled) := do
  let authority ← requireAuthority "reconciler_authority_denied"
    (gateway.requireClosureAuthority command.batchId command.reconcilerId command.closureEpoch)
  let batch ← gateway.getBatchForUpdate command.batchId
  let intent ← need batch.cancellationIntent (stateConflict "closure_command_missing")
  match batch.preexecutionClosureBasis with
  | some basis => replay authority batch intent basis
  | none => close gateway proof command authority batch intent

end ReconcilePreexecutionCancellation

structure RecordPreexecutionRejectionCommand where
  batchId : Str
  rejectionId : Str
  reasonClass : BatchRejectionReasonClass
  reasonCode : Str
  inputDigest : Digest
  phaseOwnerId : Str
  rejectionEpoch : ℤ

namespace RecordPreexecutionRejection

variable (gateway : BatchPreexecutionGateway) (proof : PreexecutionProofGateway)

/-- The fact a command records under its authority. -/
def buildRejection (command : RecordPreexecutionRejectionCommand)
    (authority : BatchRejectionAuthority) : Result BatchRejection :=
  BatchRejection.new {
    rejectionId := command.rejectionId
    batchId := authority.batchId
    sourceBatchVersion := authority.sourceBatchVersion
    stage := authority.stage
    reasonClass := command.reasonClass
    reasonCode := command.reasonCode
    inputDigest := command.inputDigest
    authorityDigest := some authority.authorityDigest
    recordedAt := authority.recordedAt }

/-- The rejection was recorded before: it and the authority must be the same ones. -/
def replay (authority : BatchRejectionAuthority) (batch : Batch)
    (stored rejection : BatchRejection) : Application (Done Batch) := do
  let storedDigest ← lift stored.digest
  let receivedDigest ← lift rejection.digest
  raiseIf (storedDigest ≠ receivedDigest) ⟨.domain (.idempotencyConflict
    ("batch:" ++ batch.id ++ ":rejection") stored.rejectionId storedDigest.value
    receivedDigest.value), []⟩
  let superseded := stateConflict "rejection_authority_binding_superseded"
  let basis ← need batch.preexecutionClosureBasis superseded
  raiseIf (¬ basisMatchesAuthorityScope basis authority.scope) superseded
  return ⟨batch, []⟩

/-- Prove that nothing executes and reject the Batch, or hand its Runs off. -/
def record (authority : BatchRejectionAuthority) (batch : Batch) (rejection : BatchRejection) :
    Application (Done Batch) := do
  raiseIf batch.rejectionFact.isSome (stateConflict "rejection_terminal_winner")
  raiseIf batch.cancellationIntent.isSome (stateConflict "cancellation_intent_winner")
  let digest ← lift rejection.digest
  let proved ← ProvePreexecutionClosure.execute proof {
    batchId := authority.batchId
    projectId := authority.projectId
    suiteRevisionId := authority.suiteRevisionId
    sourceBatchVersion := authority.sourceBatchVersion
    scope := some authority.scope
    terminalKind := some .rejection
    commandDigest := some digest }
  match proved with
  | .materialized scope => do
    let handoff ← lift (buildRejectionConflictHandoff rejection authority.projectId
      authority.suiteRevisionId authority.scope scope.authoritativeRunSetDigest
      authority.authorityDigest authority.writeEpoch)
    let published ← gateway.publishMaterializedHandoff handoff
    throw ⟨.rejectionMaterializedConflict published, [.publishMaterializedHandoff handoff]⟩
  | .zeroChild snapshot => do
    let closed ← lift (batch.rejectPreexecution rejection snapshot authority.sourceBatchVersion)
    gateway.publishPreexecutionRejection closed rejection
    return ⟨closed, [.publishPreexecutionRejection closed rejection]⟩

/-- Record a rejection terminal or hand off a materialized-scope conflict. -/
def execute (command : RecordPreexecutionRejectionCommand) : Application (Done Batch) := do
  let authority ← requireAuthority "phase_owner_authority_denied"
    (gateway.requireRejectionAuthority command.batchId command.phaseOwnerId command.rejectionEpoch)
  let rejection ← lift (buildRejection command authority)
  let batch ← gateway.getBatchForUpdate authority.batchId
  match batch.rejectionFact with
  | some stored =>
    if stored.rejectionId = rejection.rejectionId then replay authority batch stored rejection
    else record gateway proof authority batch rejection
  | none => record gateway proof authority batch rejection

end RecordPreexecutionRejection
end QaRunner
