import QaRunner.Application.BatchReadiness
import QaRunner.Application.RunFinalization
import QaRunner.Lib.PublishOnce

/-! The handler that closes a Run, and the port through which it publishes the terminal basis. -/
namespace QaRunner
open Guarded Interleaving PublishOnce

/-- What a call of a gateway, or the handler around it, raises. -/
inductive Raised where
  | permissionDenied
  | valueError (message : Str)
  | problem (p : Problem)
  deriving DecidableEq

abbrev Raises := Except Raised

namespace Raises

def port {α : Type} (x : Port α) : Raises α :=
  match x with
  | .ok a => .ok a
  | .error p => .error (.problem p)

def domain {α : Type} (x : Result α) : Raises α := port (Port.lift x)

def handoff {α : Type} (x : Except HandoffFailure α) : Raises α :=
  match x with
  | .ok a => .ok a
  | .error (.valueError message) => .error (.valueError message)
  | .error (.domain e) => .error (.problem (.domain e))

/-- Refuse with a domain error. -/
def refuseIf (c : Prop) [Decidable c] (e : DomainError) : Raises Unit :=
  raiseIf c (.problem (.domain e))

/-- The authority is not, or not any more, the one that counts. -/
def conflictIf (c : Prop) [Decidable c] (reason : String) : Raises Unit :=
  raiseIf c (.problem (.authorityStateConflict reason))

variable {α : Type} {a : α} {c : Prop} [Decidable c] {u : Unit}

theorem port_eq_ok {x : Port α} : port x = .ok a ↔ x = .ok a := by
  cases x <;> simp [port]

theorem domain_eq_ok {x : Result α} : domain x = .ok a ↔ x = .ok a := by
  rw [domain, port_eq_ok, Port.lift_eq_ok]

theorem handoff_eq_ok {x : Except HandoffFailure α} : handoff x = .ok a ↔ x = .ok a := by
  cases x with
  | ok b => simp [handoff]
  | error e => cases e <;> simp [handoff]

theorem refuseIf_eq_ok {e : DomainError} : refuseIf c e = .ok u ↔ ¬ c := raiseIf_eq_ok

theorem conflictIf_eq_ok {reason : String} : conflictIf c reason = .ok u ↔ ¬ c := raiseIf_eq_ok

end Raises

/-- Schema, aggregate and source version. -/
structure IdentityScope where
  schemaVersion : Str
  aggregateId : Str
  sourceVersion : ℤ
  deriving DecidableEq

structure FinalizeRunAuthority.Fields where
  runId : Str
  batchId : Str
  sourceRunVersion : ℤ
  authorityDigest : Digest
  writeEpoch : ℤ
  deriving DecidableEq

def FinalizeRunAuthority.Fields.postInit (a : FinalizeRunAuthority.Fields) : Port Unit := do
  Port.string "finalize_run_authority" "run_id" a.runId
  Port.string "finalize_run_authority" "batch_id" a.batchId
  Port.nonnegative "finalize_run_authority" "source_run_version" a.sourceRunVersion
  Port.positive "finalize_run_authority" "write_epoch" a.writeEpoch

/-- Current single-writer authority for one source Run version. -/
structure FinalizeRunAuthority extends FinalizeRunAuthority.Fields where
  accepted : toFields.postInit = .ok ()
  deriving DecidableEq

namespace FinalizeRunAuthority

def new : Fields → Port FinalizeRunAuthority := construct Fields.postInit FinalizeRunAuthority.mk

def identityScope (a : FinalizeRunAuthority) : IdentityScope :=
  ⟨"qep.run-finalization-basis.v1", a.runId, a.sourceRunVersion⟩

end FinalizeRunAuthority

structure RunFinalizationProjection.Fields where
  runId : Str
  sourceRunVersion : ℤ
  state : RunFinalizationState
  deriving DecidableEq

def RunFinalizationProjection.Fields.postInit (p : RunFinalizationProjection.Fields) :
    Port Unit := do
  Port.string "run_finalization_projection" "run_id" p.runId
  Port.nonnegative "run_finalization_projection" "source_run_version" p.sourceRunVersion
  Port.invalidIf (p.state.phase ≠ .closed ∨ p.state.disposition ≠ some .closedNoRetry ∨
    p.state.outcome.isNone ∨ p.state.finalizationBasisDigest.isNone)
    "run_finalization_projection" "state" "not_closed"

/-- Persisted terminal projection compared independently from its basis digest. -/
structure RunFinalizationProjection extends RunFinalizationProjection.Fields where
  accepted : toFields.postInit = .ok ()
  deriving DecidableEq

namespace RunFinalizationProjection

def new : Fields → Port RunFinalizationProjection :=
  construct Fields.postInit RunFinalizationProjection.mk

theorem new_eq_ok {f : Fields} {p : RunFinalizationProjection} :
    new f = .ok p ↔ p.toFields = f := by
  simp only [new, construct_eq_ok]
  constructor
  · rintro ⟨_, rfl⟩
    rfl
  · rintro rfl
    exact ⟨p.accepted, rfl⟩

theorem basisDigest_isSome (p : RunFinalizationProjection) :
    p.state.finalizationBasisDigest.isSome := by
  have h := p.accepted
  simp only [Fields.postInit, then_eq_ok, Port.invalidIf_eq_ok] at h
  cases hdigest : p.state.finalizationBasisDigest with
  | some digest => rfl
  | none => exact absurd (Or.inr (Or.inr (Or.inr (by rw [hdigest]; rfl)))) h.2.2

def basisDigest (p : RunFinalizationProjection) : Digest :=
  p.state.finalizationBasisDigest.get p.basisDigest_isSome

theorem basisDigest_eq_iff {p : RunFinalizationProjection} {digest : Digest} :
    p.basisDigest = digest ↔ p.state.finalizationBasisDigest = some digest := by
  rw [basisDigest, Option.eq_some_iff_get_eq]
  exact ⟨fun h => ⟨p.basisDigest_isSome, h⟩, fun ⟨_, h⟩ => h⟩

end RunFinalizationProjection

structure RunFinalizationMutationSnapshot.Fields where
  runId : Str
  runVersion : ℤ
  attemptId : Option Str
  attemptVersion : Option ℤ
  deriving DecidableEq

def RunFinalizationMutationSnapshot.Fields.postInit (s : RunFinalizationMutationSnapshot.Fields) :
    Port Unit := do
  Port.string "run_finalization_mutation_snapshot" "run_id" s.runId
  Port.nonnegative "run_finalization_mutation_snapshot" "run_version" s.runVersion
  Port.invalidIf (s.attemptId.isNone ≠ s.attemptVersion.isNone)
    "run_finalization_mutation_snapshot" "attempt" "identity_all_or_none"
  whenSome s.attemptId (Port.string "run_finalization_mutation_snapshot" "attempt_id")
  whenSome s.attemptVersion
    (Port.nonnegative "run_finalization_mutation_snapshot" "attempt_version")

/-- Locked versions used only after the stored replay lookup misses. -/
structure RunFinalizationMutationSnapshot extends RunFinalizationMutationSnapshot.Fields where
  accepted : toFields.postInit = .ok ()
  deriving DecidableEq

def RunFinalizationMutationSnapshot.new :
    RunFinalizationMutationSnapshot.Fields → Port RunFinalizationMutationSnapshot :=
  construct Fields.postInit RunFinalizationMutationSnapshot.mk

structure RunFinalizationSideEffect.Fields where
  runId : Str
  basisDigest : Digest
  outcome : RunOutcome
  deriving DecidableEq

def RunFinalizationSideEffect.Fields.postInit (e : RunFinalizationSideEffect.Fields) : Port Unit :=
  Port.string "run_finalization_side_effect" "run_id" e.runId

/-- Semantic identity shared by terminal audit and outbox publication. -/
structure RunFinalizationSideEffect extends RunFinalizationSideEffect.Fields where
  accepted : toFields.postInit = .ok ()
  deriving DecidableEq

def RunFinalizationSideEffect.new :
    RunFinalizationSideEffect.Fields → Port RunFinalizationSideEffect :=
  construct Fields.postInit RunFinalizationSideEffect.mk

structure RunFinalizationPublication.Fields where
  authority : FinalizeRunAuthority
  expectedSnapshot : RunFinalizationMutationSnapshot
  basis : RunFinalizationBasis
  resolutionSet : RunItemResolutionSet
  projection : RunFinalizationProjection
  sideEffect : RunFinalizationSideEffect
  handoff : RunClosedHandoff
  deriving DecidableEq

namespace RunFinalizationPublication.Fields

/-- The parts are not of one closing Run. -/
def bindingMismatch (p : Fields) : Raises Bool :=
  anyOf [.ok (decide (p.authority.runId ≠ p.projection.runId ∨
      p.authority.sourceRunVersion ≠ p.projection.sourceRunVersion ∨
      p.expectedSnapshot.runId ≠ p.projection.runId ∨
      p.expectedSnapshot.runVersion ≠ p.authority.sourceRunVersion ∨
      p.expectedSnapshot.attemptId ≠ p.basis.finalAttemptId ∨
      p.expectedSnapshot.attemptVersion ≠ p.basis.finalAttemptVersion ∨
      p.basis.runId ≠ p.projection.runId ∨ p.basis.batchId ≠ p.authority.batchId ∨
      p.basis.sourceRunVersion ≠ p.authority.sourceRunVersion)),
    differs p.projection.basisDigest (Raises.domain p.basis.basisDigest),
    .ok (decide (p.resolutionSet.runId ≠ p.projection.runId ∨
      p.resolutionSet.sourceRunVersion ≠ p.authority.sourceRunVersion)),
    differs p.basis.itemResolutionSetDigest (Raises.domain p.resolutionSet.resolutionSetDigest),
    .ok (decide (p.sideEffect.runId ≠ p.projection.runId)),
    differs p.sideEffect.basisDigest (Raises.domain p.basis.basisDigest),
    .ok (decide (some p.sideEffect.outcome ≠ p.projection.state.outcome)),
    differs p.handoff (Raises.handoff (buildRunClosedHandoff p.basis p.resolutionSet
      p.authority.authorityDigest p.authority.writeEpoch))]

def postInit (p : Fields) : Raises Unit := do
  let mismatch ← p.bindingMismatch
  Raises.port (Port.invalidIf (mismatch = true) "run_finalization_publication" "binding"
    "mismatch")

end RunFinalizationPublication.Fields

/-- One atomic terminal projection, basis identity, audit and outbox publication. -/
structure RunFinalizationPublication extends RunFinalizationPublication.Fields where
  accepted : toFields.postInit = .ok ()
  deriving DecidableEq

def RunFinalizationPublication.new :
    RunFinalizationPublication.Fields → Raises RunFinalizationPublication :=
  construct Fields.postInit RunFinalizationPublication.mk

/-- Authorize, lock and atomically publish one immutable Run terminal basis. -/
structure RunFinalizationGateway (σ : Type) where
  requireFinalizationAuthority : (runId : Str) → σ → Raises FinalizeRunAuthority
  lookupStored : IdentityScope → σ → Raises (Option RunFinalizationProjection)
  getMutationSnapshotForUpdate : (runId : Str) → σ → Raises RunFinalizationMutationSnapshot
  publishFinalization : RunFinalizationPublication → σ →
    Raises (ReplayResult RunFinalizationProjection × σ)

structure FinalizeRunResult where
  projection : RunFinalizationProjection
  replayed : Bool
  deriving DecidableEq

/-- The state of a Run that was closed on a basis. -/
def closedState (basis : RunFinalizationBasis) (basisDigest : Digest) :
    RunFinalizationState.Fields where
  phase := .closed
  disposition := some .closedNoRetry
  outcome := some basis.outcome
  finalizationBasisDigest := some basisDigest
  latestAttemptFact := basis.finalAttemptState
  currentAssignmentId := none
  pendingRetryIntentId := none

def RunFinalizationState.new : RunFinalizationState.Fields → Result RunFinalizationState :=
  construct Fields.postInit RunFinalizationState.mk

theorem RunFinalizationState.new_eq_ok {f : RunFinalizationState.Fields}
    {s : RunFinalizationState} : new f = .ok s ↔ s.toFields = f := by
  simp only [new, construct_eq_ok]
  constructor
  · rintro ⟨_, rfl⟩
    rfl
  · rintro rfl
    exact ⟨s.accepted, rfl⟩

namespace FinalizeRun

variable {σ : Type} (gateway : RunFinalizationGateway σ) (command : FinalizeRunCommand)

/-- The authority is for the source version, in the Batch, that the basis was made for. -/
def requireSource (authority : FinalizeRunAuthority) : Raises Unit :=
  let basis := command.candidateBasis
  Raises.refuseIf ((authority.batchId, authority.sourceRunVersion) ≠
      (basis.batchId, basis.sourceRunVersion))
    (.versionConflict "run" basis.runId authority.sourceRunVersion basis.sourceRunVersion)

def replay (stored : RunFinalizationProjection) : Raises FinalizeRunResult := do
  let basis := command.candidateBasis
  let digest ← Raises.domain basis.basisDigest
  Raises.refuseIf (stored.basisDigest ≠ digest)
    (.idempotencyConflict ("run:" ++ basis.runId ++ ":finalization")
      (toString basis.sourceRunVersion) stored.basisDigest.value digest.value)
  return ⟨stored, true⟩

def requireVersions (snapshot : RunFinalizationMutationSnapshot) : Raises Unit := do
  Raises.refuseIf (snapshot.attemptVersion ≠ command.expectedAttemptVersion)
    (.versionConflict "attempt" (snapshot.attemptId.getD "prestart")
      (snapshot.attemptVersion.getD 0) (command.expectedAttemptVersion.getD 0))
  Raises.refuseIf (snapshot.runVersion ≠ command.expectedRunVersion)
    (.versionConflict "run" command.candidateBasis.runId snapshot.runVersion
      command.expectedRunVersion)

def prepare (authority : FinalizeRunAuthority) (snapshot : RunFinalizationMutationSnapshot) :
    Raises RunFinalizationPublication := do
  let basis := command.candidateBasis
  requireVersions command snapshot
  let digest ← Raises.domain basis.basisDigest
  let state ← Raises.domain (RunFinalizationState.new (closedState basis digest))
  let projection ← Raises.port
    (RunFinalizationProjection.new ⟨basis.runId, basis.sourceRunVersion, state⟩)
  let sideEffect ← Raises.port
    (RunFinalizationSideEffect.new ⟨basis.runId, digest, basis.outcome⟩)
  let handoff ← Raises.handoff (buildRunClosedHandoff basis command.resolutionSet
    authority.authorityDigest authority.writeEpoch)
  RunFinalizationPublication.new {
    authority := authority
    expectedSnapshot := snapshot
    basis := basis
    resolutionSet := command.resolutionSet
    projection := projection
    sideEffect := sideEffect
    handoff := handoff }

def handler : Handler σ Raised FinalizeRunAuthority RunFinalizationProjection
    RunFinalizationProjection RunFinalizationMutationSnapshot RunFinalizationPublication
    FinalizeRunResult where
  require := do
    let authority ← .read (gateway.requireFinalizationAuthority command.candidateBasis.runId)
    .lift (requireSource command authority)
    return authority
  lookup authority := gateway.lookupStored authority.identityScope
  replay _ := replay command
  lock _ := gateway.getMutationSnapshotForUpdate command.candidateBasis.runId
  prepare := prepare command
  publish := gateway.publishFinalization
  finish result := ⟨result.value, result.replayed⟩

def execute : Prog σ Raised FinalizeRunResult := (handler gateway command).execute

end FinalizeRun

end QaRunner
