import QaRunner.Domain.Digest

/-! Worker identity, the generation snapshot a reservation reads, and the authority
snapshots supplied by the control plane. -/
namespace QaRunner
open Guarded

inductive WorkerState where
  | registering
  | ready
  | busy
  | draining
  | quarantined
  | offline
  | retired
  deriving DecidableEq, Repr

def WorkerState.value : WorkerState → String
  | .registering => "registering"
  | .ready => "ready"
  | .busy => "busy"
  | .draining => "draining"
  | .quarantined => "quarantined"
  | .offline => "offline"
  | .retired => "retired"

structure WorkerRef.Fields where
  workerId : Str
  generation : ℤ
  deriving DecidableEq

def WorkerRef.Fields.postInit (w : WorkerRef.Fields) : Result Unit := do
  invalidIf (isBlank w.workerId) "worker_ref" "worker_id" "empty_id"
  invalidIf (w.generation ≤ 0) "worker_ref" "generation" "not_positive"

/-- Identity of one immutable Worker generation. -/
structure WorkerRef extends WorkerRef.Fields where
  accepted : toFields.postInit = .ok ()
  deriving DecidableEq

theorem WorkerRef.first_accepted : (⟨"worker-1", 1⟩ : WorkerRef.Fields).postInit = .ok () := rfl

def WorkerRef.payload (w : WorkerRef) : Json :=
  .dict [("worker_id", .str w.workerId), ("generation", .int w.generation)]

structure WorkerGeneration.Fields where
  ref : WorkerRef
  hostId : Str
  poolId : Str
  certSerial : Str
  agentVersion : Str
  capabilitiesDigest : Digest
  state : WorkerState
  registeredAt : Datetime
  stateChangedAt : Datetime
  lastSeenAt : Option Datetime
  retiredAt : Option Datetime
  version : ℤ

def WorkerGeneration.Fields.postInit (w : WorkerGeneration.Fields) : Result Unit := do
  each [("host_id", w.hostId), ("pool_id", w.poolId), ("cert_serial", w.certSerial),
    ("agent_version", w.agentVersion)] fun f =>
    invalidIf (isBlank f.2) "worker_generation" f.1 "empty_value"
  invalidIf (w.version < 0) "worker_generation" "version" "negative"
  requireUtc "worker_generation" "registered_at" w.registeredAt
  requireUtc "worker_generation" "state_changed_at" w.stateChangedAt
  invalidIf (w.stateChangedAt < w.registeredAt) "worker_generation" "state_changed_at"
    "before_registration"
  whenSome w.lastSeenAt fun seen => do
    requireUtc "worker_generation" "last_seen_at" seen
    invalidIf (seen < w.registeredAt) "worker_generation" "last_seen_at" "before_registration"
  whenSome w.retiredAt fun retired => do
    requireUtc "worker_generation" "retired_at" retired
    invalidIf (retired ≠ w.stateChangedAt) "worker_generation" "retired_at"
      "must_equal_state_changed_at"
  invalidIf (¬ (w.state = .retired ↔ w.retiredAt.isSome)) "worker_generation" "retired_at"
    "must_match_retired_state"

/-- Immutable control-plane facts for one Worker rebuild generation. -/
structure WorkerGeneration extends WorkerGeneration.Fields where
  accepted : toFields.postInit = .ok ()

/-- Registry-owned current generation for one logical Worker. -/
structure WorkerAuthority where
  currentRef : WorkerRef

def WorkerGeneration.ensureAuthority (w : WorkerGeneration) (authority : WorkerAuthority) :
    Result Unit :=
  raiseIf (w.ref ≠ authority.currentRef)
    (.workerGenerationConflict authority.currentRef.workerId authority.currentRef.generation
      w.ref.workerId w.ref.generation "generation_not_current")

/-- Return the current identity only when the generation may claim work. -/
def WorkerGeneration.claimableRef (w : WorkerGeneration) (authority : WorkerAuthority) :
    Result WorkerRef := do
  w.ensureAuthority authority
  raiseIf (w.state ≠ .ready ∧ w.state ≠ .busy)
    (.workerNotClaimable w.ref.workerId w.ref.generation w.state.value)
  return w.ref

structure AttemptAuthority.Fields where
  currentFence : ℤ
  currentWorker : WorkerRef

def AttemptAuthority.Fields.postInit (a : AttemptAuthority.Fields) : Result Unit :=
  requirePositiveInteger "attempt_authority" "current_fence" a.currentFence

/-- Current Run fence and Worker generation from authoritative aggregates. -/
structure AttemptAuthority extends AttemptAuthority.Fields where
  accepted : toFields.postInit = .ok ()

def AttemptAuthority.new : AttemptAuthority.Fields → Result AttemptAuthority :=
  construct AttemptAuthority.Fields.postInit AttemptAuthority.mk

end QaRunner
