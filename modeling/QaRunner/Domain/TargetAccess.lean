import QaRunner.Domain.Digest
import QaRunner.Lib.Keyed
import Mathlib.Algebra.Ring.Int.Defs

/-! Target specs and grants, and the environment leases that occupy a grant's unit budget. -/
namespace QaRunner
open Guarded

structure TargetSpec.Fields where
  targetId : String
  environment : String
  allowedDnsNames : List String
  allowedProtocols : List String
  allowedPorts : List ℤ
  allowPrivateRfc1918 : Bool
  ownerId : String
  deriving DecidableEq

def TargetSpec.Fields.postInit (s : TargetSpec.Fields) : Result Unit := do
  each [("target_id", s.targetId), ("environment", s.environment), ("owner_id", s.ownerId)]
    fun f => invalidIf (isBlank f.2) "target_spec" f.1 "invalid"
  invalidIf (s.allowedDnsNames = [] ∨ ∃ name ∈ s.allowedDnsNames, isBlank name) "target_spec"
    "allowed_dns_names" "invalid"
  invalidIf (s.allowedProtocols = [] ∨ ∃ proto ∈ s.allowedProtocols, isBlank proto) "target_spec"
    "allowed_protocols" "invalid"
  invalidIf (s.allowedPorts = [] ∨ ∃ port ∈ s.allowedPorts, port < 1 ∨ 65535 < port) "target_spec"
    "allowed_ports" "invalid"

/-- Admin-maintained authorized destination vocabulary for one target. -/
structure TargetSpec extends TargetSpec.Fields where
  accepted : toFields.postInit = .ok ()
  deriving DecidableEq

inductive TargetGrantState where
  | draft
  | approved
  | active
  | suspended
  | expired
  | revoked
  deriving DecidableEq, Repr

structure TargetGrant.Fields where
  grantId : String
  target : TargetSpec
  state : TargetGrantState
  maxConcurrentUnits : ℤ
  validFrom : Datetime
  validUntil : Datetime
  version : ℤ
  deriving DecidableEq

def TargetGrant.Fields.postInit (g : TargetGrant.Fields) : Result Unit := do
  invalidIf (isBlank g.grantId) "target_grant" "grant_id" "invalid"
  invalidIf (g.maxConcurrentUnits < 1) "target_grant" "max_concurrent_units" "invalid"
  requireUtc "target_grant" "valid_from" g.validFrom
  requireUtc "target_grant" "valid_until" g.validUntil
  invalidIf (g.validUntil ≤ g.validFrom) "target_grant" "valid_until" "not_after_valid_from"
  invalidIf (g.version < 1) "target_grant" "version" "invalid"

/-- Permission ceiling for one target over a validity window. -/
structure TargetGrant extends TargetGrant.Fields where
  accepted : toFields.postInit = .ok ()
  deriving DecidableEq

def TargetGrant.isEffectiveAt (g : TargetGrant) (observedAt : Datetime) : Result Bool := do
  requireUtc "target_grant" "observed_at" observedAt
  if g.state ≠ .active then
    return false
  return g.validFrom ≤ observedAt ∧ observedAt < g.validUntil

theorem TargetGrant.maxConcurrentUnits_pos (g : TargetGrant) : 0 < g.maxConcurrentUnits := by
  have h := g.accepted
  simp only [Fields.postInit, then_eq_ok, invalidIf_eq_ok] at h
  omega

/-- What a lease occupies against the concurrent unit budget of the grant. -/
inductive LeaseDimension where
  | session
  | account
  | tenant
  | dataNamespace
  | qpsToken
  | destructiveLane
  deriving DecidableEq, Repr

inductive EnvironmentLeaseState where
  | active
  | released
  | expired
  | revoked
  deriving DecidableEq, Repr

structure EnvironmentLease.Fields where
  leaseId : String
  grantId : String
  targetId : String
  attemptId : String
  fence : ℤ
  dimension : LeaseDimension
  units : ℤ
  acquiredAt : Datetime
  expiresAt : Datetime
  state : EnvironmentLeaseState
  deriving DecidableEq

def EnvironmentLease.Fields.postInit (l : EnvironmentLease.Fields) : Result Unit := do
  each [("lease_id", l.leaseId), ("grant_id", l.grantId), ("target_id", l.targetId),
    ("attempt_id", l.attemptId)] fun f => invalidIf (isBlank f.2) "environment_lease" f.1 "invalid"
  invalidIf (l.fence < 1) "environment_lease" "fence" "invalid"
  invalidIf (l.units < 1) "environment_lease" "units" "invalid"
  requireUtc "environment_lease" "acquired_at" l.acquiredAt
  requireUtc "environment_lease" "expires_at" l.expiresAt
  invalidIf (l.expiresAt ≤ l.acquiredAt) "environment_lease" "expires_at" "not_after_acquired_at"

/-- One attempt's occupancy of a grant's unit budget. -/
structure EnvironmentLease extends EnvironmentLease.Fields where
  accepted : toFields.postInit = .ok ()
  deriving DecidableEq

def EnvironmentLease.new : EnvironmentLease.Fields → Result EnvironmentLease :=
  construct EnvironmentLease.Fields.postInit EnvironmentLease.mk

theorem EnvironmentLease.new_eq_ok {f : EnvironmentLease.Fields} {l : EnvironmentLease} :
    EnvironmentLease.new f = .ok l ↔ l.toFields = f := by
  rw [EnvironmentLease.new, construct_eq_ok]
  constructor
  · rintro ⟨_, rfl⟩
    rfl
  · rintro rfl
    exact ⟨l.accepted, rfl⟩

def EnvironmentLease.isEffectiveAt (l : EnvironmentLease) (observedAt : Datetime) :
    Result Bool := do
  requireUtc "environment_lease" "observed_at" observedAt
  if l.state ≠ .active then
    return false
  return l.acquiredAt ≤ observedAt ∧ observedAt < l.expiresAt

theorem EnvironmentLease.units_pos (l : EnvironmentLease) : 0 < l.units := by
  have h := l.accepted
  simp only [Fields.postInit, then_eq_ok, invalidIf_eq_ok] at h
  omega

/-- No check of a lease reads its state. -/
def replaceLeaseState (lease : EnvironmentLease) (state : EnvironmentLeaseState) :
    EnvironmentLease where
  toFields := { lease.toFields with state := state }
  accepted := lease.accepted

structure EnvironmentLeaseBook.Fields where
  grant : TargetGrant
  leases : List EnvironmentLease
  deriving DecidableEq

def EnvironmentLeaseBook.Fields.postInit (b : EnvironmentLeaseBook.Fields) : Result Unit := do
  invalidIf (¬ (b.leases.map (·.leaseId)).Nodup) "environment_lease_book" "leases" "duplicate_id"
  each b.leases fun lease => do
    invalidIf (lease.grantId ≠ b.grant.grantId) "environment_lease_book" "leases" "grant_mismatch"
    invalidIf (lease.targetId ≠ b.grant.target.targetId) "environment_lease_book" "leases"
      "target_mismatch"

/-- Global unit ledger for one grant. -/
structure EnvironmentLeaseBook extends EnvironmentLeaseBook.Fields where
  accepted : toFields.postInit = .ok ()
  deriving DecidableEq

def EnvironmentLeaseBook.new : EnvironmentLeaseBook.Fields → Result EnvironmentLeaseBook :=
  construct EnvironmentLeaseBook.Fields.postInit EnvironmentLeaseBook.mk

theorem EnvironmentLeaseBook.new_eq_ok {f : EnvironmentLeaseBook.Fields}
    {b : EnvironmentLeaseBook} : EnvironmentLeaseBook.new f = .ok b ↔ b.toFields = f := by
  rw [EnvironmentLeaseBook.new, construct_eq_ok]
  constructor
  · rintro ⟨_, rfl⟩
    rfl
  · rintro rfl
    exact ⟨b.accepted, rfl⟩

structure AcquireArgs where
  leaseId : String
  attemptId : String
  fence : ℤ
  dimension : LeaseDimension
  units : ℤ
  acquiredAt : Datetime
  ttl : ℤ

namespace EnvironmentLeaseBook

def empty (grant : TargetGrant) : EnvironmentLeaseBook where
  grant := grant
  leases := []
  accepted := by simp [Fields.postInit, then_eq_ok, invalidIf_eq_ok, each]

def leaseById (b : EnvironmentLeaseBook) (leaseId : String) : Option EnvironmentLease :=
  b.leases.find? fun lease => lease.leaseId = leaseId

def activeUnitsAt (b : EnvironmentLeaseBook) (observedAt : Datetime) : Result ℤ := do
  let effective ← keepIf b.leases fun lease => lease.isEffectiveAt observedAt
  return (effective.map (·.units)).sum

def invalidBookIf (c : Prop) [Decidable c] (field reason : String) : Result Unit :=
  invalidIf c "environment_lease_book" field reason

/-- Occupy units of the grant from an instant on; the budget is counted at that instant. -/
def acquire (b : EnvironmentLeaseBook) (a : AcquireArgs) :
    Result (EnvironmentLeaseBook × EnvironmentLease) := do
  invalidBookIf (isBlank a.leaseId) "lease_id" "invalid"
  invalidBookIf (isBlank a.attemptId) "attempt_id" "invalid"
  invalidBookIf (a.fence < 1) "fence" "invalid"
  invalidBookIf (a.units < 1) "units" "invalid"
  requireUtc "environment_lease_book" "acquired_at" a.acquiredAt
  invalidBookIf (a.ttl ≤ 0) "ttl" "invalid"
  invalidBookIf (b.leaseById a.leaseId).isSome "lease_id" "duplicate"
  let effective ← b.grant.isEffectiveAt a.acquiredAt
  invalidBookIf (effective = false) "grant" "grant_not_effective"
  let active ← b.activeUnitsAt a.acquiredAt
  invalidBookIf (b.grant.maxConcurrentUnits < active + a.units) "units" "oversell"
  let expiresAt ← instantAfter a.acquiredAt a.ttl
  let lease ← EnvironmentLease.new {
    leaseId := a.leaseId
    grantId := b.grant.grantId
    targetId := b.grant.target.targetId
    attemptId := a.attemptId
    fence := a.fence
    dimension := a.dimension
    units := a.units
    acquiredAt := a.acquiredAt
    expiresAt
    state := .active }
  let book ← EnvironmentLeaseBook.new ⟨b.grant, b.leases ++ [lease]⟩
  return (book, lease)

/-- End one active lease in the given state; a lease already in that state is an exact replay. -/
def endLease (target : EnvironmentLeaseState) (field : String) (b : EnvironmentLeaseBook)
    (leaseId : String) (endedAt : Datetime) : Result EnvironmentLeaseBook := do
  requireUtc "environment_lease_book" field endedAt
  let current ← need (b.leaseById leaseId)
    (.domainValidation "environment_lease_book" "lease_id" "not_found")
  if current.state = target then
    return b
  invalidBookIf (current.state ≠ .active) "lease_id" "not_active"
  let updated := replaceLeaseState current target
  EnvironmentLeaseBook.new ⟨b.grant,
    b.leases.map fun lease => if lease.leaseId = leaseId then updated else lease⟩

def release (b : EnvironmentLeaseBook) (leaseId : String) (releasedAt : Datetime) :
    Result EnvironmentLeaseBook := endLease .released "released_at" b leaseId releasedAt

def revoke (b : EnvironmentLeaseBook) (leaseId : String) (revokedAt : Datetime) :
    Result EnvironmentLeaseBook := endLease .revoked "revoked_at" b leaseId revokedAt

/-- End every active lease that satisfies a condition. -/
def endWhere (target : EnvironmentLeaseState) (due : EnvironmentLease → Prop) [DecidablePred due]
    (b : EnvironmentLeaseBook) : Result EnvironmentLeaseBook :=
  EnvironmentLeaseBook.new ⟨b.grant, b.leases.map fun lease =>
    if lease.state = .active ∧ due lease then replaceLeaseState lease target else lease⟩

/-- When the grant is suspended or revoked every lease still active is revoked. -/
def revokeAllForGrant (b : EnvironmentLeaseBook) (revokedAt : Datetime) :
    Result EnvironmentLeaseBook := do
  requireUtc "environment_lease_book" "revoked_at" revokedAt
  b.endWhere .revoked fun _ => True

def expireDue (b : EnvironmentLeaseBook) (observedAt : Datetime) :
    Result EnvironmentLeaseBook := do
  requireUtc "environment_lease_book" "observed_at" observedAt
  b.endWhere .expired fun lease => lease.expiresAt ≤ observedAt

end EnvironmentLeaseBook

/-- The calls that change a lease book. -/
inductive LeaseCall where
  | acquire (args : AcquireArgs)
  | release (leaseId : String) (releasedAt : Datetime)
  | revoke (leaseId : String) (revokedAt : Datetime)
  | revokeAllForGrant (revokedAt : Datetime)
  | expireDue (observedAt : Datetime)

def EnvironmentLeaseBook.exec (b : EnvironmentLeaseBook) : LeaseCall → Result EnvironmentLeaseBook
  | .acquire args => Prod.fst <$> b.acquire args
  | .release leaseId releasedAt => b.release leaseId releasedAt
  | .revoke leaseId revokedAt => b.revoke leaseId revokedAt
  | .revokeAllForGrant revokedAt => b.revokeAllForGrant revokedAt
  | .expireDue observedAt => b.expireDue observedAt

end QaRunner
