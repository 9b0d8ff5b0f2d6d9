import QaRunner.Domain.Worker
import Mathlib.Data.List.Chain

/-! Assignment leases, their renewal, and when a stop order stays final along a chain of them. -/
namespace QaRunner
open Guarded

/-- Control-plane instruction returned on renew. -/
inductive LeaseCommand where
  | continue
  | stopCancelled
  | stopExpired
  | stopPolicyRevoked
  | drainAfterCurrent
  | quarantine
  deriving DecidableEq, Repr

def LeaseCommand.stops : LeaseCommand → Bool
  | .stopCancelled | .stopExpired | .stopPolicyRevoked | .quarantine => true
  | _ => false

structure AssignmentLease.Fields where
  assignmentId : Str
  worker : WorkerRef
  fence : ℤ
  leaseVersion : ℤ
  issuedAt : Datetime
  expiresAt : Datetime
  command : LeaseCommand := .continue
  deriving DecidableEq

def AssignmentLease.Fields.postInit (l : AssignmentLease.Fields) : Result Unit := do
  invalidIf (isBlank l.assignmentId) "assignment_lease" "assignment_id" "invalid"
  invalidIf (l.fence < 1) "assignment_lease" "fence" "invalid"
  invalidIf (l.leaseVersion < 1) "assignment_lease" "lease_version" "invalid"
  requireUtc "assignment_lease" "issued_at" l.issuedAt
  requireUtc "assignment_lease" "expires_at" l.expiresAt
  invalidIf (l.expiresAt ≤ l.issuedAt) "assignment_lease" "expires_at" "not_after_issued_at"

/-- Lease snapshot bound to one assignment fence and worker generation. -/
structure AssignmentLease extends AssignmentLease.Fields where
  accepted : toFields.postInit = .ok ()
  deriving DecidableEq

def AssignmentLease.new : AssignmentLease.Fields → Result AssignmentLease :=
  construct AssignmentLease.Fields.postInit AssignmentLease.mk

theorem AssignmentLease.new_eq_ok {f : AssignmentLease.Fields} {l : AssignmentLease} :
    AssignmentLease.new f = .ok l ↔ l.toFields = f := by
  rw [AssignmentLease.new, construct_eq_ok]
  constructor
  · rintro ⟨_, rfl⟩
    rfl
  · rintro rfl
    exact ⟨l.accepted, rfl⟩

structure RenewArgs where
  requestLeaseVersion : ℤ
  observedAt : Datetime
  ttl : ℤ
  command : LeaseCommand := .continue
  worker : Option WorkerRef := none

namespace AssignmentLease

/-- Issue the first lease for a committed assignment. -/
def issue (assignmentId : Str) (worker : WorkerRef) (fence leaseVersion : ℤ)
    (issuedAt : Datetime) (ttl : ℤ) (command : LeaseCommand) : Result AssignmentLease := do
  invalidIf (ttl ≤ 0) "assignment_lease" "ttl" "invalid"
  let expiresAt ← instantAfter issuedAt ttl
  AssignmentLease.new {
    assignmentId, worker, fence, leaseVersion, issuedAt, expiresAt, command }

/-- Extend the lease when the request carries the current version and is in the window. -/
def renew (l : AssignmentLease) (a : RenewArgs) : Result AssignmentLease := do
  let requesting := a.worker.getD l.worker
  raiseIf (requesting.workerId ≠ l.worker.workerId ∨ requesting.generation ≠ l.worker.generation)
    (.workerGenerationConflict l.worker.workerId l.worker.generation requesting.workerId
      requesting.generation "generation_mismatch")
  requireUtc "assignment_lease" "observed_at" a.observedAt
  invalidIf (a.ttl ≤ 0) "assignment_lease" "ttl" "invalid"
  raiseIf (a.requestLeaseVersion ≠ l.leaseVersion)
    (.workerLeaseConflict l.assignmentId "stale_lease_version")
  raiseIf (l.expiresAt ≤ a.observedAt) (.workerLeaseConflict l.assignmentId "lease_expired")
  raiseIf (l.command.stops = true ∧ a.command = .continue)
    (.workerLeaseConflict l.assignmentId "stop_command_active")
  let expiresAt ← instantAfter a.observedAt a.ttl
  AssignmentLease.new { l.toFields with
    leaseVersion := l.leaseVersion + 1
    issuedAt := a.observedAt
    expiresAt
    command := a.command }

/-- Some renewal of the first lease returns the second. -/
def Renewed (l l' : AssignmentLease) : Prop := ∃ a, l.renew a = .ok l'

/-- The next version, observed before the previous lease expired. -/
structure Follows (l l' : AssignmentLease) : Prop where
  leaseVersion : l'.leaseVersion = l.leaseVersion + 1
  inWindow : l'.issuedAt < l.expiresAt

/-- What a lease is bound to. -/
structure SameHolder (l l' : AssignmentLease) : Prop where
  assignmentId : l'.assignmentId = l.assignmentId
  worker : l'.worker = l.worker
  fence : l'.fence = l.fence

/-- After a stop order no lease says to continue. -/
def StopFinal (leases : List AssignmentLease) : Prop :=
  leases.Pairwise fun l l' => l.command.stops = true → l'.command ≠ .continue

/-- No lease that carries a stop order is renewed into a drain. -/
def NoDrainAfterStop (leases : List AssignmentLease) : Prop :=
  leases.IsChain fun l l' => l.command.stops = true → l'.command ≠ .drainAfterCurrent

instance (leases : List AssignmentLease) : Decidable (StopFinal leases) :=
  inferInstanceAs (Decidable (leases.Pairwise _))

variable {l l' : AssignmentLease}

theorem SameHolder.trans {l₁ l₂ l₃ : AssignmentLease} (h : SameHolder l₁ l₂)
    (h' : SameHolder l₂ l₃) : SameHolder l₁ l₃ where
  assignmentId := h'.assignmentId.trans h.assignmentId
  worker := h'.worker.trans h.worker
  fence := h'.fence.trans h.fence

theorem renewed_cases (h : Renewed l l') : Follows l l' ∧ SameHolder l l' ∧
    ¬ (l.command.stops = true ∧ l'.command = .continue) ∧
    l'.expiresAt.micros ≤ Datetime.lastMicros := by
  obtain ⟨a, h⟩ := h
  simp only [renew, bind_eq_ok, exists_unit, raiseIf_eq_ok, invalidIf_eq_ok, requireUtc_eq_ok,
    instantAfter_eq_ok, AssignmentLease.new_eq_ok] at h
  obtain ⟨-, -, -, -, hwindow, hstop, expiresAt, hexpires, hl⟩ := h
  rw [hl]
  exact ⟨⟨by rw [hl], by rw [hl]; exact Nat.lt_of_not_le hwindow⟩,
    ⟨by rw [hl], by rw [hl], by rw [hl]⟩, hstop, hexpires.2.1⟩

/-- A lease without a stop order can be renewed at the instant it was issued. -/
theorem exists_continue (h : l.command.stops = false)
    (hlast : l.expiresAt.micros ≤ Datetime.lastMicros) :
    ∃ l', Renewed l l' ∧ l'.command = .continue := by
  have haccepted := l.accepted
  simp only [Fields.postInit, then_eq_ok, invalidIf_eq_ok, requireUtc_eq_ok] at haccepted
  obtain ⟨hid, hfence, hversion, hissued, hexpires, hwindow⟩ := haccepted
  have hlt : l.issuedAt.micros < l.expiresAt.micros := Nat.lt_of_not_le hwindow
  let next : AssignmentLease.Fields := { l.toFields with
    leaseVersion := l.leaseVersion + 1
    command := .continue }
  have hnext : next.postInit = .ok () := by
    simp only [Fields.postInit, then_eq_ok, invalidIf_eq_ok, requireUtc_eq_ok]
    exact ⟨hid, hfence, by simp only [next]; omega, hissued, hexpires, hwindow⟩
  refine ⟨⟨next, hnext⟩, ⟨⟨l.leaseVersion, l.issuedAt,
    l.expiresAt.micros - l.issuedAt.micros, .continue, none⟩, ?_⟩, rfl⟩
  simp only [renew, bind_eq_ok, exists_unit, raiseIf_eq_ok, invalidIf_eq_ok, requireUtc_eq_ok,
    instantAfter_eq_ok, AssignmentLease.new_eq_ok, Option.getD_none, ne_eq, not_true_eq_false,
    or_self, not_false_eq_true, true_and, h, Bool.false_eq_true, false_and]
  exact ⟨hissued, by omega, hwindow, l.expiresAt, ⟨by omega, hlast, hexpires.trans hissued.symm⟩,
    rfl⟩

theorem stopFinal_of_noDrain {leases : List AssignmentLease} (h : leases.IsChain Renewed)
    (hdrain : NoDrainAfterStop leases) : StopFinal leases := by
  have hstops : leases.IsChain fun l l' => l.command.stops = true → l'.command.stops = true := by
    rw [NoDrainAfterStop, List.isChain_iff_forall_rel_of_append_cons_cons] at hdrain
    rw [List.isChain_iff_forall_rel_of_append_cons_cons] at h ⊢
    intro l l' earlier later hleases hstop
    have hcontinue := (renewed_cases (h hleases)).2.2.1
    have hnodrain := hdrain hleases hstop
    cases hcommand : l'.command <;> simp_all [LeaseCommand.stops]
  have : IsTrans AssignmentLease
      fun l l' => l.command.stops = true → l'.command.stops = true :=
    ⟨fun _ _ _ h h' hstop => h' (h hstop)⟩
  apply (List.isChain_iff_pairwise.mp hstops).imp
  intro l l' hstop hl hcontinue
  have := hstop hl
  rw [hcontinue] at this
  cases this

/-- Along any chain of renewals versions rise by one, renewals fall into the window and the holder
stays; a stop order stays final unless a lease that carries one is renewed into a drain, and
from such a renewal the next one can continue. -/
theorem renewal_chain (leases : List AssignmentLease) (h : leases.IsChain Renewed) :
    leases.IsChain Follows ∧ leases.Pairwise SameHolder ∧
      (NoDrainAfterStop leases → StopFinal leases) ∧
      ∀ earlier l l', leases = earlier ++ [l, l'] → l.command.stops = true →
        l'.command = .drainAfterCurrent →
        ∃ next, (leases ++ [next]).IsChain Renewed ∧ ¬ StopFinal (leases ++ [next]) := by
  refine ⟨h.imp fun _ _ h => (renewed_cases h).1, ?_, stopFinal_of_noDrain h, ?_⟩
  · have : IsTrans AssignmentLease SameHolder := ⟨fun _ _ _ => SameHolder.trans⟩
    exact List.isChain_iff_pairwise.mp (h.imp fun _ _ h => (renewed_cases h).2.1)
  · rintro earlier l l' rfl hstop hdrain
    have hlast : Renewed l l' := by
      simpa using (List.isChain_append.mp h).2.1
    obtain ⟨next, hnext, hcontinue⟩ := exists_continue (by rw [hdrain]; rfl)
      (renewed_cases hlast).2.2.2
    refine ⟨next, List.isChain_append.mpr ⟨h, List.isChain_singleton next, ?_⟩, ?_⟩
    · simpa using hnext
    · intro hfinal
      have := (List.pairwise_append.mp hfinal).2.2 l (by simp) next (by simp) hstop
      exact this hcontinue

def leaseWorker : WorkerRef := ⟨⟨"worker-1", 1⟩, WorkerRef.first_accepted⟩

/-- A lease of thirty microseconds whose version is one more than its instant of issue. -/
def heldLease (issued : ℕ) (command : LeaseCommand) : AssignmentLease where
  assignmentId := "assignment-1"
  worker := leaseWorker
  fence := 1
  leaseVersion := issued + 1
  issuedAt := ⟨issued, some 0⟩
  expiresAt := ⟨issued + 30, some 0⟩
  command := command
  accepted := by
    simp only [Fields.postInit, then_eq_ok, invalidIf_eq_ok, requireUtc_eq_ok]
    exact ⟨by decide, by decide, by omega, rfl, rfl, Nat.not_le_of_lt (by simp)⟩

def renewAfter (issued : ℕ) (command : LeaseCommand) : RenewArgs :=
  ⟨issued + 1, ⟨issued + 1, some 0⟩, 30, command, none⟩

def stopDrainContinue : List AssignmentLease :=
  [heldLease 0 .stopCancelled, heldLease 1 .drainAfterCurrent, heldLease 2 .continue]

theorem stopDrainContinue_chain : stopDrainContinue.IsChain Renewed :=
  .cons_cons ⟨renewAfter 0 .drainAfterCurrent, rfl⟩
    (.cons_cons ⟨renewAfter 1 .continue, rfl⟩ (.singleton _))

theorem renewal_chain_drained : stopDrainContinue.IsChain Follows ∧
    ∃ next, (stopDrainContinue.take 2 ++ [next]).IsChain Renewed ∧
      ¬ StopFinal (stopDrainContinue.take 2 ++ [next]) :=
  ⟨(renewal_chain stopDrainContinue stopDrainContinue_chain).1,
    (renewal_chain (stopDrainContinue.take 2) (stopDrainContinue_chain.take 2)).2.2.2 [] _ _ rfl rfl
      rfl⟩

/-- A stop order does not stay final: a drain between it and a later renewal lifts it. -/
theorem stop_not_final : ¬ ∀ leases : List AssignmentLease, leases.IsChain Renewed →
    leases.IsChain Follows ∧ leases.Pairwise SameHolder ∧ StopFinal leases := by
  intro hall
  have hfinal := (hall stopDrainContinue stopDrainContinue_chain).2.2
  revert hfinal
  decide

end AssignmentLease
end QaRunner
