import QaRunner.Domain.TargetAccess
import QaRunner.Lib.Aggregate
import QaRunner.Lib.Occupancy

/-! When the lease book keeps the unit budget of its grant at every instant. -/
namespace QaRunner
open Guarded Aggregate

namespace EnvironmentLeaseBook

def active (b : EnvironmentLeaseBook) : List EnvironmentLease :=
  b.leases.filter fun lease => lease.state = .active

/-- The units of the active leases that contain an instant of the UTC clock. -/
def unitsAt (b : EnvironmentLeaseBook) (t : ℕ) : ℤ :=
  Occupancy.load (fun lease : EnvironmentLease => lease.acquiredAt.micros)
    (fun lease => lease.expiresAt.micros) (fun lease => lease.units) b.active t

/-- At no instant are more units in use than the grant allows. -/
def NeverOversold (b : EnvironmentLeaseBook) : Prop :=
  ∀ t n, b.activeUnitsAt t = .ok n → n ≤ b.grant.maxConcurrentUnits

/-- Where an active lease starts while the new one runs, the units of both fit. -/
def LeavesRoom (b : EnvironmentLeaseBook) (a : AcquireArgs) : Prop :=
  ∀ lease ∈ b.leases, lease.state = .active → a.acquiredAt < lease.acquiredAt →
    (lease.acquiredAt.micros : ℤ) < a.acquiredAt.micros + a.ttl →
    b.unitsAt lease.acquiredAt.micros + a.units ≤ b.grant.maxConcurrentUnits

variable {b b' : EnvironmentLeaseBook} {a : AcquireArgs} {lease : EnvironmentLease}

theorem isEffectiveAt_eq {t : Datetime} (ht : t.IsUtc) : lease.isEffectiveAt t =
    .ok (decide (lease.state = .active ∧ lease.acquiredAt ≤ t ∧ t < lease.expiresAt)) := by
  by_cases h : lease.state = .active <;>
    simp [EnvironmentLease.isEffectiveAt, requireUtc, invalidIf, raiseIf, ht, h]

theorem activeUnitsAt_eq {t : Datetime} (ht : t.IsUtc) :
    b.activeUnitsAt t = .ok (b.unitsAt t.micros) := by
  rw [activeUnitsAt, keepIf_of_ok fun lease _ => isEffectiveAt_eq ht, ok_bind, unitsAt,
    Occupancy.load, active, List.filter_filter]
  congr 4
  funext lease
  rw [← Bool.decide_and, decide_eq_decide, and_comm]
  rfl

theorem neverOversold_iff :
    b.NeverOversold ↔ ∀ t : ℕ, b.unitsAt t ≤ b.grant.maxConcurrentUnits := by
  constructor
  · intro h t
    exact h ⟨t, some 0⟩ _ (activeUnitsAt_eq rfl)
  · intro h t n hn
    by_cases ht : t.IsUtc
    · rw [activeUnitsAt_eq ht] at hn
      cases hn
      exact h t.micros
    · -- only the empty book answers for an instant that is not on the UTC clock
      cases hleases : b.leases with
      | nil =>
        rw [activeUnitsAt, hleases] at hn
        cases hn
        exact b.grant.maxConcurrentUnits_pos.le
      | cons lease rest =>
        simp [activeUnitsAt, hleases, keepIf, EnvironmentLease.isEffectiveAt, requireUtc, invalidIf,
          raiseIf, ht, error_bind] at hn

theorem acquire_eq_ok (h : b.acquire a = .ok (b', lease)) :
    b'.toFields = ⟨b.grant, b.leases ++ [lease]⟩ ∧ lease.state = .active ∧
      lease.acquiredAt = a.acquiredAt ∧ lease.units = a.units ∧
      (lease.expiresAt.micros : ℤ) = a.acquiredAt.micros + a.ttl ∧
      b.unitsAt a.acquiredAt.micros + a.units ≤ b.grant.maxConcurrentUnits := by
  simp only [acquire, invalidBookIf, bind_eq_ok, exists_unit, invalidIf_eq_ok, requireUtc_eq_ok,
    EnvironmentLease.new_eq_ok, EnvironmentLeaseBook.new_eq_ok, pure_eq_ok, Prod.mk.injEq] at h
  obtain ⟨-, -, -, -, hutc, -, -, -, -, -, active, hactive, hroom, expiresAt, hexpires, l, hl, book,
    hbook, rfl, rfl⟩ := h
  rw [activeUnitsAt_eq hutc] at hactive
  cases hactive
  rw [hl]
  exact ⟨hbook, rfl, rfl, rfl, (instantAfter_eq_ok.mp hexpires).1, not_lt.mp hroom⟩

/-- Ending leases leaves a part of the active ones. -/
theorem active_sublist {end' : EnvironmentLease → EnvironmentLease}
    (h : b'.toFields = ⟨b.grant, b.leases.map end'⟩)
    (hend : ∀ lease, end' lease = lease ∨ (end' lease).state ≠ .active) :
    b'.active.Sublist b.active := by
  rw [active, active, h]
  generalize b.leases = leases
  induction leases with
  | nil => exact List.Sublist.slnil
  | cons lease leases ih =>
    rw [List.map_cons]
    rcases hend lease with hsame | hended
    · rw [hsame]
      by_cases hactive : lease.state = .active
      · simpa [hactive] using ih
      · simpa [hactive] using ih
    · rw [List.filter_cons_of_neg (by simpa using hended)]
      exact ih.trans ((List.sublist_cons_self lease leases).filter _)

theorem endLease_sublist {target : EnvironmentLeaseState} {field leaseId : String}
    {endedAt : Datetime} (ht : target ≠ .active)
    (h : endLease target field b leaseId endedAt = .ok b') :
    b'.grant = b.grant ∧ b'.active.Sublist b.active := by
  simp only [endLease, bind_eq_ok, exists_unit] at h
  obtain ⟨-, current, -, h⟩ := h
  split at h
  · cases h
    exact ⟨rfl, List.Sublist.refl _⟩
  · simp only [then_eq_ok, EnvironmentLeaseBook.new_eq_ok] at h
    refine ⟨by rw [h.2], active_sublist h.2 fun lease => ?_⟩
    split
    · exact Or.inr ht
    · exact Or.inl rfl

theorem endWhere_sublist {target : EnvironmentLeaseState} {due : EnvironmentLease → Prop}
    [DecidablePred due] (ht : target ≠ .active) (h : endWhere target due b = .ok b') :
    b'.grant = b.grant ∧ b'.active.Sublist b.active := by
  rw [endWhere, EnvironmentLeaseBook.new_eq_ok] at h
  refine ⟨by rw [h], active_sublist h fun lease => ?_⟩
  split
  · exact Or.inr ht
  · exact Or.inl rfl

/-- A call adds one active lease that fits at its own start, or ends some of the leases. -/
theorem exec_cases {call : LeaseCall} (h : b.exec call = .ok b') :
    (∃ a lease, call = .acquire a ∧ b.acquire a = .ok (b', lease)) ∨
      (∀ a, call ≠ .acquire a) ∧ b'.grant = b.grant ∧ b'.active.Sublist b.active := by
  cases call with
  | acquire a =>
    refine Or.inl ?_
    simp only [exec] at h
    cases hacquire : b.acquire a with
    | error e =>
      rw [hacquire] at h
      cases h
    | ok r =>
      rw [hacquire] at h
      cases h
      exact ⟨a, r.2, rfl, hacquire⟩
  | release leaseId releasedAt => exact Or.inr ⟨by simp, endLease_sublist (by decide) h⟩
  | revoke leaseId revokedAt => exact Or.inr ⟨by simp, endLease_sublist (by decide) h⟩
  | revokeAllForGrant revokedAt =>
    simp only [exec, revokeAllForGrant, then_eq_ok] at h
    exact Or.inr ⟨by simp, endWhere_sublist (by decide) h.2⟩
  | expireDue observedAt =>
    simp only [exec, expireDue, then_eq_ok] at h
    exact Or.inr ⟨by simp, endWhere_sublist (by decide) h.2⟩

/-- The new lease adds its units exactly while it runs. -/
theorem unitsAt_acquire (h : b.acquire a = .ok (b', lease)) (t : ℕ) : b'.unitsAt t =
    b.unitsAt t + if a.acquiredAt.micros ≤ t ∧ (t : ℤ) < a.acquiredAt.micros + a.ttl then a.units
      else 0 := by
  obtain ⟨hbook, hstate, hacquired, hunits, hexpires, -⟩ := acquire_eq_ok h
  have hactive : b'.active = b.active ++ [lease] := by simp [active, hbook, hstate]
  have hcovers : Occupancy.Covers (fun lease : EnvironmentLease => lease.acquiredAt.micros)
      (fun lease => lease.expiresAt.micros) lease t ↔
      a.acquiredAt.micros ≤ t ∧ (t : ℤ) < a.acquiredAt.micros + a.ttl := by
    rw [Occupancy.Covers, hacquired, ← hexpires, Nat.cast_lt]
  rw [unitsAt, hactive, Occupancy.load_append, Occupancy.load_cons, Occupancy.load_nil, add_zero,
    hunits, unitsAt, if_congr hcovers rfl rfl]

/-- An accepted acquire keeps the budget exactly when it leaves room for the leases that start
while it runs. -/
theorem acquire_neverOversold_iff (hb : b.NeverOversold) (h : b.acquire a = .ok (b', lease)) :
    b'.NeverOversold ↔ b.LeavesRoom a := by
  obtain ⟨hbook, -, -, -, -, hroom⟩ := acquire_eq_ok h
  rw [neverOversold_iff] at hb ⊢
  simp only [hbook, unitsAt_acquire h]
  constructor
  · intro hfits other _ _ hstarts hruns
    have hat := hfits other.acquiredAt.micros
    rwa [if_pos ⟨Nat.le_of_lt hstarts, hruns⟩] at hat
  · intro hleaves t
    split
    · next hruns =>
      obtain ⟨s, -, hst, hs, hcovers⟩ := Occupancy.exists_peak b.active hruns.1
      have hpeak : b.unitsAt t ≤ b.unitsAt s :=
        Occupancy.load_le_of_covers (fun other _ => other.units_pos.le) hcovers
      have hat : b.unitsAt s + a.units ≤ b.grant.maxConcurrentUnits := by
        rcases hs with rfl | ⟨hlt, other, hother, rfl, -⟩
        · exact hroom
        · rw [active, List.mem_filter, decide_eq_true_iff] at hother
          exact hleaves other hother.1 hother.2 hlt (by omega)
      omega
    · have := hb t
      omega

theorem neverOversold_of_sublist (hb : b.NeverOversold) (hgrant : b'.grant = b.grant)
    (h : b'.active.Sublist b.active) : b'.NeverOversold := by
  rw [neverOversold_iff] at hb ⊢
  rw [hgrant]
  exact fun t => (Occupancy.load_le_of_sublist (fun other _ => other.units_pos.le) h).trans (hb t)

theorem empty_neverOversold (grant : TargetGrant) : (empty grant).NeverOversold := by
  rw [neverOversold_iff]
  exact fun _ => grant.maxConcurrentUnits_pos.le

/-- The budget holds all along a run exactly when every accepted acquire of the run leaves room. -/
theorem never_oversold_iff (grant : TargetGrant) (calls : List LeaseCall) :
    (∀ earlier, earlier <+: calls → (after exec (empty grant) earlier).NeverOversold) ↔
      ∀ b a b' lease, Issued exec (empty grant) calls b (.acquire a) →
        b.acquire a = .ok (b', lease) → b.LeavesRoom a := by
  constructor
  · rintro hall b a b' lease ⟨earlier, later, rfl, rfl⟩ h
    have hbefore := hall earlier (List.prefix_append _ _)
    have hafter := hall (earlier ++ [.acquire a]) ⟨later, by simp⟩
    have hexec : exec (after exec (empty grant) earlier) (.acquire a) = .ok b' := by
      simp only [exec, h]
      rfl
    rw [after_concat rfl hexec] at hafter
    exact (acquire_neverOversold_iff hbefore h).mp hafter
  · rintro hroom earlier ⟨later, rfl⟩
    by_contra hover
    obtain ⟨b, call, b', ⟨first, rest, rfl, rfl⟩, hok, hb, hb'⟩ :=
      exists_issued (P := fun b => ¬ NeverOversold b)
        (not_not.mpr (empty_neverOversold grant)) hover
    rw [not_not] at hb
    rcases exec_cases hok with ⟨a, lease, rfl, h⟩ | ⟨-, hgrant, hsub⟩
    · have hissued : Issued exec (empty grant) ((first ++ .acquire a :: rest) ++ later)
          (after exec (empty grant) first) (.acquire a) :=
        ⟨first, rest ++ later, by simp, rfl⟩
      exact hb' ((acquire_neverOversold_iff hb h).mpr (hroom _ a b' lease hissued h))
    · exact hb' (neverOversold_of_sublist hb hgrant hsub)

end EnvironmentLeaseBook

def stagingSpec : TargetSpec where
  targetId := "target-1"
  environment := "staging"
  allowedDnsNames := ["app.example.com"]
  allowedProtocols := ["https"]
  allowedPorts := [443]
  allowPrivateRfc1918 := false
  ownerId := "owner-1"
  accepted := by decide

/-- One unit for the first hundred microseconds. -/
def oneUnitGrant : TargetGrant where
  grantId := "grant-1"
  target := stagingSpec
  state := .active
  maxConcurrentUnits := 1
  validFrom := ⟨0, some 0⟩
  validUntil := ⟨100, some 0⟩
  version := 1
  accepted := by decide

def acquireOne (leaseId : String) (at' : ℕ) : LeaseCall :=
  .acquire ⟨leaseId, "attempt-1", 1, .session, 1, ⟨at', some 0⟩, 10⟩

/-- The second lease is acquired at an earlier instant and still runs when the first starts. -/
theorem oversold_out_of_order : ¬ ∀ (grant : TargetGrant) (calls : List LeaseCall) (t : Datetime)
    (n : ℤ), (after EnvironmentLeaseBook.exec (.empty grant) calls).activeUnitsAt t = .ok n →
      n ≤ grant.maxConcurrentUnits := by
  intro hall
  have hover := hall oneUnitGrant [acquireOne "lease-1" 20, acquireOne "lease-2" 15] ⟨20, some 0⟩ 2
    (by decide)
  revert hover
  decide

end QaRunner
