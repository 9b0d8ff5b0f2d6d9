import QaRunner.Domain.Worker
import QaRunner.Lib.Aggregate
import QaRunner.Lib.Keyed

/-! Short-lived secret deliveries bound to an attempt, a target and a purpose; when a use is
authorized, and that a delivery that was ended stays ended. -/
namespace QaRunner
open Guarded Aggregate

inductive SecretDeliveryState where
  | active
  | revoked
  | expired
  deriving DecidableEq, Repr

structure SecretDelivery.Fields where
  deliveryHandle : String
  secretRef : String
  secretVersion : String
  runId : String
  attemptId : String
  fence : ℤ
  worker : WorkerRef
  targetId : String
  purpose : String
  issuedAt : Datetime
  expiresAt : Datetime
  state : SecretDeliveryState
  deriving DecidableEq

def SecretDelivery.Fields.postInit (d : SecretDelivery.Fields) : Result Unit := do
  each [("delivery_handle", d.deliveryHandle), ("secret_ref", d.secretRef),
    ("secret_version", d.secretVersion), ("run_id", d.runId), ("attempt_id", d.attemptId),
    ("target_id", d.targetId), ("purpose", d.purpose)] fun f =>
    invalidIf (isBlank f.2) "secret_delivery" f.1 "invalid"
  invalidIf (d.fence < 1) "secret_delivery" "fence" "invalid"
  requireUtc "secret_delivery" "issued_at" d.issuedAt
  requireUtc "secret_delivery" "expires_at" d.expiresAt
  invalidIf (d.expiresAt ≤ d.issuedAt) "secret_delivery" "expires_at" "not_after_issued_at"

/-- One opaque delivery capability. -/
structure SecretDelivery extends SecretDelivery.Fields where
  accepted : toFields.postInit = .ok ()
  deriving DecidableEq

def SecretDelivery.new : SecretDelivery.Fields → Result SecretDelivery :=
  construct SecretDelivery.Fields.postInit SecretDelivery.mk

namespace SecretDelivery

def isActiveAt (d : SecretDelivery) (observedAt : Datetime) : Result Bool := do
  requireUtc "secret_delivery" "observed_at" observedAt
  if d.state ≠ .active then
    return false
  return d.issuedAt ≤ observedAt ∧ observedAt < d.expiresAt

/-- No check of a delivery reads its state. -/
def withState (d : SecretDelivery) (state : SecretDeliveryState) : SecretDelivery where
  toFields := { d.toFields with state := state }
  accepted := d.accepted

theorem isActiveAt_eq_true {d : SecretDelivery} {observedAt : Datetime} :
    d.isActiveAt observedAt = .ok true ↔ observedAt.IsUtc ∧ d.state = .active ∧
      d.issuedAt ≤ observedAt ∧ observedAt < d.expiresAt := by
  rw [isActiveAt, then_eq_ok, requireUtc_eq_ok]
  refine and_congr_right fun _ => ?_
  by_cases h : d.state = .active <;> simp [h, pure_eq_ok]

theorem issuedAt_lt_expiresAt (d : SecretDelivery) : d.issuedAt < d.expiresAt := by
  have h := d.accepted
  simp only [Fields.postInit, then_eq_ok, invalidIf_eq_ok] at h
  exact Nat.lt_of_not_le h.2.2.2.2

end SecretDelivery

def SecretDeliveryLedger.postInit (deliveries : List SecretDelivery) : Result Unit :=
  invalidIf (¬ (deliveries.map (·.deliveryHandle)).Nodup) "secret_delivery_ledger" "deliveries"
    "duplicate_handle"

/-- Ledger of opaque secret deliveries. -/
structure SecretDeliveryLedger where
  deliveries : List SecretDelivery
  accepted : SecretDeliveryLedger.postInit deliveries = .ok ()
  deriving DecidableEq

structure IssueArgs where
  deliveryHandle : String
  secretRef : String
  secretVersion : String
  runId : String
  attemptId : String
  fence : ℤ
  worker : WorkerRef
  targetId : String
  purpose : String
  issuedAt : Datetime
  ttl : ℤ

structure UseRequest where
  deliveryHandle : String
  attemptId : String
  fence : ℤ
  targetId : String
  purpose : String
  observedAt : Datetime

namespace SecretDeliveryLedger

def new : List SecretDelivery → Result SecretDeliveryLedger := construct postInit mk

def empty : SecretDeliveryLedger := ⟨[], by decide⟩

def deliveryByHandle (l : SecretDeliveryLedger) (deliveryHandle : String) :
    Option SecretDelivery := l.deliveries.find? fun item => item.deliveryHandle = deliveryHandle

def invalidLedgerIf (c : Prop) [Decidable c] (field reason : String) : Result Unit :=
  invalidIf c "secret_delivery_ledger" field reason

def notFound : DomainError :=
  .domainValidation "secret_delivery_ledger" "delivery_handle" "not_found"

def issue (l : SecretDeliveryLedger) (a : IssueArgs) :
    Result (SecretDeliveryLedger × SecretDelivery) := do
  invalidLedgerIf (l.deliveryByHandle a.deliveryHandle).isSome "delivery_handle" "duplicate"
  invalidLedgerIf (a.ttl ≤ 0) "ttl" "invalid"
  requireUtc "secret_delivery_ledger" "issued_at" a.issuedAt
  let expiresAt ← instantAfter a.issuedAt a.ttl
  let delivery ← SecretDelivery.new {
    deliveryHandle := a.deliveryHandle
    secretRef := a.secretRef
    secretVersion := a.secretVersion
    runId := a.runId
    attemptId := a.attemptId
    fence := a.fence
    worker := a.worker
    targetId := a.targetId
    purpose := a.purpose
    issuedAt := a.issuedAt
    expiresAt
    state := .active }
  let ledger ← new (l.deliveries ++ [delivery])
  return (ledger, delivery)

/-- The delivery a use is authorized by; the instant it was issued at is not looked at. -/
def authorizeUse (l : SecretDeliveryLedger) (u : UseRequest) : Result SecretDelivery := do
  requireUtc "secret_delivery_ledger" "observed_at" u.observedAt
  let current ← need (l.deliveryByHandle u.deliveryHandle) notFound
  invalidLedgerIf (current.state = .revoked) "delivery_handle" "revoked"
  invalidLedgerIf (current.state = .expired ∨ current.expiresAt ≤ u.observedAt) "delivery_handle"
    "expired"
  invalidLedgerIf (current.state ≠ .active) "delivery_handle" "not_active"
  invalidLedgerIf (current.attemptId ≠ u.attemptId) "attempt_id" "binding_mismatch"
  invalidLedgerIf (current.fence ≠ u.fence) "fence" "binding_mismatch"
  invalidLedgerIf (current.targetId ≠ u.targetId) "target_id" "binding_mismatch"
  invalidLedgerIf (current.purpose ≠ u.purpose) "purpose" "binding_mismatch"
  return current

def revoke (l : SecretDeliveryLedger) (deliveryHandle : String) (revokedAt : Datetime) :
    Result SecretDeliveryLedger := do
  requireUtc "secret_delivery_ledger" "revoked_at" revokedAt
  let current ← need (l.deliveryByHandle deliveryHandle) notFound
  if current.state = .revoked then
    return l
  invalidLedgerIf (current.state ≠ .active) "delivery_handle" "not_active"
  let updated := current.withState .revoked
  new (l.deliveries.map fun item =>
    if item.deliveryHandle = deliveryHandle then updated else item)

/-- End every active delivery that satisfies a condition. -/
def endWhere (state : SecretDeliveryState) (due : SecretDelivery → Prop) [DecidablePred due]
    (l : SecretDeliveryLedger) : Result SecretDeliveryLedger :=
  new (l.deliveries.map fun item =>
    if item.state = .active ∧ due item then item.withState state else item)

def revokeAllForAttempt (l : SecretDeliveryLedger) (attemptId : String) (fence : ℤ)
    (revokedAt : Datetime) : Result SecretDeliveryLedger := do
  invalidLedgerIf (isBlank attemptId) "attempt_id" "invalid"
  invalidLedgerIf (fence < 1) "fence" "invalid"
  requireUtc "secret_delivery_ledger" "revoked_at" revokedAt
  l.endWhere .revoked fun item => item.attemptId = attemptId ∧ item.fence = fence

def expireDue (l : SecretDeliveryLedger) (observedAt : Datetime) :
    Result SecretDeliveryLedger := do
  requireUtc "secret_delivery_ledger" "observed_at" observedAt
  l.endWhere .expired fun item => item.expiresAt ≤ observedAt

end SecretDeliveryLedger

/-- The calls that change a ledger. -/
inductive LedgerCall where
  | issue (args : IssueArgs)
  | revoke (deliveryHandle : String) (revokedAt : Datetime)
  | revokeAllForAttempt (attemptId : String) (fence : ℤ) (revokedAt : Datetime)
  | expireDue (observedAt : Datetime)

namespace SecretDeliveryLedger

def exec (l : SecretDeliveryLedger) : LedgerCall → Result SecretDeliveryLedger
  | .issue args => Prod.fst <$> l.issue args
  | .revoke deliveryHandle revokedAt => l.revoke deliveryHandle revokedAt
  | .revokeAllForAttempt attemptId fence revokedAt =>
    l.revokeAllForAttempt attemptId fence revokedAt
  | .expireDue observedAt => l.expireDue observedAt

/-- The request carries the bindings of the delivery. -/
structure BoundTo (u : UseRequest) (d : SecretDelivery) : Prop where
  attemptId : d.attemptId = u.attemptId
  fence : d.fence = u.fence
  targetId : d.targetId = u.targetId
  purpose : d.purpose = u.purpose

def Authorizes (l : SecretDeliveryLedger) (u : UseRequest) : Prop :=
  ∃ d, l.authorizeUse u = .ok d

/-- The delivery of the handle has the bindings of the request and is active at its instant. -/
def ActiveFor (l : SecretDeliveryLedger) (u : UseRequest) : Prop :=
  ∃ d, l.deliveryByHandle u.deliveryHandle = some d ∧ BoundTo u d ∧
    d.isActiveAt u.observedAt = .ok true

/-- The instant of the request lies before the active delivery it names was issued. -/
def TooEarly (l : SecretDeliveryLedger) (u : UseRequest) : Prop :=
  ∃ d, l.deliveryByHandle u.deliveryHandle = some d ∧ BoundTo u d ∧ d.state = .active ∧
    u.observedAt < d.issuedAt

variable {l l' : SecretDeliveryLedger} {u : UseRequest} {d : SecretDelivery}

theorem handles_nodup (l : SecretDeliveryLedger) :
    (l.deliveries.map (·.deliveryHandle)).Nodup := by
  have h := l.accepted
  simpa only [postInit, invalidIf_eq_ok, not_not] using h

theorem new_eq_ok {deliveries : List SecretDelivery} :
    new deliveries = .ok l ↔ l.deliveries = deliveries := by
  rw [new, construct_eq_ok]
  constructor
  · rintro ⟨_, rfl⟩
    rfl
  · rintro rfl
    exact ⟨l.accepted, rfl⟩

theorem authorizeUse_eq_ok : l.authorizeUse u = .ok d ↔ u.observedAt.IsUtc ∧
    l.deliveryByHandle u.deliveryHandle = some d ∧ d.state = .active ∧
      u.observedAt < d.expiresAt ∧ BoundTo u d := by
  simp only [authorizeUse, invalidLedgerIf, bind_eq_ok, exists_unit, requireUtc_eq_ok, need_eq_ok,
    invalidIf_eq_ok, pure_eq_ok, ne_eq, not_not, not_or]
  constructor
  · rintro ⟨hutc, current, hfind, -, ⟨-, hexpires⟩, hactive, hattempt, hfence, htarget, hpurpose,
      rfl⟩
    exact ⟨hutc, hfind, hactive, Nat.lt_of_not_le hexpires, hattempt, hfence, htarget, hpurpose⟩
  · rintro ⟨hutc, hfind, hactive, hexpires, hattempt, hfence, htarget, hpurpose⟩
    exact ⟨hutc, d, hfind, by rw [hactive]; decide, ⟨by rw [hactive]; decide,
      Nat.not_le_of_lt hexpires⟩, hactive, hattempt, hfence, htarget, hpurpose, rfl⟩

/-- A use is authorized exactly while its delivery is active, but for the instants before it was
issued. -/
theorem authorizes_iff_active (hutc : u.observedAt.IsUtc) :
    (l.Authorizes u ↔ l.ActiveFor u) ↔ ¬ l.TooEarly u := by
  simp only [Authorizes, ActiveFor, TooEarly, authorizeUse_eq_ok, SecretDelivery.isActiveAt_eq_true]
  constructor
  · rintro hiff ⟨d, hfind, hbound, hactive, hearly⟩
    have hexpires := d.issuedAt_lt_expiresAt
    obtain ⟨e, hfind', -, -, -, hissued, -⟩ :=
      hiff.mp ⟨d, hutc, hfind, hactive, Nat.lt_trans hearly hexpires, hbound⟩
    cases hfind.symm.trans hfind'
    exact Nat.not_le_of_lt hearly hissued
  · intro hearly
    constructor
    · rintro ⟨d, -, hfind, hactive, hexpires, hbound⟩
      refine ⟨d, hfind, hbound, hutc, hactive, ?_, hexpires⟩
      exact Nat.le_of_not_lt fun hlt => hearly ⟨d, hfind, hbound, hactive, hlt⟩
    · rintro ⟨d, hfind, hbound, -, hactive, -, hexpires⟩
      exact ⟨d, hutc, hfind, hactive, hexpires, hbound⟩

/-- Changing only active deliveries leaves the ended ones where they are. -/
theorem ended_of_map {change : SecretDelivery → SecretDelivery}
    (h : l'.deliveries = l.deliveries.map change) (hd : d ∈ l.deliveries)
    (hchange : change d = d) : d ∈ l'.deliveries := by
  rw [h]
  exact List.mem_map.mpr ⟨d, hd, hchange⟩

theorem endWhere_ended {state : SecretDeliveryState} {due : SecretDelivery → Prop}
    [DecidablePred due] (h : endWhere state due l = .ok l') (hd : d ∈ l.deliveries)
    (hended : d.state ≠ .active) : d ∈ l'.deliveries := by
  rw [endWhere, new_eq_ok] at h
  exact ended_of_map h hd (if_neg fun hdue => hended hdue.1)

theorem exec_ended {call : LedgerCall} (h : l.exec call = .ok l') (hd : d ∈ l.deliveries)
    (hended : d.state ≠ .active) : d ∈ l'.deliveries := by
  cases call with
  | issue a =>
    simp only [exec] at h
    cases hissue : l.issue a with
    | error e =>
      rw [hissue] at h
      cases h
    | ok r =>
      rw [hissue] at h
      cases h
      simp only [issue, bind_eq_ok, exists_unit, new_eq_ok, pure_eq_ok] at hissue
      obtain ⟨-, -, -, _, -, delivery, -, ledger, hledger, rfl⟩ := hissue
      rw [hledger]
      exact List.mem_append_left _ hd
  | revoke deliveryHandle revokedAt =>
    simp only [exec, revoke, bind_eq_ok, exists_unit, need_eq_ok] at h
    obtain ⟨-, current, hfind, h⟩ := h
    split at h
    · cases h
      exact hd
    · simp only [invalidLedgerIf, then_eq_ok, invalidIf_eq_ok, new_eq_ok, ne_eq, not_not] at h
      refine ended_of_map h.2 hd (if_neg fun hhandle => hended ?_)
      -- the handle names one delivery, and the call found that one active
      obtain ⟨hcurrent, hkey⟩ := Keyed.find_some hfind
      rw [Keyed.eq_of_key l.handles_nodup hd hcurrent (hhandle.trans hkey.symm)]
      exact h.1
  | revokeAllForAttempt attemptId fence revokedAt =>
    simp only [exec, revokeAllForAttempt, then_eq_ok] at h
    exact endWhere_ended h.2.2.2 hd hended
  | expireDue observedAt =>
    simp only [exec, expireDue, then_eq_ok] at h
    exact endWhere_ended h.2 hd hended

theorem not_authorizes_of_ended (hd : d ∈ l.deliveries) (hended : d.state ≠ .active)
    (hu : u.deliveryHandle = d.deliveryHandle) : ¬ l.Authorizes u := by
  rintro ⟨e, he⟩
  obtain ⟨-, hfind, hactive, -⟩ := authorizeUse_eq_ok.mp he
  rw [deliveryByHandle, hu, Keyed.find_of_mem l.handles_nodup hd] at hfind
  cases hfind
  exact hended hactive

/-- In every ledger reached from the empty one a use is authorized exactly while its delivery is
active unless it is asked for before the delivery was issued, and a delivery that was revoked or
expired authorizes no later use. -/
theorem authorized_while_active (calls : List LedgerCall) (u : UseRequest)
    (hutc : u.observedAt.IsUtc) :
    (((after exec empty calls).Authorizes u ↔ (after exec empty calls).ActiveFor u) ↔
      ¬ (after exec empty calls).TooEarly u) ∧
    ∀ d ∈ (after exec empty calls).deliveries, d.state ≠ .active → ∀ later u',
      u'.deliveryHandle = d.deliveryHandle →
        ¬ (after exec empty (calls ++ later)).Authorizes u' := by
  refine ⟨authorizes_iff_active hutc, fun d hd hended later u' hu' => ?_⟩
  rw [after_append]
  have hstays : d ∈ (after exec (after exec empty calls) later).deliveries :=
    after_induction (P := fun l => d ∈ l.deliveries)
      (fun _ _ _ hin hok => exec_ended hok hin hended) hd later
  exact not_authorizes_of_ended hstays hended hu'

def secretWorker : WorkerRef := ⟨⟨"worker-1", 1⟩, WorkerRef.first_accepted⟩

/-- A delivery of ten microseconds. -/
def issueAt (issued : ℕ) : LedgerCall := .issue {
  deliveryHandle := "handle-1"
  secretRef := "secret-1"
  secretVersion := "1"
  runId := "run-1"
  attemptId := "attempt-1"
  fence := 1
  worker := secretWorker
  targetId := "target-1"
  purpose := "login"
  issuedAt := ⟨issued, some 0⟩
  ttl := 10 }

def useAt (observed : ℕ) : UseRequest where
  deliveryHandle := "handle-1"
  attemptId := "attempt-1"
  fence := 1
  targetId := "target-1"
  purpose := "login"
  observedAt := ⟨observed, some 0⟩

theorem revoked_not_authorized :
    ¬ (after exec empty ([issueAt 20, .revoke "handle-1" ⟨21, some 0⟩] ++
      [issueAt 30, .expireDue ⟨50, some 0⟩])).Authorizes (useAt 25) := by
  apply (authorized_while_active [issueAt 20, .revoke "handle-1" ⟨21, some 0⟩] (useAt 25) rfl).2
    ((after exec empty [issueAt 20, .revoke "handle-1" ⟨21, some 0⟩]).deliveries.head (by decide))
    (List.head_mem _) (by decide) _ _ (by decide)

/-- A use is authorized at an instant before its delivery was issued. -/
theorem authorized_before_issue : ¬ ∀ (calls : List LedgerCall) (u : UseRequest),
    u.observedAt.IsUtc →
      ((after exec empty calls).Authorizes u ↔ (after exec empty calls).ActiveFor u) := by
  intro hall
  have hactive := (hall [issueAt 20] (useAt 15) rfl).mp
    ⟨(after exec empty [issueAt 20]).deliveries.head (by decide), by rfl⟩
  obtain ⟨d, hfind, -, hd⟩ := hactive
  have hissued := (SecretDelivery.isActiveAt_eq_true.mp hd).2.2.1
  cases hfind
  revert hissued
  decide

end SecretDeliveryLedger
end QaRunner
