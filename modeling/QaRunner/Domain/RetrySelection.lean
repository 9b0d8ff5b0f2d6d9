import QaRunner.Domain.RunFinalization
import Mathlib.Data.List.Dedup

/-! Verified observations of the attempts that authorized retries created. -/
namespace QaRunner
open Guarded

structure VerifiedAttemptItemResolution where
  itemKey : RunItemKey
  effective : EffectiveItemResolution
  deriving DecidableEq

structure VerifiedAttemptResolutionSet.Fields where
  attemptId : Str
  attemptNo : ℤ
  attemptFence : ℤ
  attemptItemSetDigest : Digest
  items : List VerifiedAttemptItemResolution
  deriving DecidableEq

namespace VerifiedAttemptResolutionSet.Fields

/-- An item is observed in the attempt of the set, and in no other. -/
def validateItem (s : Fields) (effective : EffectiveItemResolution) : Result Unit := do
  invalidIf (effective.sourceKind ≠ .authorizedRetry) "verified_attempt_resolution_set" "items"
    "not_authorized_retry"
  invalidIf (effective.attemptId ≠ some s.attemptId ∨ effective.attemptNo ≠ some s.attemptNo ∨
    effective.attemptFence ≠ some s.attemptFence ∨
    effective.attemptItemSetDigest ≠ some s.attemptItemSetDigest) "verified_attempt_resolution_set"
    "items" "attempt_identity_mismatch"

def retryAuthority (effective : EffectiveItemResolution) :
    Option Digest × Option Digest × Option Digest :=
  (effective.retryIntentDigest, effective.retryDecisionDigest, effective.retryAuthorityDigest)

def postInit (s : Fields) : Result Unit := do
  requireString "verified_attempt_resolution_set" "attempt_id" s.attemptId
  requirePositiveInt "verified_attempt_resolution_set" "attempt_no" s.attemptNo
  requirePositiveInt "verified_attempt_resolution_set" "attempt_fence" s.attemptFence
  invalidIf (¬ (s.items.map (·.itemKey)).Nodup) "verified_attempt_resolution_set" "items"
    "duplicate_key"
  each s.items fun item => s.validateItem item.effective
  invalidIf (1 < (s.items.map fun item => retryAuthority item.effective).dedup.length)
    "verified_attempt_resolution_set" "items" "retry_authority_mismatch"

end VerifiedAttemptResolutionSet.Fields

/-- Verified observations for one full-Run authorized attempt. -/
structure VerifiedAttemptResolutionSet extends VerifiedAttemptResolutionSet.Fields where
  accepted : toFields.postInit = .ok ()
  deriving DecidableEq

namespace VerifiedAttemptResolutionSet
variable {item : VerifiedAttemptItemResolution}

/-- Every item of a set is a retried fact of the attempt the set is about. -/
theorem item_identity {s : VerifiedAttemptResolutionSet} (h : item ∈ s.items) :
    item.effective.attemptId = some s.attemptId ∧ item.effective.attemptNo = some s.attemptNo ∧
      item.effective.attemptFence = some s.attemptFence := by
  have haccepted := s.accepted
  simp only [Fields.postInit, then_eq_ok, each_eq_ok, Fields.validateItem, invalidIf_eq_ok, not_or,
    ne_eq, not_not] at haccepted
  obtain ⟨-, -, -, -, hitems, -⟩ := haccepted
  obtain ⟨-, hid, hno, hfence, -⟩ := hitems item h
  exact ⟨hid, hno, hfence⟩

end VerifiedAttemptResolutionSet
end QaRunner
