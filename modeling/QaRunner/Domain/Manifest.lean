import QaRunner.Domain.Digest
import QaRunner.Lib.Keyed
import Mathlib.Data.List.Dedup

/-! The case manifest of a Batch: its items, their constraints, and the checks on both. -/
namespace QaRunner
open Guarded

namespace Manifest

def requireNonemptyString (entity field : String) (value : Str) : Result Unit :=
  invalidIf (isBlank value) entity field "empty_id"

def requireNonnegativeInt (entity field : String) (value : ℤ) : Result Unit := do
  invalidIf (value < 0) entity field "negative"
  invalidIf (9007199254740991 < value) entity field "exceeds_safe_integer"

/-- Nonblank strings in ascending order, none of them twice. -/
def requireCanonicalStringSet (entity field : String) (values : List String) : Result Unit := do
  invalidIf (∃ value ∈ values, isBlank value = true) entity field "invalid_value"
  invalidIf (¬ values.Nodup) entity field "duplicate"
  invalidIf (values ≠ Sorting.sortOn id values) entity field "not_canonical"

/-- Fail with the first of the values found, in ascending order. -/
def rejectFirst {α : Type} [ToString α] (entity field label : String) : List α → Result Unit
  | [] => .ok ()
  | value :: _ => .error (.domainValidation entity field (label ++ toString value))

/-- Nothing but what is expected, nothing of it twice and all of it. -/
def requireExactCover (entity field : String) (expected actual : List ℤ) : Result Unit := do
  rejectFirst entity field "unknown:"
    (Sorting.sortOn id (actual.dedup.filter (· ∉ expected)))
  rejectFirst entity field "duplicate:"
    (Sorting.sortOn id (actual.dedup.filter (1 < actual.count ·)))
  rejectFirst entity field "missing:"
    (Sorting.sortOn id (expected.filter (· ∉ actual)))

theorem requireNonemptyString_eq_ok {entity field : String} {value : Str} {u : Unit} :
    requireNonemptyString entity field value = .ok u ↔ isBlank value = false := by
  simp [requireNonemptyString, invalidIf_eq_ok]

theorem requireNonnegativeInt_eq_ok {entity field : String} {value : ℤ} {u : Unit} :
    requireNonnegativeInt entity field value = .ok u ↔ 0 ≤ value ∧ value ≤ 9007199254740991 := by
  simp only [requireNonnegativeInt, then_eq_ok, invalidIf_eq_ok, not_lt]

theorem rejectFirst_eq_ok {α : Type} [ToString α] {entity field label : String} {found : List α}
    {u : Unit} : rejectFirst entity field label found = .ok u ↔ found = [] := by
  cases found <;> simp [rejectFirst]

theorem sortOn_filter_eq_nil {α : Type} [LinearOrder α] {values : List α} {p : α → Prop}
    [DecidablePred p] : Sorting.sortOn id (values.filter (p ·)) = [] ↔ ∀ v ∈ values, ¬ p v := by
  rw [← List.length_eq_zero_iff, (Sorting.sortOn_perm id _).length_eq, List.length_eq_zero_iff,
    List.filter_eq_nil_iff]
  simp only [decide_eq_true_eq]

/-- What covers distinct values exactly is a rearrangement of them. -/
theorem requireExactCover_eq_ok {entity field : String} {expected actual : List ℤ} {u : Unit}
    (h : expected.Nodup) :
    requireExactCover entity field expected actual = .ok u ↔ actual.Perm expected := by
  simp only [requireExactCover, then_eq_ok, rejectFirst_eq_ok, sortOn_filter_eq_nil,
    List.mem_dedup, not_not, not_lt]
  constructor
  · rintro ⟨hunknown, hduplicate, hmissing⟩
    have hnodup : actual.Nodup := by
      rw [List.nodup_iff_count_le_one]
      intro i
      by_cases hi : i ∈ actual
      · exact hduplicate i hi
      · rw [List.count_eq_zero_of_not_mem hi]
        exact Nat.zero_le 1
    exact (List.perm_ext_iff_of_nodup hnodup h).mpr fun i => ⟨hunknown i, hmissing i⟩
  · intro hperm
    refine ⟨fun i => hperm.mem_iff.mp, fun i _ => ?_, fun i => hperm.mem_iff.mpr⟩
    exact List.nodup_iff_count_le_one.mp (hperm.nodup_iff.mpr h) i

end Manifest

open Manifest

/-- Confidence of a planning work estimate. -/
inductive EstimateConfidence where
  | low
  | medium
  | high
  deriving DecidableEq, Repr

def EstimateConfidence.value : EstimateConfidence → String
  | .low => "low"
  | .medium => "medium"
  | .high => "high"

structure FrameworkLocator.Fields where
  schemaVersion : String
  kind : String
  parts : List (String × String)
  deriving DecidableEq

def FrameworkLocator.Fields.postInit (l : FrameworkLocator.Fields) : Result Unit := do
  Manifest.requireNonemptyString "framework_locator" "schema_version" l.schemaVersion
  Manifest.requireNonemptyString "framework_locator" "kind" l.kind
  invalidIf (l.parts = []) "framework_locator" "parts" "empty"
  each l.parts fun part => do
    Manifest.requireNonemptyString "framework_locator" "parts" part.1
    Manifest.requireNonemptyString "framework_locator" "parts" part.2
  invalidIf (¬ (l.parts.map Prod.fst).Nodup) "framework_locator" "parts" "duplicate_name"

/-- Versioned, adapter-owned stable case locator. -/
structure FrameworkLocator extends FrameworkLocator.Fields where
  accepted : toFields.postInit = .ok ()
  deriving DecidableEq

structure ManifestConstraints.Fields where
  serialGroup : Option String
  environmentRequirements : List String
  accountRequirements : List String
  dataLeaseRequirements : List String
  deriving DecidableEq

def ManifestConstraints.Fields.postInit (c : ManifestConstraints.Fields) : Result Unit := do
  whenSome c.serialGroup fun group =>
    Manifest.requireNonemptyString "manifest_constraints" "serial_group" group
  each [("environment_requirements", c.environmentRequirements),
    ("account_requirements", c.accountRequirements),
    ("data_lease_requirements", c.dataLeaseRequirements)] fun f =>
    requireCanonicalStringSet "manifest_constraints" f.1 f.2

/-- Already-derived hard grouping and target-resource requirements. -/
structure ManifestConstraints extends ManifestConstraints.Fields where
  accepted : toFields.postInit = .ok ()
  deriving DecidableEq

structure WorkEstimate.Fields where
  durationMs : ℤ
  confidence : EstimateConfidence
  deriving DecidableEq

def WorkEstimate.Fields.postInit (e : WorkEstimate.Fields) : Result Unit :=
  Manifest.requireNonnegativeInt "work_estimate" "duration_ms" e.durationMs

/-- Minimum work estimate consumed by a planner. -/
structure WorkEstimate extends WorkEstimate.Fields where
  accepted : toFields.postInit = .ok ()
  deriving DecidableEq

structure ManifestInputs.Fields where
  suiteRevisionDigest : Digest
  sourceDigest : Digest
  dependencyDigest : Digest
  configDigest : Digest
  runnerDigest : Digest
  collectionContractVersion : String
  deriving DecidableEq

def ManifestInputs.Fields.postInit (i : ManifestInputs.Fields) : Result Unit :=
  Manifest.requireNonemptyString "manifest_inputs" "collection_contract_version"
    i.collectionContractVersion

/-- Frozen inputs that make collection output reproducible. -/
structure ManifestInputs extends ManifestInputs.Fields where
  accepted : toFields.postInit = .ok ()
  deriving DecidableEq

structure ManifestItem.Fields where
  itemIndex : ℤ
  stableCaseId : String
  frameworkLocator : FrameworkLocator
  atomicGroupId : String
  resourceProfileId : String
  constraints : ManifestConstraints
  estimate : WorkEstimate
  tags : List String
  selectionMetadataDigest : Digest
  deriving DecidableEq

def ManifestItem.Fields.postInit (i : ManifestItem.Fields) : Result Unit := do
  Manifest.requireNonnegativeInt "manifest_item" "item_index" i.itemIndex
  Manifest.requireNonemptyString "manifest_item" "stable_case_id" i.stableCaseId
  Manifest.requireNonemptyString "manifest_item" "atomic_group_id" i.atomicGroupId
  Manifest.requireNonemptyString "manifest_item" "resource_profile_id" i.resourceProfileId
  requireCanonicalStringSet "manifest_item" "tags" i.tags

/-- One canonical collected case and its already-derived hard constraints. -/
structure ManifestItem extends ManifestItem.Fields where
  accepted : toFields.postInit = .ok ()
  deriving DecidableEq

namespace ManifestItem

/-- The tokens whose items may not be split over atomic groups, with their kinds. -/
def constraintTokens (i : ManifestItem) : List (String × String) :=
  i.constraints.serialGroup.toList.map ("serial_group", ·) ++
    i.constraints.accountRequirements.map ("account_requirement", ·) ++
    i.constraints.dataLeaseRequirements.map ("data_lease_requirement", ·)

section
variable {i : ManifestItem} {v : String}

theorem serial_mem (h : i.constraints.serialGroup = some v) :
    ("serial_group", v) ∈ i.constraintTokens := by
  simp [constraintTokens, h]

theorem account_mem (h : v ∈ i.constraints.accountRequirements) :
    ("account_requirement", v) ∈ i.constraintTokens := by
  simp [constraintTokens, h]

theorem dataLease_mem (h : v ∈ i.constraints.dataLeaseRequirements) :
    ("data_lease_requirement", v) ∈ i.constraintTokens := by
  simp [constraintTokens, h]

end

def payload (i : ManifestItem) : Json :=
  .dict [("item_index", .int i.itemIndex), ("stable_case_id", .str i.stableCaseId),
    ("framework_locator", .dict [("schema_version", .str i.frameworkLocator.schemaVersion),
      ("kind", .str i.frameworkLocator.kind),
      ("parts", .list (i.frameworkLocator.parts.map fun part =>
        .list [.str part.1, .str part.2]))]),
    ("atomic_group_id", .str i.atomicGroupId), ("resource_profile_id", .str i.resourceProfileId),
    ("constraints", .dict [("serial_group", Json.opt .text i.constraints.serialGroup),
      ("environment_requirements", .list (i.constraints.environmentRequirements.map .text)),
      ("account_requirements", .list (i.constraints.accountRequirements.map .text)),
      ("data_lease_requirements", .list (i.constraints.dataLeaseRequirements.map .text))]),
    ("estimate", .dict [("duration_ms", .int i.estimate.durationMs),
      ("confidence", .str i.estimate.confidence.value)]),
    ("tags", .list (i.tags.map .text)),
    ("selection_metadata_digest", .str i.selectionMetadataDigest.value)]

end ManifestItem

/-- Every token belongs to the atomic group that named it first. -/
def checkTokenGroups (groupsByToken : List ((String × String) × String)) :
    List ((String × String) × String) → Result Unit
  | [] => .ok ()
  | (token, group) :: rest => do
    let (existing, groups) := Keyed.setdefault groupsByToken token group
    invalidIf (existing ≠ group) "case_manifest" "atomic_group_id"
      ("constraint_split:" ++ token.1)
    checkTokenGroups groups rest

/-- The tokens of all items, each with the atomic group of its item. -/
def tokenGroups (items : List ManifestItem) : List ((String × String) × String) :=
  items.flatMap fun item => item.constraintTokens.map (·, item.atomicGroupId)

def validateHardGroupingConstraints (items : List ManifestItem) : Result Unit :=
  checkTokenGroups [] (tokenGroups items)

def validateManifestItems (items : List ManifestItem) : Result Unit := do
  invalidIf (items = []) "case_manifest" "items" "empty"
  let indices := items.map (·.itemIndex)
  invalidIf (¬ indices.Nodup) "case_manifest" "item_index" "duplicate"
  invalidIf (indices ≠ (List.range items.length).map Int.ofNat) "case_manifest" "item_index"
    "not_contiguous"
  invalidIf (¬ (items.map (·.stableCaseId)).Nodup) "case_manifest" "stable_case_id" "duplicate"
  validateHardGroupingConstraints items

def manifestPayload (inputs : ManifestInputs) (items : List ManifestItem) : Json :=
  .dict [("suite_revision_digest", .str inputs.suiteRevisionDigest.value),
    ("input_digests", .dict [("source", .str inputs.sourceDigest.value),
      ("dependency", .str inputs.dependencyDigest.value),
      ("config", .str inputs.configDigest.value), ("runner", .str inputs.runnerDigest.value)]),
    ("collection_contract_version", .str inputs.collectionContractVersion),
    ("items", .list (items.map (·.payload)))]

structure CaseManifest.Fields where
  id : Str
  batchId : Str
  schemaVersion : String
  inputs : ManifestInputs
  items : List ManifestItem
  digest : Digest
  deriving DecidableEq

def CaseManifest.Fields.postInit (m : CaseManifest.Fields) : Result Unit := do
  Manifest.requireNonemptyString "case_manifest" "id" m.id
  Manifest.requireNonemptyString "case_manifest" "batch_id" m.batchId
  invalidIf (m.schemaVersion ≠ "qep.case-manifest.v1") "case_manifest" "schema_version"
    "unsupported"
  validateManifestItems m.items
  let computed ← canonicalDigest m.schemaVersion (manifestPayload m.inputs m.items)
  invalidIf (m.digest ≠ computed) "case_manifest" "digest" "mismatch"

/-- Canonical collection output; persistence identity is outside its digest. -/
structure CaseManifest extends CaseManifest.Fields where
  accepted : toFields.postInit = .ok ()
  deriving DecidableEq

namespace CaseManifest

def new : CaseManifest.Fields → Result CaseManifest := construct Fields.postInit CaseManifest.mk

/-- Normalize by stable item index and compute the content digest. -/
def create (manifestId batchId : Str) (inputs : ManifestInputs) (items : List ManifestItem) :
    Result CaseManifest := do
  let ordered := Sorting.sortOn (·.itemIndex) items
  validateManifestItems ordered
  let digest ← canonicalDigest "qep.case-manifest.v1" (manifestPayload inputs ordered)
  new {
    id := manifestId
    batchId, inputs, digest
    schemaVersion := "qep.case-manifest.v1"
    items := ordered }

def itemCount (m : CaseManifest) : ℤ := m.items.length

variable {m : CaseManifest}

/-- The items of a manifest stand under the indices from zero, and their tokens in one group. -/
theorem items_valid (m : CaseManifest) : validateManifestItems m.items = .ok () := by
  have h := m.accepted
  simp only [Fields.postInit, then_eq_ok] at h
  exact h.2.2.2.1

theorem indices_eq (m : CaseManifest) :
    m.items.map (·.itemIndex) = (List.range m.items.length).map Int.ofNat := by
  have h := m.items_valid
  simp only [validateManifestItems, then_eq_ok, invalidIf_eq_ok, not_not, ne_eq] at h
  exact h.2.2.1

theorem indices_nodup (m : CaseManifest) : (m.items.map (·.itemIndex)).Nodup := by
  have h := m.items_valid
  simp only [validateManifestItems, then_eq_ok, invalidIf_eq_ok, not_not] at h
  exact h.2.1

end CaseManifest

/-- Tokens that pass are in one atomic group each, the one they were stored with. -/
theorem checkTokenGroups_eq_ok {groups pairs : List ((String × String) × String)}
    (h : checkTokenGroups groups pairs = .ok ()) :
    (∀ p ∈ pairs, ∀ found, groups.find? (·.1 = p.1) = some found → p.2 = found.2) ∧
      ∀ p ∈ pairs, ∀ q ∈ pairs, p.1 = q.1 → p.2 = q.2 := by
  induction pairs generalizing groups with
  | nil => exact ⟨nofun, nofun⟩
  | cons pair rest ih =>
    obtain ⟨token, group⟩ := pair
    simp only [checkTokenGroups, then_eq_ok, invalidIf_eq_ok, not_not, ne_eq] at h
    obtain ⟨hgroup, hrest⟩ := h
    obtain ⟨hstored, hsame⟩ := ih hrest
    have hfound := Keyed.find_setdefault groups token group
    rw [hgroup] at hfound
    have hhead : ∀ p ∈ rest, p.1 = token → p.2 = group := by
      intro p hp htoken
      exact hstored p hp _ (by rw [htoken]; exact hfound)
    constructor
    · rw [List.forall_mem_cons]
      constructor
      · intro found hold
        rw [Keyed.setdefault_of_some hold] at hgroup
        exact hgroup.symm
      · intro p hp found hold
        exact hstored p hp found (Keyed.find_setdefault_of_some token group hold)
    · intro p hp q hq htoken
      rcases List.mem_cons.mp hp with rfl | hp
      · rcases List.mem_cons.mp hq with rfl | hq
        · rfl
        · exact (hhead q hq htoken.symm).symm
      · rcases List.mem_cons.mp hq with rfl | hq
        · exact hhead p hp htoken
        · exact hsame p hp q hq htoken

/-- Items of a manifest that share a token are in one atomic group. -/
theorem CaseManifest.group_eq_of_token (m : CaseManifest) {i j : ManifestItem}
    {token : String × String} (hi : i ∈ m.items) (hj : j ∈ m.items)
    (hti : token ∈ i.constraintTokens) (htj : token ∈ j.constraintTokens) :
    i.atomicGroupId = j.atomicGroupId := by
  have hgroups := m.items_valid
  simp only [validateManifestItems, then_eq_ok] at hgroups
  have hsame := (checkTokenGroups_eq_ok hgroups.2.2.2.2).2
  have hmem : ∀ item ∈ m.items, token ∈ item.constraintTokens →
      (token, item.atomicGroupId) ∈ tokenGroups m.items := by
    intro item hitem htoken
    exact List.mem_flatMap.mpr ⟨item, hitem, List.mem_map.mpr ⟨token, htoken, rfl⟩⟩
  exact hsame _ (hmem i hi hti) _ (hmem j hj htj) rfl

end QaRunner
