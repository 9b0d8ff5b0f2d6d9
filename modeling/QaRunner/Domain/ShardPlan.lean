import QaRunner.Domain.Manifest
import Mathlib.Algebra.Ring.Int.Defs

/-! Candidate shard plans over a manifest, and the Runs bound to their shards. -/
namespace QaRunner
open Guarded Manifest

structure ShardRequirements.Fields where
  serialGroups : List String
  environmentRequirements : List String
  accountRequirements : List String
  dataLeaseRequirements : List String
  deriving DecidableEq

def ShardRequirements.Fields.postInit (r : ShardRequirements.Fields) : Result Unit :=
  each [("serial_groups", r.serialGroups),
    ("environment_requirements", r.environmentRequirements),
    ("account_requirements", r.accountRequirements),
    ("data_lease_requirements", r.dataLeaseRequirements)] fun f =>
    requireCanonicalStringSet "shard_requirements" f.1 f.2

/-- Canonical union of the hard requirements carried by a planned shard. -/
structure ShardRequirements extends ShardRequirements.Fields where
  accepted : toFields.postInit = .ok ()
  deriving DecidableEq

def ShardRequirements.new : ShardRequirements.Fields → Result ShardRequirements :=
  construct Fields.postInit ShardRequirements.mk

/-- The values as a set, in ascending order. -/
def canonicalUnion (values : List String) : List String := Sorting.sortOn id values.dedup

def aggregateShardRequirements (items : List ManifestItem) : Result ShardRequirements :=
  ShardRequirements.new {
    serialGroups := canonicalUnion (items.filterMap (·.constraints.serialGroup))
    environmentRequirements :=
      canonicalUnion (items.flatMap (·.constraints.environmentRequirements))
    accountRequirements := canonicalUnion (items.flatMap (·.constraints.accountRequirements))
    dataLeaseRequirements := canonicalUnion (items.flatMap (·.constraints.dataLeaseRequirements)) }

structure PlannedShard.Fields where
  shardIndex : ℤ
  manifestItemIndices : List ℤ
  resourceProfileId : String
  estimatedDurationMs : ℤ
  requirements : ShardRequirements
  flags : List String
  deriving DecidableEq

def PlannedShard.Fields.postInit (s : PlannedShard.Fields) : Result Unit := do
  Manifest.requireNonnegativeInt "planned_shard" "shard_index" s.shardIndex
  invalidIf (s.manifestItemIndices = []) "planned_shard" "manifest_item_indices" "empty"
  each s.manifestItemIndices
    (Manifest.requireNonnegativeInt "planned_shard" "manifest_item_indices")
  invalidIf (Sorting.sortOn id s.manifestItemIndices ≠ s.manifestItemIndices) "planned_shard"
    "manifest_item_indices" "not_canonical"
  invalidIf (¬ s.manifestItemIndices.Nodup) "planned_shard" "manifest_item_indices" "duplicate"
  Manifest.requireNonemptyString "planned_shard" "resource_profile_id" s.resourceProfileId
  Manifest.requireNonnegativeInt "planned_shard" "estimated_duration_ms" s.estimatedDurationMs
  requireCanonicalStringSet "planned_shard" "flags" s.flags

/-- Stable plan content identified by shard index, not a random Run id. -/
structure PlannedShard extends PlannedShard.Fields where
  accepted : toFields.postInit = .ok ()
  deriving DecidableEq

namespace PlannedShard

def new : PlannedShard.Fields → Result PlannedShard := construct Fields.postInit PlannedShard.mk

def payload (s : PlannedShard) : Json :=
  .dict [("shard_index", .int s.shardIndex),
    ("manifest_item_indices", .list (s.manifestItemIndices.map .int)),
    ("resource_profile_id", .str s.resourceProfileId),
    ("estimated_duration_ms", .int s.estimatedDurationMs),
    ("requirements", .dict [("serial_groups", .list (s.requirements.serialGroups.map .text)),
      ("environment_requirements", .list (s.requirements.environmentRequirements.map .text)),
      ("account_requirements", .list (s.requirements.accountRequirements.map .text)),
      ("data_lease_requirements", .list (s.requirements.dataLeaseRequirements.map .text))]),
    ("flags", .list (s.flags.map .text))]

end PlannedShard

/-- The item a manifest holds under an index. -/
def CaseManifest.itemAt (m : CaseManifest) (index : ℤ) : Result ManifestItem :=
  need (m.items.reverse.find? (·.itemIndex = index)) (.crash .keyError)

/-- The shard that names an item. -/
def shardByItem (shards : List PlannedShard) (index : ℤ) : Result PlannedShard :=
  need (shards.reverse.find? (index ∈ ·.manifestItemIndices)) (.crash .keyError)

/-- The atomic groups with items in more than one shard, in ascending order. -/
def splitGroups (owners : List (String × ℤ)) : List String :=
  Sorting.sortOn id ((owners.map Prod.fst).dedup.filter fun group =>
    1 < ((owners.filter (·.1 = group)).map Prod.snd).dedup.length)

/-- A shard carries the requirements, the profile and the duration of its items. -/
def validateShard (manifest : CaseManifest) (shard : PlannedShard) : Result Unit := do
  let items ← collect shard.manifestItemIndices manifest.itemAt
  let expected ← aggregateShardRequirements items
  invalidIf (shard.requirements ≠ expected) "shard_plan" "requirements"
    ("mismatch:" ++ toString shard.shardIndex)
  each items fun item => invalidIf (item.resourceProfileId ≠ shard.resourceProfileId) "shard_plan"
    "resource_profile_id" ("mismatch:" ++ toString item.itemIndex)
  invalidIf (shard.estimatedDurationMs ≠ (items.map (·.estimate.durationMs)).sum) "shard_plan"
    "estimated_duration_ms" ("mismatch:" ++ toString shard.shardIndex)

def validatePlanCandidate (manifest : CaseManifest) (shards : List PlannedShard) :
    Result Unit := do
  invalidIf (shards = []) "shard_plan" "shards" "empty"
  let shardIndices := shards.map (·.shardIndex)
  invalidIf (¬ shardIndices.Nodup) "shard_plan" "shard_index" "duplicate"
  invalidIf (shardIndices ≠ (List.range shards.length).map Int.ofNat) "shard_plan" "shard_index"
    "not_contiguous"
  requireExactCover "shard_plan" "manifest_item_indices" (manifest.items.map (·.itemIndex))
    (shards.flatMap (·.manifestItemIndices))
  let owners ← collect manifest.items fun item => do
    let shard ← shardByItem shards item.itemIndex
    return (item.atomicGroupId, shard.shardIndex)
  rejectFirst "shard_plan" "atomic_group_id" "split:" (splitGroups owners)
  each shards (validateShard manifest)
  invalidIf (9007199254740991 < (shards.map (·.estimatedDurationMs)).sum) "shard_plan"
    "total_estimated_duration_ms" "exceeds_safe_integer"

def planPayload (manifestDigest : Digest) (algorithmVersion : String)
    (shards : List PlannedShard) : Json :=
  .dict [("manifest_digest", .str manifestDigest.value),
    ("algorithm_version", .str algorithmVersion), ("run_count", .int shards.length),
    ("total_estimated_duration_ms", .int (shards.map (·.estimatedDurationMs)).sum),
    ("shards", .list (shards.map (·.payload)))]

structure ShardPlan.Fields where
  id : Str
  batchId : Str
  schemaVersion : String
  manifest : CaseManifest
  algorithmVersion : String
  shards : List PlannedShard
  digest : Digest
  deriving DecidableEq

def ShardPlan.Fields.postInit (p : ShardPlan.Fields) : Result Unit := do
  Manifest.requireNonemptyString "shard_plan" "id" p.id
  Manifest.requireNonemptyString "shard_plan" "batch_id" p.batchId
  invalidIf (p.schemaVersion ≠ "qep.shard-plan.v1") "shard_plan" "schema_version" "unsupported"
  invalidIf (p.batchId ≠ p.manifest.batchId) "shard_plan" "batch_id" "manifest_mismatch"
  Manifest.requireNonemptyString "shard_plan" "algorithm_version" p.algorithmVersion
  validatePlanCandidate p.manifest p.shards
  let computed ← canonicalDigest p.schemaVersion
    (planPayload p.manifest.digest p.algorithmVersion p.shards)
  invalidIf (p.digest ≠ computed) "shard_plan" "digest" "mismatch"

/-- Validated candidate plan with exact manifest ownership. -/
structure ShardPlan extends ShardPlan.Fields where
  accepted : toFields.postInit = .ok ()
  deriving DecidableEq

namespace ShardPlan

def new : ShardPlan.Fields → Result ShardPlan := construct Fields.postInit ShardPlan.mk

/-- Validate exact ownership and compute a stable candidate-plan digest. -/
def create (planId batchId : Str) (manifest : CaseManifest) (algorithmVersion : String)
    (shards : List PlannedShard) : Result ShardPlan := do
  let ordered := Sorting.sortOn (·.shardIndex) shards
  validatePlanCandidate manifest ordered
  let digest ← canonicalDigest "qep.shard-plan.v1"
    (planPayload manifest.digest algorithmVersion ordered)
  new {
    id := planId
    batchId, manifest, algorithmVersion, digest
    schemaVersion := "qep.shard-plan.v1"
    shards := ordered }

theorem candidate_valid (p : ShardPlan) : validatePlanCandidate p.manifest p.shards = .ok () := by
  have h := p.accepted
  simp only [Fields.postInit, then_eq_ok] at h
  exact h.2.2.2.2.2.1

end ShardPlan

structure RunBinding.Fields where
  runId : Str
  shardIndex : ℤ
  deriving DecidableEq

def RunBinding.Fields.postInit (b : RunBinding.Fields) : Result Unit := do
  Manifest.requireNonemptyString "run_binding" "run_id" b.runId
  Manifest.requireNonnegativeInt "run_binding" "shard_index" b.shardIndex

/-- Persistence identity assigned to one stable planned shard. -/
structure RunBinding extends RunBinding.Fields where
  accepted : toFields.postInit = .ok ()
  deriving DecidableEq

def validateRunBindings (plan : ShardPlan) (bindings : List RunBinding) : Result Unit := do
  invalidIf (¬ (bindings.map (·.runId)).Nodup) "bound_shard_plan" "run_id" "duplicate"
  requireExactCover "bound_shard_plan" "shard_index" (plan.shards.map (·.shardIndex))
    (bindings.map (·.shardIndex))

structure BoundShardPlan.Fields where
  plan : ShardPlan
  bindings : List RunBinding
  deriving DecidableEq

def BoundShardPlan.Fields.postInit (b : BoundShardPlan.Fields) : Result Unit := do
  invalidIf (b.bindings ≠ Sorting.sortOn (·.shardIndex) b.bindings) "bound_shard_plan" "bindings"
    "not_canonical"
  validateRunBindings b.plan b.bindings

/-- Run identities covering every planned shard exactly once. -/
structure BoundShardPlan extends BoundShardPlan.Fields where
  accepted : toFields.postInit = .ok ()
  deriving DecidableEq

namespace BoundShardPlan

def new : BoundShardPlan.Fields → Result BoundShardPlan :=
  construct Fields.postInit BoundShardPlan.mk

def create (plan : ShardPlan) (bindings : List RunBinding) : Result BoundShardPlan :=
  new ⟨plan, Sorting.sortOn (·.shardIndex) bindings⟩

end BoundShardPlan

end QaRunner
