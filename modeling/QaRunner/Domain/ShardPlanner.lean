import QaRunner.Domain.ResourceProfile
import QaRunner.Domain.ShardPartition
import QaRunner.Lib.ListScheduling
import Mathlib.Data.Prod.Lex

/-! The planner that splits a manifest into shards by resource profile and, under a budget, each
profile by its atomic groups. -/
namespace QaRunner
open Guarded Manifest

/-- The shard of a profile that carries the items. -/
def shardOf (shardIndex : ℤ) (manifestItemIndices : List ℤ) (resourceProfileId : String)
    (items : List ManifestItem) : Result PlannedShard := do
  let requirements ← aggregateShardRequirements items
  PlannedShard.new {
    shardIndex, manifestItemIndices, resourceProfileId, requirements
    estimatedDurationMs := (items.map (·.estimate.durationMs)).sum
    flags := [] }

/-- One shard covering all items in a profile group. -/
def singleShardForGroup (items : List ManifestItem) (resourceProfileId : String)
    (shardIndexOffset : ℤ) : Result (List PlannedShard) := do
  let shard ← shardOf shardIndexOffset (items.map (·.itemIndex)) resourceProfileId items
  return [shard]

section
variable (items : List ManifestItem)

def groupDuration (group : String) : ℤ :=
  ((items.filter (·.atomicGroupId = group)).map (·.estimate.durationMs)).sum

def groupIndices (group : String) : List ℤ :=
  (items.filter (·.atomicGroupId = group)).map (·.itemIndex)

def atomicGroups : List String := (items.map (·.atomicGroupId)).dedup

/-- Longest duration first, then by group id. -/
def sortedGroups : List String :=
  Sorting.sortOn (fun group => toLex (-groupDuration items group, group)) (atomicGroups items)

/-- The indices assigned to each of the shards: every group goes to the first shard with the least
load. -/
def shardIndices (effective : ℕ) : List (List ℤ) :=
  (ListScheduling.schedule (groupDuration items) (groupIndices items)
    (List.replicate effective ⟨0, []⟩) (sortedGroups items)).map (·.held)

/-- Split a profile group over several shards; an atomic group is not divided. The allowed number
is positive. -/
def lptSplitGroup (resourceProfileId : String) (allowedShards shardIndexOffset : ℤ) :
    Result (List PlannedShard) :=
  let effective := min allowedShards (atomicGroups items).length
  collect (shardIndices items effective.toNat).zipIdx fun (indices, s) =>
    let ordered := Sorting.sortOn id indices
    shardOf (shardIndexOffset + s) ordered resourceProfileId
      (items.filter (·.itemIndex ∈ ordered))

end

/-- How many shards the budget admits for a profile: one without a budget, none when not even one
fits. -/
def allowedShardCountForProfile (resourceProfileId : String) (groupItems : List ManifestItem) :
    Option ShardPlanningBudget → Result ℤ
  | none => .ok 1
  | some budget => do
    let decision ← planShardCountUnderBudget (groupItems.map (·.estimate.durationMs)).sum
      resourceProfileId budget
    return if decision.kind = .infeasible then 0 else decision.allowedShardCount

/-- The profiles in ascending order, each with the indices of its items. -/
def profileGroups (items : List ManifestItem) : List (String × List ℤ) :=
  (Sorting.sortOn id (items.map (·.resourceProfileId)).dedup).map fun profile =>
    (profile, (items.filter (·.resourceProfileId = profile)).map (·.itemIndex))

/-- The shards of one profile group, numbered from the offset on. -/
def planGroup (manifest : CaseManifest) (budget : Option ShardPlanningBudget)
    (resourceProfileId : String) (indices : List ℤ) (shardIndexOffset : ℤ) :
    Result (List PlannedShard) := do
  let groupItems ← collect (Sorting.sortOn id indices) manifest.itemAt
  let allowed ← allowedShardCountForProfile resourceProfileId groupItems budget
  invalidIf (allowed < 1) "shard_plan" "resource_profile_id" "infeasible"
  if allowed = 1 ∨ groupItems.length ≤ 1 then
    singleShardForGroup groupItems resourceProfileId shardIndexOffset
  else
    lptSplitGroup groupItems resourceProfileId allowed shardIndexOffset

def planGroups (manifest : CaseManifest) (budget : Option ShardPlanningBudget)
    (shards : List PlannedShard) : List (String × List ℤ) → Result (List PlannedShard)
  | [] => .ok shards
  | (resourceProfileId, indices) :: groups => do
    let planned ← planGroup manifest budget resourceProfileId indices shards.length
    planGroups manifest budget (shards ++ planned) groups

def multiShardAlgorithmVersion : String := "qep.multi-shard.v1"

/-- Plan the shards profile by profile and validate them as one candidate. -/
def planMultiShard (planId : Str) (manifest : CaseManifest) (algorithmVersion : String)
    (budget : Option ShardPlanningBudget) : Result ShardPlan := do
  let shards ← planGroups manifest budget [] (profileGroups manifest.items)
  ShardPlan.create planId manifest.batchId manifest algorithmVersion shards

end QaRunner
