import QaRunner.Application.Handoff
import QaRunner.Application.RunClosedHandoff
import QaRunner.Domain.BatchFinalization
import QaRunner.Domain.Retry
import QaRunner.Domain.ShardPartition

/-! What a Batch has to show before it may start to finalize: its frozen plan and the closures of
all its Runs. -/
namespace QaRunner
open Guarded

/-- What the values of an application port raise. -/
abbrev Port := Except Problem

def Port.lift {α : Type} (x : Result α) : Port α :=
  match x with
  | .ok a => .ok a
  | .error e => .error (.domain e)

theorem Port.lift_eq_ok {α : Type} {x : Result α} {a : α} : Port.lift x = .ok a ↔ x = .ok a := by
  cases x <;> simp [lift]

namespace Port

def invalidIf (c : Prop) [Decidable c] (entity field reason : String) : Port Unit :=
  raiseIf c (.portContract entity field reason)

def string (entity field : String) (value : Str) : Port Unit :=
  invalidIf (isBlank value) entity field "invalid"

def nonnegative (entity field : String) (value : ℤ) : Port Unit :=
  invalidIf (value < 0) entity field "invalid"

def positive (entity field : String) (value : ℤ) : Port Unit :=
  invalidIf (value < 1) entity field "invalid"

/-- Nonempty strings in ascending order, none of them twice, and at least one. -/
def canonicalStrings (entity field : String) (values : List Str) : Port Unit := do
  invalidIf (∃ value ∈ values, value = "") entity field "invalid"
  invalidIf (values = []) entity field "empty"
  invalidIf (values ≠ Sorting.sortOn id values ∨ ¬ values.Nodup) entity field "not_canonical"

theorem invalidIf_eq_ok {c : Prop} [Decidable c] {entity field reason : String} {u : Unit} :
    invalidIf c entity field reason = .ok u ↔ ¬ c := raiseIf_eq_ok

end Port

inductive AttemptCreationOpportunityKind where
  | initialCommit
  | retryCommit
  deriving DecidableEq, Repr

def AttemptCreationOpportunityKind.value : AttemptCreationOpportunityKind → String
  | .initialCommit => "initial_commit"
  | .retryCommit => "retry_commit"

inductive BatchFinalizationReadinessReason where
  | ready
  | pendingRetry
  | pendingAttempt
  deriving DecidableEq, Repr

structure AttemptCreationOpportunity.Fields where
  runId : Str
  kind : AttemptCreationOpportunityKind
  authorityDigest : Digest
  deriving DecidableEq

def AttemptCreationOpportunity.Fields.postInit (o : AttemptCreationOpportunity.Fields) :
    Port Unit :=
  Port.string "attempt_creation_opportunity" "run_id" o.runId

/-- A way in which a Run may still get an Attempt. -/
structure AttemptCreationOpportunity extends AttemptCreationOpportunity.Fields where
  accepted : toFields.postInit = .ok ()
  deriving DecidableEq

structure BatchRunClosure.Fields where
  handoff : RunClosedHandoff
  basis : RunFinalizationBasis
  resolutionSet : RunItemResolutionSet
  state : RunFinalizationState
  deriving DecidableEq

namespace BatchRunClosure.Fields

/-- The handoff, the basis, the set and the state are not of one closed Run. -/
def bindingMismatch (c : Fields) : Result Bool :=
  anyOf [.ok (decide (c.state.phase ≠ .closed)),
    .ok (decide (c.state.disposition ≠ some .closedNoRetry)), do
      let digest ← c.basis.basisDigest
      return decide (c.state.finalizationBasisDigest ≠ some digest),
    .ok (decide (c.state.outcome ≠ some c.basis.outcome)),
    differs c.handoff.batchId (.ok c.basis.batchId), differs c.handoff.runId (.ok c.basis.runId),
    differs c.handoff.sourceRunVersion (.ok c.basis.sourceRunVersion),
    differs c.handoff.runBasisDigest c.basis.basisDigest,
    differs c.handoff.manifestDigest (.ok c.basis.manifestDigest),
    differs c.handoff.shardPlanDigest (.ok c.basis.shardPlanDigest),
    differs c.handoff.itemResolutionSetDigest (.ok c.basis.itemResolutionSetDigest),
    differs c.resolutionSet.batchId (.ok c.basis.batchId),
    differs c.resolutionSet.runId (.ok c.basis.runId),
    differs c.resolutionSet.sourceRunVersion (.ok c.basis.sourceRunVersion),
    differs c.basis.itemResolutionSetDigest c.resolutionSet.resolutionSetDigest]

def postInit (c : Fields) : Port Unit := do
  let mismatch ← Port.lift c.bindingMismatch
  Port.invalidIf (mismatch = true) "batch_run_closure" "binding" "mismatch"

end BatchRunClosure.Fields

/-- A closed Run as the Batch sees it. -/
structure BatchRunClosure extends BatchRunClosure.Fields where
  accepted : toFields.postInit = .ok ()
  deriving DecidableEq

def BatchRunClosure.runId (c : BatchRunClosure) : Str := c.basis.runId

/-- The items a closure resolves. -/
def BatchRunClosure.itemKeys (c : BatchRunClosure) : List RunItemKey :=
  c.resolutionSet.entries.map (·.itemKey)

/-- The digest that freezes a plan with its bindings. -/
def frozenPlanDigest (planVersion : ℤ) (boundPlan : BoundShardPlan) : Result Digest :=
  canonicalDigest "qep.frozen-bound-shard-plan.v1"
    (.dict [("plan_id", .str boundPlan.plan.id), ("plan_version", .int planVersion),
      ("plan_digest", .str boundPlan.plan.digest.value),
      ("bindings", .list (boundPlan.bindings.map fun b =>
        .dict [("run_id", .str b.runId), ("shard_index", .int b.shardIndex)]))])

structure FrozenBoundShardPlan.Fields where
  planVersion : ℤ
  boundPlan : BoundShardPlan
  bindingDigest : Digest
  deriving DecidableEq

def FrozenBoundShardPlan.Fields.postInit (f : FrozenBoundShardPlan.Fields) : Port Unit := do
  Port.nonnegative "frozen_bound_shard_plan" "plan_version" f.planVersion
  let computed ← Port.lift (frozenPlanDigest f.planVersion f.boundPlan)
  Port.invalidIf (f.bindingDigest ≠ computed) "frozen_bound_shard_plan" "binding_digest" "mismatch"

/-- A bound plan at one version, under the digest of both. -/
structure FrozenBoundShardPlan extends FrozenBoundShardPlan.Fields where
  accepted : toFields.postInit = .ok ()
  deriving DecidableEq

def FrozenBoundShardPlan.freeze (planVersion : ℤ) (boundPlan : BoundShardPlan) :
    Port FrozenBoundShardPlan := do
  let digest ← Port.lift (frozenPlanDigest planVersion boundPlan)
  construct Fields.postInit FrozenBoundShardPlan.mk ⟨planVersion, boundPlan, digest⟩

def RunItemKey.new : RunItemKey.Fields → Result RunItemKey :=
  construct Fields.postInit RunItemKey.mk

structure BatchFinalizationReadinessSnapshot.Fields where
  batchId : Str
  sourceBatchVersion : ℤ
  manifestId : Str
  manifestDigest : Digest
  itemCount : ℤ
  shardPlanId : Str
  frozenPlan : FrozenBoundShardPlan
  canonicalRunIds : List Str
  canonicalRunSetDigest : Digest
  successPolicy : BatchSuccessPolicy
  batchCancellationIntentDigest : Option Digest
  runClosures : List BatchRunClosure
  pendingRetryIntents : List RetryIntent
  attemptCreationOpportunities : List AttemptCreationOpportunity
  deriving DecidableEq

namespace BatchFinalizationReadinessSnapshot.Fields

def entity : String := "batch_finalization_readiness_snapshot"

def bound (s : Fields) : BoundShardPlan := s.frozenPlan.boundPlan

def shardPlanDigest (s : Fields) : Digest := s.bound.plan.digest

/-- The frozen plan is the plan, over the manifest and for the Runs, that the snapshot names. -/
def validateFrozenPlan (s : Fields) : Port Unit :=
  Port.invalidIf (s.bound.plan.id ≠ s.shardPlanId ∨ s.bound.plan.batchId ≠ s.batchId ∨
    s.bound.plan.digest ≠ s.shardPlanDigest ∨ s.bound.plan.manifest.id ≠ s.manifestId ∨
    s.bound.plan.manifest.digest ≠ s.manifestDigest ∨
    s.bound.plan.manifest.itemCount ≠ s.itemCount ∨
    Sorting.sortOn id (s.bound.bindings.map (·.runId)) ≠ s.canonicalRunIds)
    entity "frozen_plan" "binding_mismatch"

/-- A closure holds the items of the shard its Run is bound to, in their order. -/
def validateOwnership (s : Fields) (closure : BatchRunClosure) : Port Unit := do
  let binding ← need (s.bound.bindings.reverse.find? (·.runId = closure.runId))
    (.domain (.crash .keyError))
  let shard ← need (s.bound.plan.shards.reverse.find? (·.shardIndex = binding.shardIndex))
    (.domain (.crash .keyError))
  let expected ← Port.lift
    (collect shard.manifestItemIndices fun index => RunItemKey.new ⟨s.manifestId, index⟩)
  Port.invalidIf (closure.itemKeys ≠ expected) entity "run_closures"
    "shard_item_ownership_mismatch"

/-- Keys in ascending order, none of them twice, and all of Runs of the Batch. -/
def validateRunKeys (s : Fields) (field : String) (keys : List (Str ×ₗ Str)) :
    Port Unit := do
  Port.invalidIf (keys ≠ Sorting.sortOn id keys ∨ ¬ keys.Nodup) entity field "not_canonical"
  Port.invalidIf (∃ key ∈ keys, (ofLex key).1 ∉ s.canonicalRunIds) entity field "unknown_run"

def postInit (s : Fields) : Port Unit := do
  each [("batch_id", s.batchId), ("manifest_id", s.manifestId),
    ("shard_plan_id", s.shardPlanId)] fun f => Port.string entity f.1 f.2
  Port.nonnegative entity "source_batch_version" s.sourceBatchVersion
  Port.positive entity "item_count" s.itemCount
  Port.canonicalStrings entity "canonical_run_ids" s.canonicalRunIds
  s.validateFrozenPlan
  let runSetDigest ← Port.lift (canonicalMaterializedRunSetDigest s.batchId s.canonicalRunIds)
  Port.invalidIf (s.canonicalRunSetDigest ≠ runSetDigest) entity "canonical_run_ids"
    "digest_mismatch"
  Port.invalidIf (s.runClosures.map (·.runId) ≠ s.canonicalRunIds ∨
    ∃ closure ∈ s.runClosures, closure.basis.batchId ≠ s.batchId ∨
      closure.basis.manifestDigest ≠ s.manifestDigest ∨
      closure.basis.shardPlanDigest ≠ s.shardPlanDigest) entity "run_closures" "binding_mismatch"
  each s.runClosures s.validateOwnership
  s.validateRunKeys "pending_retry_intents"
    (s.pendingRetryIntents.map fun intent => toLex (intent.runId, intent.id))
  s.validateRunKeys "attempt_creation_opportunities"
    (s.attemptCreationOpportunities.map fun o => toLex (o.runId, o.kind.value))

end BatchFinalizationReadinessSnapshot.Fields

/-- What a Batch shows when it asks to start finalizing. -/
structure BatchFinalizationReadinessSnapshot extends BatchFinalizationReadinessSnapshot.Fields where
  accepted : toFields.postInit = .ok ()
  deriving DecidableEq

namespace BatchFinalizationReadinessSnapshot

def new : BatchFinalizationReadinessSnapshot.Fields → Port BatchFinalizationReadinessSnapshot :=
  construct Fields.postInit BatchFinalizationReadinessSnapshot.mk

def reason (s : BatchFinalizationReadinessSnapshot) : BatchFinalizationReadinessReason :=
  if s.pendingRetryIntents ≠ [] then .pendingRetry
  else if s.attemptCreationOpportunities ≠ [] then .pendingAttempt
  else .ready

def readinessDigest (s : BatchFinalizationReadinessSnapshot) : Result Digest := do
  let policy ← s.successPolicy.policyDigest
  let bases ← collect s.runClosures fun closure => closure.basis.basisDigest
  let intents ← collect s.pendingRetryIntents fun intent => do
    let digest ← intent.digest
    return Json.dict [("run_id", .str intent.runId), ("intent_digest", .str digest.value)]
  canonicalDigest "qep.batch-finalization-readiness.v1"
    (.dict [("batch_id", .str s.batchId), ("source_batch_version", .int s.sourceBatchVersion),
      ("manifest_id", .str s.manifestId), ("manifest_digest", .str s.manifestDigest.value),
      ("item_count", .int s.itemCount), ("shard_plan_id", .str s.shardPlanId),
      ("shard_plan_version", .int s.frozenPlan.planVersion),
      ("shard_plan_digest", .str s.shardPlanDigest.value),
      ("frozen_plan_binding_digest", .str s.frozenPlan.bindingDigest.value),
      ("canonical_run_ids", .list (s.canonicalRunIds.map .str)),
      ("canonical_run_set_digest", .str s.canonicalRunSetDigest.value),
      ("success_policy_digest", .str policy.value),
      ("batch_cancellation_intent_digest", optionalDigestValue s.batchCancellationIntentDigest),
      ("run_basis_digests", .list (bases.map fun d => .str d.value)),
      ("pending_retry_intents", .list intents),
      ("attempt_creation_opportunities", .list (s.attemptCreationOpportunities.map fun o =>
        .dict [("run_id", .str o.runId), ("kind", .str o.kind.value),
          ("authority_digest", .str o.authorityDigest.value)]))])

end BatchFinalizationReadinessSnapshot

end QaRunner
