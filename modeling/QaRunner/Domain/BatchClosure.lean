import QaRunner.Domain.Cancellation

/-! The states of a Batch, and the immutable facts a Batch is closed from before any Run has
materialized: the rejection, the trusted zero-Run snapshot and the closure basis. -/
namespace QaRunner
open Guarded

inductive BatchState where
  | draft
  | validating
  | collecting
  | planning
  | awaitingAdmission
  | queued
  | running
  | finalizing
  | succeeded
  | failed
  | partialOutcome
  | cancelled
  | rejected
  deriving DecidableEq, Repr

/-- Persisted phase that produced a pre-execution rejection. -/
inductive BatchRejectionStage where
  | validation
  | collection
  | planning
  | admission
  deriving DecidableEq, Repr

def BatchRejectionStage.value : BatchRejectionStage → String
  | .validation => "validation"
  | .collection => "collection"
  | .planning => "planning"
  | .admission => "admission"

inductive BatchRejectionReasonClass where
  | invalidInput
  | authorizationDenied
  | policyDenied
  | sourceFailure
  | integrityFailure
  | planningFailure
  | capacityRejected
  deriving DecidableEq, Repr

def BatchRejectionReasonClass.value : BatchRejectionReasonClass → String
  | .invalidInput => "invalid_input"
  | .authorizationDenied => "authorization_denied"
  | .policyDenied => "policy_denied"
  | .sourceFailure => "source_failure"
  | .integrityFailure => "integrity_failure"
  | .planningFailure => "planning_failure"
  | .capacityRejected => "capacity_rejected"

/-- Known scope available before any Run has materialized. -/
inductive BatchPreexecutionScopeKind where
  | prePlan
  | plannedUnmaterialized
  deriving DecidableEq, Repr

def BatchPreexecutionScopeKind.value : BatchPreexecutionScopeKind → String
  | .prePlan => "pre_plan"
  | .plannedUnmaterialized => "planned_unmaterialized"

/-- Fact-aware terminal command represented by a closure basis. -/
inductive BatchPreexecutionTerminalKind where
  | rejection
  | prestartCancel
  deriving DecidableEq, Repr

def BatchPreexecutionTerminalKind.value : BatchPreexecutionTerminalKind → String
  | .rejection => "rejection"
  | .prestartCancel => "prestart_cancel"

namespace BatchState

def value : BatchState → String
  | draft => "draft"
  | validating => "validating"
  | collecting => "collecting"
  | planning => "planning"
  | awaitingAdmission => "awaiting_admission"
  | queued => "queued"
  | running => "running"
  | finalizing => "finalizing"
  | succeeded => "succeeded"
  | failed => "failed"
  | partialOutcome => "partial"
  | cancelled => "cancelled"
  | rejected => "rejected"

/-- Finalization edges belong to fact-aware commands and are not exposed here. -/
def allowedTransitions : BatchState → List BatchState
  | draft => [validating]
  | validating => [collecting]
  | collecting => [planning]
  | planning => [awaitingAdmission]
  | awaitingAdmission => [queued]
  | queued => [running]
  | _ => []

def terminal : BatchState → Bool
  | succeeded | failed | partialOutcome | cancelled | rejected => true
  | _ => false

def rejectionStage : BatchState → Option BatchRejectionStage
  | validating => some .validation
  | collecting => some .collection
  | planning => some .planning
  | awaitingAdmission => some .admission
  | _ => none

def prestartCancel : BatchState → Bool
  | draft | validating | collecting | planning | awaitingAdmission | queued => true
  | _ => false

def frozenPlanCancel : BatchState → Bool
  | awaitingAdmission | queued => true
  | _ => false

/-- The scope a phase has when a closure basis is built in it. -/
def closureScopeKind (s : BatchState) : BatchPreexecutionScopeKind :=
  if s.frozenPlanCancel then .plannedUnmaterialized else .prePlan

end BatchState

/-- The terminal kind decides which command digest a fact carries. -/
def requireCommandDigests (entity : String) (kind : BatchPreexecutionTerminalKind)
    (rejectionFactDigest batchCancellationIntentDigest : Option Digest) : Result Unit :=
  match kind with
  | .rejection => do
    invalidIf rejectionFactDigest.isNone entity "rejection_fact_digest" "required_for_terminal"
    invalidIf batchCancellationIntentDigest.isSome entity "batch_cancellation_intent_digest"
      "forbidden_for_terminal"
  | .prestartCancel => do
    invalidIf batchCancellationIntentDigest.isNone entity "batch_cancellation_intent_digest"
      "required_for_terminal"
    invalidIf rejectionFactDigest.isSome entity "rejection_fact_digest" "forbidden_for_terminal"

/-- A scope before the plan names its own digest and nothing of a plan. -/
def requirePreplanScope (entity : String) (preplanScopeDigest : Option Digest)
    (forbidden : List (String × Bool)) : Result Unit := do
  invalidIf preplanScopeDigest.isNone entity "preplan_scope_digest" "required_for_scope"
  each forbidden fun f => invalidIf (f.2 = true) entity f.1 "forbidden_for_scope"

/-- A planned scope names the plan and nothing before it. -/
def requirePlannedScope (entity : String) (preplanScopeDigest : Option Digest)
    (required : List (String × Option Digest)) (shardPlanVersion : Option ℤ) : Result Unit := do
  invalidIf preplanScopeDigest.isSome entity "preplan_scope_digest" "forbidden_for_scope"
  each required fun f => invalidIf f.2.isNone entity f.1 "required_for_scope"
  let version ← need shardPlanVersion
    (.domainValidation entity "shard_plan_version" "required_for_scope")
  requireNonnegativeVersion entity "shard_plan_version" version

structure BatchPreexecutionScopeItem.Fields where
  batchId : Str
  sourceBatchVersion : ℤ
  terminalKind : BatchPreexecutionTerminalKind
  rejectionFactDigest : Option Digest
  batchCancellationIntentDigest : Option Digest
  manifestId : Str
  manifestDigest : Digest
  manifestItemKey : Str
  shardPlanId : Str
  shardPlanVersion : ℤ
  shardPlanDigest : Digest
  materializedRunAbsenceDigest : Digest
  resolution : Str
  deriving DecidableEq

def BatchPreexecutionScopeItem.Fields.postInit (i : BatchPreexecutionScopeItem.Fields) :
    Result Unit := do
  each [("batch_id", i.batchId), ("manifest_id", i.manifestId),
    ("manifest_item_key", i.manifestItemKey), ("shard_plan_id", i.shardPlanId)] fun f =>
    requireNonemptyString "batch_preexecution_scope_item" f.1 f.2
  requireNonnegativeVersion "batch_preexecution_scope_item" "source_batch_version"
    i.sourceBatchVersion
  requireNonnegativeVersion "batch_preexecution_scope_item" "shard_plan_version" i.shardPlanVersion
  requireCommandDigests "batch_preexecution_scope_item" i.terminalKind i.rejectionFactDigest
    i.batchCancellationIntentDigest
  invalidIf (i.resolution ≠ "not_started") "batch_preexecution_scope_item" "resolution" "unknown"

/-- Immutable neutral `qep.batch-preexecution-scope-item.v1` fact. -/
structure BatchPreexecutionScopeItem extends BatchPreexecutionScopeItem.Fields where
  accepted : toFields.postInit = .ok ()
  deriving DecidableEq

namespace BatchPreexecutionScopeItem

def new : Fields → Result BatchPreexecutionScopeItem :=
  construct Fields.postInit BatchPreexecutionScopeItem.mk

def canonicalPayload (i : BatchPreexecutionScopeItem) : Json :=
  .dict [("batch_id", .str i.batchId), ("source_batch_version", .int i.sourceBatchVersion),
    ("terminal_kind", .str i.terminalKind.value),
    ("rejection_fact_digest", optionalDigestValue i.rejectionFactDigest),
    ("batch_cancellation_intent_digest", optionalDigestValue i.batchCancellationIntentDigest),
    ("manifest_id", .str i.manifestId), ("manifest_digest", .str i.manifestDigest.value),
    ("manifest_item_key", .str i.manifestItemKey), ("shard_plan_id", .str i.shardPlanId),
    ("shard_plan_version", .int i.shardPlanVersion),
    ("shard_plan_digest", .str i.shardPlanDigest.value),
    ("materialized_run_absence_digest", .str i.materializedRunAbsenceDigest.value),
    ("resolution", .str i.resolution)]

/-- Bind command, item, Plan, and no-materialized-Run identity. -/
def digest (i : BatchPreexecutionScopeItem) : Result Digest :=
  canonicalDigest "qep.batch-preexecution-scope-item.v1" i.canonicalPayload

/-- What every item of one snapshot shares. -/
structure Shared where
  terminalKind : BatchPreexecutionTerminalKind
  rejectionFactDigest : Option Digest
  batchCancellationIntentDigest : Option Digest
  manifestId : Str
  manifestDigest : Digest
  shardPlanId : Str
  shardPlanVersion : ℤ
  shardPlanDigest : Digest
  materializedRunAbsenceDigest : Digest
  deriving DecidableEq

def shared (i : BatchPreexecutionScopeItem) : Shared where
  terminalKind := i.terminalKind
  rejectionFactDigest := i.rejectionFactDigest
  batchCancellationIntentDigest := i.batchCancellationIntentDigest
  manifestId := i.manifestId
  manifestDigest := i.manifestDigest
  shardPlanId := i.shardPlanId
  shardPlanVersion := i.shardPlanVersion
  shardPlanDigest := i.shardPlanDigest
  materializedRunAbsenceDigest := i.materializedRunAbsenceDigest

end BatchPreexecutionScopeItem

structure BatchRejection.Fields where
  rejectionId : Str
  batchId : Str
  sourceBatchVersion : ℤ
  stage : BatchRejectionStage
  reasonClass : BatchRejectionReasonClass
  reasonCode : Str
  inputDigest : Digest
  authorityDigest : Option Digest
  recordedAt : Datetime
  deriving DecidableEq

def BatchRejection.Fields.postInit (r : BatchRejection.Fields) : Result Unit := do
  each [("rejection_id", r.rejectionId), ("batch_id", r.batchId), ("reason_code", r.reasonCode)]
    fun f => requireNonemptyString "batch_rejection" f.1 f.2
  requireNonnegativeVersion "batch_rejection" "source_batch_version" r.sourceBatchVersion
  invalidIf ((r.stage = .admission ∨ r.reasonClass = .authorizationDenied ∨
    r.reasonClass = .policyDenied) ∧ r.authorityDigest.isNone) "batch_rejection"
    "authority_digest" "required_for_rejection"
  requireUtc "batch_rejection" "recorded_at" r.recordedAt

/-- Immutable `qep.batch-rejection.v1` fact. -/
structure BatchRejection extends BatchRejection.Fields where
  accepted : toFields.postInit = .ok ()
  deriving DecidableEq

namespace BatchRejection

def new : Fields → Result BatchRejection := construct Fields.postInit BatchRejection.mk

def canonicalPayload (r : BatchRejection) : Json :=
  .dict [("rejection_id", .str r.rejectionId), ("batch_id", .str r.batchId),
    ("source_batch_version", .int r.sourceBatchVersion), ("stage", .str r.stage.value),
    ("reason_class", .str r.reasonClass.value), ("reason_code", .str r.reasonCode),
    ("input_digest", .str r.inputDigest.value),
    ("authority_digest", optionalDigestValue r.authorityDigest),
    ("recorded_at", .str r.recordedAt.isoformat)]

/-- Bind the complete rejection fact to its source Batch version. -/
def digest (r : BatchRejection) : Result Digest :=
  canonicalDigest "qep.batch-rejection.v1" r.canonicalPayload

end BatchRejection

structure BatchPreexecutionSnapshot.Fields where
  batchId : Str
  sourceBatchVersion : ℤ
  scopeKind : BatchPreexecutionScopeKind
  submissionDigest : Digest
  preplanScopeDigest : Option Digest
  manifestDigest : Option Digest
  shardPlanVersion : Option ℤ
  shardPlanDigest : Option Digest
  canonicalRunSetDigest : Option Digest
  materializedRunAbsenceDigest : Digest
  executionAbsenceSnapshotDigest : Digest
  taskStopFactDigests : List Digest
  scopeItems : List BatchPreexecutionScopeItem
  itemCoverageProofDigest : Option Digest
  deriving DecidableEq

namespace BatchPreexecutionSnapshot.Fields

def requireScopeItems (s : Fields) : Result Unit := do
  let keys := s.scopeItems.map (·.manifestItemKey)
  invalidIf (¬ keys.Nodup) "batch_preexecution_snapshot" "scope_items" "duplicate"
  invalidIf (keys ≠ Sorting.sortOn (fun x => x) keys) "batch_preexecution_snapshot" "scope_items"
    "not_canonical"

def requireScopeItemBindings (s : Fields) : Result Unit := do
  let first ← need s.scopeItems.head? (.crash .indexError)
  invalidIf (∃ item ∈ s.scopeItems, item.batchId ≠ s.batchId ∨
    item.sourceBatchVersion ≠ s.sourceBatchVersion ∨ some item.manifestDigest ≠ s.manifestDigest ∨
    some item.shardPlanVersion ≠ s.shardPlanVersion ∨
    some item.shardPlanDigest ≠ s.shardPlanDigest ∨
    item.materializedRunAbsenceDigest ≠ s.materializedRunAbsenceDigest ∨
    item.shared ≠ first.shared) "batch_preexecution_snapshot" "scope_items" "binding_mismatch"

def postInit (s : Fields) : Result Unit := do
  requireNonemptyString "batch_preexecution_snapshot" "batch_id" s.batchId
  requireNonnegativeVersion "batch_preexecution_snapshot" "source_batch_version"
    s.sourceBatchVersion
  invalidIf (¬ s.taskStopFactDigests.Nodup) "batch_preexecution_snapshot" "task_stop_fact_digests"
    "duplicate"
  match s.scopeKind with
  | .prePlan =>
    requirePreplanScope "batch_preexecution_snapshot" s.preplanScopeDigest
      [("manifest_digest", s.manifestDigest.isSome),
        ("shard_plan_version", s.shardPlanVersion.isSome),
        ("shard_plan_digest", s.shardPlanDigest.isSome),
        ("canonical_run_set_digest", s.canonicalRunSetDigest.isSome),
        ("scope_items", s.scopeItems ≠ []),
        ("item_coverage_proof_digest", s.itemCoverageProofDigest.isSome)]
  | .plannedUnmaterialized => do
    requirePlannedScope "batch_preexecution_snapshot" s.preplanScopeDigest
      [("manifest_digest", s.manifestDigest), ("shard_plan_digest", s.shardPlanDigest),
        ("canonical_run_set_digest", s.canonicalRunSetDigest),
        ("item_coverage_proof_digest", s.itemCoverageProofDigest)] s.shardPlanVersion
    s.requireScopeItems
    invalidIf (s.scopeItems = []) "batch_preexecution_snapshot" "scope_items" "required_for_scope"
    s.requireScopeItemBindings

end BatchPreexecutionSnapshot.Fields

/-- Trusted zero-Run scope and absence facts supplied to a Batch command. -/
structure BatchPreexecutionSnapshot extends BatchPreexecutionSnapshot.Fields where
  accepted : toFields.postInit = .ok ()
  deriving DecidableEq

def BatchPreexecutionSnapshot.new : BatchPreexecutionSnapshot.Fields →
    Result BatchPreexecutionSnapshot :=
  construct BatchPreexecutionSnapshot.Fields.postInit BatchPreexecutionSnapshot.mk

structure BatchPreexecutionClosureBasis.Fields where
  batchId : Str
  sourceBatchVersion : ℤ
  sourcePhase : BatchState
  terminalKind : BatchPreexecutionTerminalKind
  rejectionFactDigest : Option Digest
  batchCancellationIntentDigest : Option Digest
  scopeKind : BatchPreexecutionScopeKind
  submissionDigest : Digest
  preplanScopeDigest : Option Digest
  manifestDigest : Option Digest
  shardPlanVersion : Option ℤ
  shardPlanDigest : Option Digest
  canonicalRunSetDigest : Option Digest
  materializedRunAbsenceDigest : Digest
  executionAbsenceSnapshotDigest : Digest
  taskStopFactDigests : List Digest
  preexecutionScopeItemFactDigests : List Digest
  itemCoverageProofDigest : Option Digest
  batchOutcome : BatchState
  deriving DecidableEq

namespace BatchPreexecutionClosureBasis.Fields

/-- The phases a terminal kind closes, and the outcome it closes with. -/
def requireTerminal (b : Fields) : Result Unit :=
  match b.terminalKind with
  | .rejection => do
    invalidIf (b.sourcePhase ∉ [.validating, .collecting, .planning, .awaitingAdmission])
      "batch_preexecution_closure_basis" "source_phase" "invalid_for_terminal"
    invalidIf (b.batchOutcome ≠ .rejected) "batch_preexecution_closure_basis" "batch_outcome"
      "invalid_for_terminal"
  | .prestartCancel => do
    invalidIf (b.sourcePhase ∉ [.draft, .validating, .collecting, .planning, .awaitingAdmission,
      .queued]) "batch_preexecution_closure_basis" "source_phase" "invalid_for_terminal"
    invalidIf (b.batchOutcome ≠ .cancelled) "batch_preexecution_closure_basis" "batch_outcome"
      "invalid_for_terminal"

def postInit (b : Fields) : Result Unit := do
  requireNonemptyString "batch_preexecution_closure_basis" "batch_id" b.batchId
  requireNonnegativeVersion "batch_preexecution_closure_basis" "source_batch_version"
    b.sourceBatchVersion
  requireCommandDigests "batch_preexecution_closure_basis" b.terminalKind b.rejectionFactDigest
    b.batchCancellationIntentDigest
  b.requireTerminal
  invalidIf (b.scopeKind ≠ b.sourcePhase.closureScopeKind) "batch_preexecution_closure_basis"
    "scope_kind" "invalid_for_source_phase"
  invalidIf (¬ b.taskStopFactDigests.Nodup) "batch_preexecution_closure_basis"
    "task_stop_fact_digests" "duplicate"
  invalidIf (¬ b.preexecutionScopeItemFactDigests.Nodup) "batch_preexecution_closure_basis"
    "preexecution_scope_item_fact_digests" "duplicate"
  match b.scopeKind with
  | .prePlan =>
    requirePreplanScope "batch_preexecution_closure_basis" b.preplanScopeDigest
      [("manifest_digest", b.manifestDigest.isSome),
        ("shard_plan_version", b.shardPlanVersion.isSome),
        ("shard_plan_digest", b.shardPlanDigest.isSome),
        ("canonical_run_set_digest", b.canonicalRunSetDigest.isSome),
        ("preexecution_scope_item_fact_digests", b.preexecutionScopeItemFactDigests ≠ []),
        ("item_coverage_proof_digest", b.itemCoverageProofDigest.isSome)]
  | .plannedUnmaterialized => do
    requirePlannedScope "batch_preexecution_closure_basis" b.preplanScopeDigest
      [("manifest_digest", b.manifestDigest), ("shard_plan_digest", b.shardPlanDigest),
        ("canonical_run_set_digest", b.canonicalRunSetDigest),
        ("item_coverage_proof_digest", b.itemCoverageProofDigest)] b.shardPlanVersion
    invalidIf (b.preexecutionScopeItemFactDigests = []) "batch_preexecution_closure_basis"
      "preexecution_scope_item_fact_digests" "required_for_scope"

end BatchPreexecutionClosureBasis.Fields

/-- Immutable basis for a zero-materialized-Run Batch terminal. -/
structure BatchPreexecutionClosureBasis extends BatchPreexecutionClosureBasis.Fields where
  accepted : toFields.postInit = .ok ()
  deriving DecidableEq

namespace BatchPreexecutionClosureBasis

def new : Fields → Result BatchPreexecutionClosureBasis :=
  construct Fields.postInit BatchPreexecutionClosureBasis.mk

def canonicalPayload (b : BatchPreexecutionClosureBasis) : Json :=
  .dict [("batch_id", .str b.batchId), ("source_batch_version", .int b.sourceBatchVersion),
    ("source_phase", .str b.sourcePhase.value), ("terminal_kind", .str b.terminalKind.value),
    ("rejection_fact_digest", optionalDigestValue b.rejectionFactDigest),
    ("batch_cancellation_intent_digest", optionalDigestValue b.batchCancellationIntentDigest),
    ("scope_kind", .str b.scopeKind.value), ("submission_digest", .str b.submissionDigest.value),
    ("preplan_scope_digest", optionalDigestValue b.preplanScopeDigest),
    ("manifest_digest", optionalDigestValue b.manifestDigest),
    ("shard_plan_version", optionalInt b.shardPlanVersion),
    ("shard_plan_digest", optionalDigestValue b.shardPlanDigest),
    ("canonical_run_set_digest", optionalDigestValue b.canonicalRunSetDigest),
    ("materialized_run_absence_digest", .str b.materializedRunAbsenceDigest.value),
    ("execution_absence_snapshot_digest", .str b.executionAbsenceSnapshotDigest.value),
    ("task_stop_fact_digest", .list (b.taskStopFactDigests.map fun d => .str d.value)),
    ("preexecution_scope_item_fact_digest",
      .list (b.preexecutionScopeItemFactDigests.map fun d => .str d.value)),
    ("item_coverage_proof_digest", optionalDigestValue b.itemCoverageProofDigest),
    ("batch_outcome", .str b.batchOutcome.value)]

/-- Bind the complete command, scope, no-execution proof, and outcome. -/
def digest (b : BatchPreexecutionClosureBasis) : Result Digest :=
  canonicalDigest "qep.batch-preexecution-closure-basis.v1" b.canonicalPayload

end BatchPreexecutionClosureBasis
end QaRunner
