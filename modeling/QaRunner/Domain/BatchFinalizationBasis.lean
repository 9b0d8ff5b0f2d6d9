import QaRunner.Domain.BatchFinalization

/-! The basis a Batch is finalized on, by its two doors: the checks of direct construction, which
rehydration goes through, and `build`, which derives the references from the closed Runs. -/
namespace QaRunner
open Guarded

/-- What the closed Runs of a Batch contribute to its basis. -/
structure RunDerivation where
  entries : List BatchItemResolution := []
  unknownFactRefs : List BatchUnknownFactRef := []
  terminalRunRefs : List BatchTerminalRunRef := []

structure BatchFinalizationBasis.Fields where
  resolutionSet : BatchItemResolutionSet
  runResolutionSets : List RunItemResolutionSet
  runBases : List RunFinalizationBasis
  cancellationScopeItems : List BatchCancellationScopeItem
  terminalRunRefs : List BatchTerminalRunRef
  nonRunRefs : List BatchNonRunResolutionRef
  unknownFactRefs : List BatchUnknownFactRef
  policy : BatchSuccessPolicy
  evaluation : BatchOutcomeEvaluation
  deriving DecidableEq

def RunItemKey.Digestible (k : RunItemKey) : Prop :=
  k.manifestId.isUnicode = true ∧ SafeInt k.itemIndex

/-- What a digest covers of an entry is inside the I-JSON subset. -/
structure BatchItemResolution.Digestible (e : BatchItemResolution) : Prop where
  itemKey : e.itemKey.Digestible
  sourceRunId : ∀ runId ∈ e.sourceRunId, runId.isUnicode = true
  sourceRunVersion : ∀ n ∈ e.sourceRunVersion, SafeInt n

/-- What the digest of a basis covers is inside the I-JSON subset. -/
structure BatchFinalizationBasis.Fields.Safe (b : BatchFinalizationBasis.Fields) : Prop where
  batchId : b.resolutionSet.batchId.isUnicode = true
  sourceBatchVersion : SafeInt b.resolutionSet.sourceBatchVersion
  manifestId : b.resolutionSet.manifestId.isUnicode = true
  shardPlanId : b.resolutionSet.shardPlanId.isUnicode = true
  shardPlanVersion : SafeInt b.resolutionSet.shardPlanVersion
  itemCount : SafeInt b.resolutionSet.entries.length
  entries : ∀ e ∈ b.resolutionSet.entries, e.Digestible
  policyId : b.policy.policyId.isUnicode = true
  policyVersion : SafeInt b.policy.policyVersion
  terminalRunRefs : ∀ ref ∈ b.terminalRunRefs,
    ref.runId.isUnicode = true ∧ SafeInt ref.sourceRunVersion
  unknownFactRefs : ∀ ref ∈ b.unknownFactRefs, ref.itemKey.Digestible

namespace BatchFinalizationBasis

def basisInvalidIf (c : Prop) [Decidable c] (field reason : String) : Result Unit :=
  invalidIf c "batch_finalization_basis" field reason

theorem basisInvalidIf_eq_ok {c : Prop} [Decidable c] {field reason : String} {u : Unit} :
    basisInvalidIf c field reason = .ok u ↔ ¬ c := invalidIf_eq_ok

/-- The values by run id, in order. -/
def uniqueByRunId {α : Type} (field : String) (runId : α → Str) (values : List α) :
    Result (List (Str × α)) := do
  basisInvalidIf (¬ (values.map runId).Nodup) field "duplicate_run"
  return values.map fun value => (runId value, value)

def requireOrderedRefs {κ : Type} [LinearOrder κ] (field : String) (keys : List κ) :
    Result Unit := do
  basisInvalidIf (¬ keys.Nodup) field "duplicate"
  basisInvalidIf (keys ≠ Sorting.sortOn id keys) field "not_ordered"

/-- Which items are recorded as unknown, and whether the Run itself is referenced. -/
structure DerivationRules where
  isUnknown : RunItemResolution → BatchItemResolution → Bool
  terminalRefs : RunFinalizationBasis → Result (List BatchTerminalRunRef)

def deriveItem (rules : DerivationRules) (basis : RunFinalizationBasis)
    (runSet : RunItemResolutionSet) (derived : RunDerivation) (item : RunItemResolution) :
    Result RunDerivation := do
  let entry ← BatchItemResolution.fromRunResolution basis runSet item
  basisInvalidIf (entry.itemKey ∈ derived.entries.map (·.itemKey)) "run_resolution_sets"
    "item_overlap"
  if rules.isUnknown item entry then do
    let ref ← BatchUnknownFactRef.fromResolution item
    return { derived with
      entries := derived.entries ++ [entry]
      unknownFactRefs := derived.unknownFactRefs ++ [ref] }
  else return { derived with entries := derived.entries ++ [entry] }

def deriveItems (rules : DerivationRules) (basis : RunFinalizationBasis)
    (runSet : RunItemResolutionSet) (derived : RunDerivation) :
    List RunItemResolution → Result RunDerivation
  | [] => .ok derived
  | item :: items => do
    let derived ← deriveItem rules basis runSet derived item
    deriveItems rules basis runSet derived items

def deriveRun (rules : DerivationRules) (resolutionSet : BatchItemResolutionSet)
    (bases : List (Str × RunFinalizationBasis)) (derived : RunDerivation)
    (run : Str × RunItemResolutionSet) : Result RunDerivation := do
  let (_, basis) ← need (bases.find? (·.1 = run.1)) (.crash .keyError)
  basisInvalidIf (run.2.batchId ≠ resolutionSet.batchId ∨
    run.2.manifestDigest ≠ resolutionSet.manifestDigest ∨
    run.2.shardPlanDigest ≠ resolutionSet.shardPlanDigest) "run_resolution_sets"
    "envelope_mismatch"
  let refs ← rules.terminalRefs basis
  deriveItems rules basis run.2
    { derived with terminalRunRefs := derived.terminalRunRefs ++ refs } run.2.entries

def deriveRuns (rules : DerivationRules) (resolutionSet : BatchItemResolutionSet)
    (bases : List (Str × RunFinalizationBasis)) (derived : RunDerivation) :
    List (Str × RunItemResolutionSet) → Result RunDerivation
  | [] => .ok derived
  | run :: runs => do
    let derived ← deriveRun rules resolutionSet bases derived run
    deriveRuns rules resolutionSet bases derived runs

/-- Construction asks the resolution of an item for its lineage. -/
def postInitRules : DerivationRules where
  isUnknown item _ := item.unknownLineageDigest.isSome
  terminalRefs _ := .ok []

/-- `build` asks the derived entry for its class, and references every Run. -/
def buildRules : DerivationRules where
  isUnknown _ entry := entry.classification = .unknownLineage
  terminalRefs basis := do
    let ref ← BatchTerminalRunRef.fromBasis basis
    return [ref]

end BatchFinalizationBasis

namespace BatchItemResolutionSet

def runEntries (s : BatchItemResolutionSet) : List BatchItemResolution :=
  s.entries.filter (·.sourceKind = .runResolution)

def notExecutedEntries (s : BatchItemResolutionSet) : List BatchItemResolution :=
  s.entries.filter (·.sourceKind = .notExecuted)

/-- The identity a cancellation scope of this Batch must carry. -/
def scopeEnvelope (s : BatchItemResolutionSet) (intentDigest : Digest) : ScopeEnvelope where
  batchId := s.batchId
  batchCancellationIntentDigest := intentDigest
  manifestId := s.manifestId
  manifestDigest := s.manifestDigest
  shardPlanVersion := s.shardPlanVersion
  shardPlanDigest := s.shardPlanDigest

end BatchItemResolutionSet

namespace BatchFinalizationBasis.Fields

/-- The references a canonical scope calls for: its facts about items that never ran. -/
def requireScope (b : Fields) : Result Unit :=
  match b.evaluation.batchCancellationIntentDigest with
  | none => basisInvalidIf (b.cancellationScopeItems ≠ []) "cancellation_scope_items" "unexpected"
  | some intentDigest => do
    let canonical ← canonicalizeBatchCancellationScopeItems
      (b.resolutionSet.scopeEnvelope intentDigest) b.resolutionSet.expectedItemKeys
      b.cancellationScopeItems
    let refs ← collect (canonical.filter (·.resolutionKind = .notExecuted))
      BatchNonRunResolutionRef.fromScopeItem
    basisInvalidIf (b.nonRunRefs ≠ refs) "non_run_refs" "scope_fact_mismatch"

def postInit (b : Fields) : Result Unit := do
  let runSets ← uniqueByRunId "run_resolution_sets" (·.runId) b.runResolutionSets
  let bases ← uniqueByRunId "run_bases" (·.runId) b.runBases
  basisInvalidIf (¬ Keyed.SameElements (runSets.map (·.1)) (bases.map (·.1))) "run_bases"
    "run_set_mismatch"
  let derived ← deriveRuns postInitRules b.resolutionSet bases {} runSets
  basisInvalidIf (¬ Keyed.SameElements b.resolutionSet.runEntries derived.entries) "resolution_set"
    "run_sources_mismatch"
  let expected ← evaluateBatchOutcome b.resolutionSet.counts b.policy b.policy.suiteId
    b.evaluation.batchCancellationIntentDigest
  basisInvalidIf (b.evaluation ≠ expected) "evaluation" "result_mismatch"
  requireOrderedRefs "terminal_run_refs" (b.terminalRunRefs.map (·.runId))
  let terminalRefs ← collect b.runBases BatchTerminalRunRef.fromBasis
  basisInvalidIf (b.terminalRunRefs ≠ Sorting.sortOn (·.runId) terminalRefs) "terminal_run_refs"
    "basis_mismatch"
  requireOrderedRefs "non_run_refs" (b.nonRunRefs.map (·.itemKey))
  let runSetDigest ← canonicalMaterializedRunSetDigest b.resolutionSet.batchId
    (runSets.map (·.1))
  basisInvalidIf (b.resolutionSet.canonicalRunSetDigest ≠ runSetDigest) "canonical_run_set_digest"
    "actual_run_set_mismatch"
  basisInvalidIf (¬ Keyed.SameElements
    (b.nonRunRefs.map fun ref => (ref.itemKey, some ref.notExecutedFactDigest))
    (b.resolutionSet.notExecutedEntries.map fun e => (e.itemKey, e.notExecutedFactDigest)))
    "non_run_refs" "count_mismatch"
  b.requireScope
  basisInvalidIf ((b.unknownFactRefs.length : ℤ) ≠ b.resolutionSet.counts.unknownLineageCount)
    "unknown_fact_refs" "count_mismatch"
  requireOrderedRefs "unknown_fact_refs" (b.unknownFactRefs.map (·.itemKey))
  basisInvalidIf (b.unknownFactRefs ≠ Sorting.sortOn (·.itemKey) derived.unknownFactRefs)
    "unknown_fact_refs" "resolution_mismatch"

end BatchFinalizationBasis.Fields

/-- The basis of a finalized Batch: every item resolved, by a closed Run or by a scope fact. -/
structure BatchFinalizationBasis extends BatchFinalizationBasis.Fields where
  accepted : toFields.postInit = .ok ()
  deriving DecidableEq

namespace BatchFinalizationBasis

def new : Fields → Result BatchFinalizationBasis :=
  construct Fields.postInit BatchFinalizationBasis.mk

theorem new_eq_ok {f : Fields} {b : BatchFinalizationBasis} : new f = .ok b ↔ b.toFields = f := by
  simp only [new, construct_eq_ok]
  constructor
  · rintro ⟨_, rfl⟩
    rfl
  · rintro rfl
    exact ⟨b.accepted, rfl⟩

/-- Each canonical fact agrees with the entry of its item; the ones about items that never ran
yield the references. -/
def bindScope (entries : List BatchItemResolution) :
    List BatchCancellationScopeItem → Result (List BatchNonRunResolutionRef)
  | [] => .ok []
  | fact :: facts => do
    let entry ← need (entries.find? (·.itemKey = fact.manifestItemKey)) (.crash .keyError)
    match fact.resolutionKind with
    | .notExecuted => do
      let expected ← BatchItemResolution.fromNotExecuted fact
      basisInvalidIf (entry ≠ expected) "cancellation_scope_items" "not_executed_mismatch"
      let ref ← BatchNonRunResolutionRef.fromScopeItem fact
      let refs ← bindScope entries facts
      return ref :: refs
    | .runFanout => do
      basisInvalidIf (entry.sourceKind ≠ .runResolution ∨ entry.sourceRunId ≠ fact.runId ∨
        entry.sourceRunVersion ≠ fact.sourceRunVersion) "cancellation_scope_items"
        "run_fanout_mismatch"
      bindScope entries facts

def buildNonRunRefs (resolutionSet : BatchItemResolutionSet)
    (cancellationScopeItems : List BatchCancellationScopeItem) (intentDigest : Option Digest) :
    Result (List BatchNonRunResolutionRef) :=
  match intentDigest with
  | none => do
    basisInvalidIf (cancellationScopeItems ≠ []) "cancellation_scope_items" "unexpected"
    return []
  | some intentDigest => do
    let canonical ← canonicalizeBatchCancellationScopeItems
      (resolutionSet.scopeEnvelope intentDigest) resolutionSet.expectedItemKeys
      cancellationScopeItems
    bindScope resolutionSet.entries canonical

def build (resolutionSet : BatchItemResolutionSet) (runResolutionSets : List RunItemResolutionSet)
    (runBases : List RunFinalizationBasis)
    (cancellationScopeItems : List BatchCancellationScopeItem) (policy : BatchSuccessPolicy)
    (evaluation : BatchOutcomeEvaluation) : Result BatchFinalizationBasis := do
  basisInvalidIf (evaluation.counts ≠ resolutionSet.counts) "evaluation" "counts_mismatch"
  let policyDigest ← policy.policyDigest
  basisInvalidIf (evaluation.policyDigest ≠ policyDigest) "evaluation" "policy_mismatch"
  let expected ← evaluateBatchOutcome resolutionSet.counts policy policy.suiteId
    evaluation.batchCancellationIntentDigest
  basisInvalidIf (evaluation ≠ expected) "evaluation" "result_mismatch"
  let runSets ← uniqueByRunId "run_resolution_sets" (·.runId) runResolutionSets
  let bases ← uniqueByRunId "run_bases" (·.runId) runBases
  let runSetDigest ← canonicalMaterializedRunSetDigest resolutionSet.batchId (runSets.map (·.1))
  basisInvalidIf (resolutionSet.canonicalRunSetDigest ≠ runSetDigest) "canonical_run_set_digest"
    "actual_run_set_mismatch"
  basisInvalidIf (¬ Keyed.SameElements (runSets.map (·.1)) (bases.map (·.1))) "run_bases"
    "run_set_mismatch"
  let derived ← deriveRuns buildRules resolutionSet bases {} runSets
  basisInvalidIf (¬ Keyed.SameElements derived.entries resolutionSet.runEntries)
    "run_resolution_sets" "item_resolution_mismatch"
  let nonRunRefs ← buildNonRunRefs resolutionSet cancellationScopeItems
    evaluation.batchCancellationIntentDigest
  basisInvalidIf (nonRunRefs.length ≠ resolutionSet.notExecutedEntries.length)
    "cancellation_scope_items" "not_executed_coverage_mismatch"
  new {
    resolutionSet := resolutionSet
    runResolutionSets := runResolutionSets
    runBases := runBases
    cancellationScopeItems := cancellationScopeItems
    terminalRunRefs := Sorting.sortOn (·.runId) derived.terminalRunRefs
    nonRunRefs := Sorting.sortOn (·.itemKey) nonRunRefs
    unknownFactRefs := Sorting.sortOn (·.itemKey) derived.unknownFactRefs
    policy := policy
    evaluation := evaluation }

def counts (b : BatchFinalizationBasis) : BatchResolutionCounts := b.resolutionSet.counts

def batchOutcome (b : BatchFinalizationBasis) : BatchState := b.evaluation.outcome

def batchCancellationIntentDigest (b : BatchFinalizationBasis) : Option Digest :=
  b.evaluation.batchCancellationIntentDigest

/-- The entries with the unknown facts behind them. -/
def itemBinding (b : BatchFinalizationBasis) (entry : BatchItemResolution) : Result Json := do
  let unknown := b.unknownFactRefs.find? (·.itemKey = entry.itemKey)
  let digest ← entry.batchItemResolutionDigest
  return .dict (entry.payloadFields ++ ([("batch_item_resolution_digest", .str digest.value),
    ("unknown_lineage_digest", optionalDigestValue (unknown.map (·.unknownLineageDigest))),
    ("adjudication_digest", optionalDigestValue (unknown.map (·.adjudicationDigest)))] :
      Json.Members))

def completenessProofDigest (b : BatchFinalizationBasis) : Result Digest := do
  let bindings ← collect b.resolutionSet.entries b.itemBinding
  let setDigest ← b.resolutionSet.resolutionSetDigest
  canonicalDigest "qep.batch-completeness-proof.v1"
    (.dict [("batch_id", .str b.resolutionSet.batchId),
      ("source_batch_version", .int b.resolutionSet.sourceBatchVersion),
      ("manifest_id", .str b.resolutionSet.manifestId),
      ("manifest_digest", .str b.resolutionSet.manifestDigest.value),
      ("item_count", .int b.counts.originalDenominator),
      ("shard_plan_id", .str b.resolutionSet.shardPlanId),
      ("shard_plan_version", .int b.resolutionSet.shardPlanVersion),
      ("shard_plan_digest", .str b.resolutionSet.shardPlanDigest.value),
      ("canonical_run_set_digest", .str b.resolutionSet.canonicalRunSetDigest.value),
      ("batch_item_resolution_set_digest", .str setDigest.value),
      ("item_bindings", .list bindings),
      ("terminal_run_refs", .list (b.terminalRunRefs.map (·.canonicalPayload)))])

/-- The scope items are bound only through the references to items that never ran. -/
def canonicalPayload (b : BatchFinalizationBasis) : Result Json := do
  let policyDigest ← b.policy.policyDigest
  let setDigest ← b.resolutionSet.resolutionSetDigest
  let proofDigest ← b.completenessProofDigest
  return .dict [("batch_id", .str b.resolutionSet.batchId),
    ("source_batch_version", .int b.resolutionSet.sourceBatchVersion),
    ("manifest_id", .str b.resolutionSet.manifestId),
    ("manifest_digest", .str b.resolutionSet.manifestDigest.value),
    ("item_count", .int b.counts.originalDenominator),
    ("shard_plan_id", .str b.resolutionSet.shardPlanId),
    ("shard_plan_version", .int b.resolutionSet.shardPlanVersion),
    ("shard_plan_digest", .str b.resolutionSet.shardPlanDigest.value),
    ("canonical_run_set_digest", .str b.resolutionSet.canonicalRunSetDigest.value),
    ("terminal_run_refs", .list (b.terminalRunRefs.map (·.canonicalPayload))),
    ("non_run_refs", .list (b.nonRunRefs.map (·.canonicalPayload))),
    ("success_policy_id", .str b.policy.policyId),
    ("success_policy_version", .int b.policy.policyVersion),
    ("success_policy_digest", .str policyDigest.value),
    ("batch_item_resolution_schema", .str "qep.batch-item-resolution-set.v1"),
    ("batch_item_resolution_set_digest", .str setDigest.value),
    ("original_denominator", .int b.counts.originalDenominator),
    ("passed_count", .int b.counts.passedCount),
    ("test_failed_count", .int b.counts.testFailedCount),
    ("infra_failed_count", .int b.counts.infraFailedCount),
    ("cancelled_count", .int b.counts.cancelledCount),
    ("unknown_lineage_count", .int b.counts.unknownLineageCount),
    ("not_executed_count", .int b.counts.notExecutedCount),
    ("completeness_proof_digest", .str proofDigest.value),
    ("batch_cancellation_intent_digest", optionalDigestValue b.batchCancellationIntentDigest),
    ("unknown_fact_refs", .list (b.unknownFactRefs.map (·.canonicalPayload))),
    ("batch_outcome", .str b.batchOutcome.value)]

def basisDigest (b : BatchFinalizationBasis) : Result Digest := do
  let payload ← b.canonicalPayload
  canonicalDigest "qep.batch-finalization-basis.v1" payload

end BatchFinalizationBasis
end QaRunner
