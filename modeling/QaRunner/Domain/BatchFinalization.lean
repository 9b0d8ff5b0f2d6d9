import QaRunner.Domain.BatchClosure
import QaRunner.Domain.RunFinalizationBasis

/-! Batch-level resolution of every manifest item, the success policy, and the terminal truth
table that turns resolution counts into an outcome. -/
namespace QaRunner
open Guarded

inductive BatchItemSourceKind where
  | runResolution
  | notExecuted
  deriving DecidableEq, Repr

def BatchItemSourceKind.value : BatchItemSourceKind → String
  | .runResolution => "run_resolution"
  | .notExecuted => "not_executed"

theorem BatchItemSourceKind.value_inj {k l : BatchItemSourceKind} : k.value = l.value ↔ k = l := by
  cases k <;> cases l <;> decide

inductive BatchItemClassification where
  | passed
  | testFailed
  | infraFailed
  | cancelled
  | unknownLineage
  | notExecuted
  deriving DecidableEq, Repr

def BatchItemClassification.value : BatchItemClassification → String
  | .passed => "passed"
  | .testFailed => "test_failed"
  | .infraFailed => "infra_failed"
  | .cancelled => "cancelled"
  | .unknownLineage => "unknown_lineage"
  | .notExecuted => "not_executed"

/-- The Batch classification with the same name as the aggregation class. -/
def ItemAggregationClass.classification : ItemAggregationClass → BatchItemClassification
  | .passed => .passed
  | .testFailed => .testFailed
  | .infraFailed => .infraFailed
  | .cancelled => .cancelled
  | .unknownLineage => .unknownLineage

structure BatchTerminalRunRef.Fields where
  runId : Str
  sourceRunVersion : ℤ
  runBasisDigest : Digest
  runOutcome : RunOutcome
  runItemSetDigest : Digest
  originalResolutionSetDigest : Digest
  effectiveResolutionSetDigest : Digest
  itemResolutionSetDigest : Digest
  deriving DecidableEq

def BatchTerminalRunRef.Fields.postInit (r : BatchTerminalRunRef.Fields) : Result Unit := do
  requireString "batch_terminal_run_ref" "run_id" r.runId
  requireNonnegativeInt "batch_terminal_run_ref" "source_run_version" r.sourceRunVersion

/-- Which closed Run, at which version, a Batch counts. -/
structure BatchTerminalRunRef extends BatchTerminalRunRef.Fields where
  accepted : toFields.postInit = .ok ()
  deriving DecidableEq

namespace BatchTerminalRunRef

def new : Fields → Result BatchTerminalRunRef := construct Fields.postInit BatchTerminalRunRef.mk

def fromBasis (basis : RunFinalizationBasis) : Result BatchTerminalRunRef := do
  let digest ← basis.basisDigest
  new {
    runId := basis.runId
    sourceRunVersion := basis.sourceRunVersion
    runBasisDigest := digest
    runOutcome := basis.outcome
    runItemSetDigest := basis.runItemSetDigest
    originalResolutionSetDigest := basis.originalResolutionSetDigest
    effectiveResolutionSetDigest := basis.effectiveResolutionSetDigest
    itemResolutionSetDigest := basis.itemResolutionSetDigest }

def canonicalPayload (r : BatchTerminalRunRef) : Json :=
  .dict [("run_id", .str r.runId), ("source_run_version", .int r.sourceRunVersion),
    ("run_basis_digest", .str r.runBasisDigest.value), ("run_outcome", .str r.runOutcome.value),
    ("run_item_set_digest", .str r.runItemSetDigest.value),
    ("original_resolution_set_digest", .str r.originalResolutionSetDigest.value),
    ("effective_resolution_set_digest", .str r.effectiveResolutionSetDigest.value),
    ("item_resolution_set_digest", .str r.itemResolutionSetDigest.value)]

end BatchTerminalRunRef

structure BatchNonRunResolutionRef.Fields where
  itemKey : RunItemKey
  notExecutedFactSchema : Str
  notExecutedFactDigest : Digest
  deriving DecidableEq

def BatchNonRunResolutionRef.Fields.postInit (r : BatchNonRunResolutionRef.Fields) :
    Result Unit :=
  invalidIf (r.notExecutedFactSchema ≠ "qep.batch-cancellation-scope-item.v1")
    "batch_non_run_resolution_ref" "not_executed_fact_schema" "unknown"

/-- The scope fact that accounts for an item no Run executed. -/
structure BatchNonRunResolutionRef extends BatchNonRunResolutionRef.Fields where
  accepted : toFields.postInit = .ok ()
  deriving DecidableEq

namespace BatchNonRunResolutionRef

def new : Fields → Result BatchNonRunResolutionRef :=
  construct Fields.postInit BatchNonRunResolutionRef.mk

def fromScopeItem (fact : BatchCancellationScopeItem) : Result BatchNonRunResolutionRef := do
  invalidIf (fact.resolutionKind ≠ .notExecuted) "batch_non_run_resolution_ref" "fact"
    "not_not_executed"
  let digest ← fact.scopeItemDigest
  new {
    itemKey := fact.manifestItemKey
    notExecutedFactSchema := "qep.batch-cancellation-scope-item.v1"
    notExecutedFactDigest := digest }

def canonicalPayload (r : BatchNonRunResolutionRef) : Json :=
  .dict [("item_key", r.itemKey.canonicalPayload),
    ("not_executed_fact_schema", .str r.notExecutedFactSchema),
    ("not_executed_fact_digest", .str r.notExecutedFactDigest.value)]

end BatchNonRunResolutionRef

/-- The adjudicated unknown lineage behind an item. -/
structure BatchUnknownFactRef where
  itemKey : RunItemKey
  sourceItemResolutionDigest : Digest
  unknownLineageDigest : Digest
  adjudicationDigest : Digest
  deriving DecidableEq

namespace BatchUnknownFactRef

def fromResolution (resolution : RunItemResolution) : Result BatchUnknownFactRef := do
  let lineage ← need resolution.unknownLineageDigest
    (.domainValidation "batch_unknown_fact_ref" "resolution" "not_unknown_lineage")
  let adjudication ← need resolution.effective.adjudicationDigest
    (.domainValidation "batch_unknown_fact_ref" "resolution" "not_unknown_lineage")
  let digest ← resolution.itemResolutionDigest
  return {
    itemKey := resolution.itemKey
    sourceItemResolutionDigest := digest
    unknownLineageDigest := lineage
    adjudicationDigest := adjudication }

def canonicalPayload (r : BatchUnknownFactRef) : Json :=
  .dict [("item_key", r.itemKey.canonicalPayload),
    ("source_item_resolution_digest", .str r.sourceItemResolutionDigest.value),
    ("unknown_lineage_digest", .str r.unknownLineageDigest.value),
    ("adjudication_digest", .str r.adjudicationDigest.value)]

end BatchUnknownFactRef

structure BatchItemResolution.Fields where
  itemKey : RunItemKey
  sourceKind : BatchItemSourceKind
  sourceRunId : Option Str
  sourceRunVersion : Option ℤ
  sourceRunBasisDigest : Option Digest
  sourceRunItemResolutionSetDigest : Option Digest
  sourceItemResolutionDigest : Option Digest
  notExecutedFactSchema : Option Str
  notExecutedFactDigest : Option Digest
  cancellationScopeItemDigest : Option Digest
  classification : BatchItemClassification
  deriving DecidableEq

namespace BatchItemResolution.Fields

def validateRunSource (r : Fields) : Result Unit := do
  invalidIf (r.sourceRunId.all isBlank) "batch_item_resolution" "source_run_id" "required"
  requireSomeNonnegativeInt "batch_item_resolution" "source_run_version" r.sourceRunVersion
  invalidIf (r.sourceRunBasisDigest.isNone ∨ r.sourceRunItemResolutionSetDigest.isNone ∨
    r.sourceItemResolutionDigest.isNone) "batch_item_resolution" "run_resolution_source" "invalid"
  invalidIf (r.notExecutedFactSchema.isSome ∨ r.notExecutedFactDigest.isSome ∨
    r.cancellationScopeItemDigest.isSome) "batch_item_resolution" "not_executed_source"
    "must_be_null"
  invalidIf (r.classification = .notExecuted) "batch_item_resolution" "classification"
    "source_mismatch"

def validateNotExecutedSource (r : Fields) : Result Unit := do
  invalidIf (r.sourceRunId.isSome ∨ r.sourceRunVersion.isSome ∨ r.sourceRunBasisDigest.isSome ∨
    r.sourceRunItemResolutionSetDigest.isSome ∨ r.sourceItemResolutionDigest.isSome)
    "batch_item_resolution" "run_resolution_source" "must_be_null"
  invalidIf (r.notExecutedFactSchema.all isBlank ∨ r.notExecutedFactDigest.isNone ∨
    r.cancellationScopeItemDigest.isNone) "batch_item_resolution" "not_executed_source" "invalid"
  invalidIf (r.notExecutedFactSchema ≠ some (.text "qep.batch-cancellation-scope-item.v1"))
    "batch_item_resolution" "not_executed_fact_schema" "unknown"
  invalidIf (r.notExecutedFactDigest ≠ r.cancellationScopeItemDigest) "batch_item_resolution"
    "not_executed_source" "digest_mismatch"
  invalidIf (r.classification ≠ .notExecuted) "batch_item_resolution" "classification"
    "source_mismatch"

def postInit (r : Fields) : Result Unit :=
  match r.sourceKind with
  | .runResolution => r.validateRunSource
  | .notExecuted => r.validateNotExecutedSource

end BatchItemResolution.Fields

/-- How one manifest item ended: in a closed Run, or not executed at all. -/
structure BatchItemResolution extends BatchItemResolution.Fields where
  accepted : toFields.postInit = .ok ()
  deriving DecidableEq

namespace BatchItemResolution

def new : Fields → Result BatchItemResolution := construct Fields.postInit BatchItemResolution.mk

def fromNotExecuted (fact : BatchCancellationScopeItem) : Result BatchItemResolution := do
  invalidIf (fact.resolutionKind ≠ .notExecuted) "batch_item_resolution" "fact" "not_not_executed"
  let digest ← fact.scopeItemDigest
  new {
    itemKey := fact.manifestItemKey
    sourceKind := .notExecuted
    sourceRunId := none
    sourceRunVersion := none
    sourceRunBasisDigest := none
    sourceRunItemResolutionSetDigest := none
    sourceItemResolutionDigest := none
    notExecutedFactSchema := some "qep.batch-cancellation-scope-item.v1"
    notExecutedFactDigest := some digest
    cancellationScopeItemDigest := some digest
    classification := .notExecuted }

def mismatchIf (c : Prop) [Decidable c] : Result Unit :=
  invalidIf c "batch_item_resolution" "resolution_set" "basis_mismatch"

/-- The basis closes exactly this resolution set. -/
def requireBasisOf (basis : RunFinalizationBasis) (resolutionSet : RunItemResolutionSet) :
    Result Unit := do
  mismatchIf (basis.batchId ≠ resolutionSet.batchId ∨ basis.runId ≠ resolutionSet.runId ∨
    basis.sourceRunVersion ≠ resolutionSet.sourceRunVersion ∨
    basis.manifestDigest ≠ resolutionSet.manifestDigest ∨
    basis.shardPlanDigest ≠ resolutionSet.shardPlanDigest ∨
    basis.runItemSetDigest ≠ resolutionSet.runItemSetDigest)
  let setDigest ← resolutionSet.resolutionSetDigest
  mismatchIf (basis.itemResolutionSetDigest ≠ setDigest)
  let originalDigest ← resolutionSet.originalResolutionSetDigest
  mismatchIf (basis.originalResolutionSetDigest ≠ originalDigest)
  let effectiveDigest ← resolutionSet.effectiveResolutionSetDigest
  mismatchIf (basis.effectiveResolutionSetDigest ≠ effectiveDigest)
  mismatchIf (basis.itemCount ≠ resolutionSet.itemCount ∨
    basis.outcome ≠ resolutionSet.auditOutcome ∨
    basis.attemptChainDigest ≠ (if basis.terminalInputKind = .prestartCancel then none
      else some resolutionSet.attemptChainDigest) ∨
    basis.retryChainDigest ≠ resolutionSet.retryChainDigest ∨
    basis.adjudicationChainDigest ≠ resolutionSet.adjudicationChainDigest)

/-- The entries of the set with the key and the digest of a resolution. -/
def matching (resolutionSet : RunItemResolutionSet) (resolution : RunItemResolution) :
    Result (List RunItemResolution) :=
  keepIf (resolutionSet.entries.filter (·.itemKey = resolution.itemKey)) fun entry => do
    let stored ← entry.itemResolutionDigest
    let digest ← resolution.itemResolutionDigest
    return decide (stored = digest)

def fromRunResolution (basis : RunFinalizationBasis) (resolutionSet : RunItemResolutionSet)
    (resolution : RunItemResolution) : Result BatchItemResolution := do
  requireBasisOf basis resolutionSet
  let found ← matching resolutionSet resolution
  invalidIf (found ≠ [resolution]) "batch_item_resolution" "resolution" "not_in_resolution_set"
  let basisDigest ← basis.basisDigest
  let setDigest ← resolutionSet.resolutionSetDigest
  let itemDigest ← resolution.itemResolutionDigest
  new {
    itemKey := resolution.itemKey
    sourceKind := .runResolution
    sourceRunId := some resolutionSet.runId
    sourceRunVersion := some resolutionSet.sourceRunVersion
    sourceRunBasisDigest := some basisDigest
    sourceRunItemResolutionSetDigest := some setDigest
    sourceItemResolutionDigest := some itemDigest
    notExecutedFactSchema := none
    notExecutedFactDigest := none
    cancellationScopeItemDigest := none
    classification := resolution.aggregationClass.classification }

theorem requireBasisOf_eq_ok {basis : RunFinalizationBasis} {set : RunItemResolutionSet}
    {u : Unit} :
    requireBasisOf basis set = .ok u ↔
      (basis.batchId = set.batchId ∧ basis.runId = set.runId ∧
        basis.sourceRunVersion = set.sourceRunVersion ∧
        basis.manifestDigest = set.manifestDigest ∧
        basis.shardPlanDigest = set.shardPlanDigest ∧
        basis.runItemSetDigest = set.runItemSetDigest) ∧
      set.resolutionSetDigest = .ok basis.itemResolutionSetDigest ∧
      set.originalResolutionSetDigest = .ok basis.originalResolutionSetDigest ∧
      set.effectiveResolutionSetDigest = .ok basis.effectiveResolutionSetDigest ∧
      basis.itemCount = set.itemCount ∧ basis.outcome = set.auditOutcome ∧
      basis.attemptChainDigest = (if basis.terminalInputKind = .prestartCancel then none
        else some set.attemptChainDigest) ∧
      basis.retryChainDigest = set.retryChainDigest ∧
      basis.adjudicationChainDigest = set.adjudicationChainDigest := by
  simp only [requireBasisOf, mismatchIf, bind_eq_ok, exists_unit, invalidIf_eq_ok, not_or, ne_eq,
    not_not]
  constructor
  · rintro ⟨henvelope, _, hs, rfl, _, ho, rfl, _, he, rfl, hrest⟩
    exact ⟨henvelope, hs, ho, he, hrest⟩
  · rintro ⟨henvelope, hs, ho, he, hrest⟩
    exact ⟨henvelope, _, hs, rfl, _, ho, rfl, _, he, rfl, hrest⟩

theorem matching_self {set : RunItemResolutionSet} {entry : RunItemResolution} {d : Digest}
    (hmem : entry ∈ set.entries) (hd : entry.itemResolutionDigest = .ok d) :
    matching set entry = .ok [entry] := by
  rw [matching, Keyed.filter_of_mem set.keys_nodup hmem]
  apply keepIf_singleton
  simp only [hd, ok_bind, decide_true]
  rfl

/-- Every entry of a set is consumed under a basis that closes the set. -/
theorem fromRunResolution_of_basis {basis : RunFinalizationBasis} {set : RunItemResolutionSet}
    {entry : RunItemResolution} {digest : Digest} (hmem : entry ∈ set.entries)
    (hof : requireBasisOf basis set = .ok ()) (hdigest : basis.basisDigest = .ok digest) :
    ∃ resolved, fromRunResolution basis set entry = .ok resolved := by
  have hs := (requireBasisOf_eq_ok.mp hof).2.1
  obtain ⟨d, hd⟩ := RunItemResolutionSet.itemDigest_of_mem hs hmem
  have haccepted := set.accepted
  simp only [RunItemResolutionSet.Fields.postInit, then_eq_ok, requireString_eq_ok,
    requireNonnegativeInt_eq_ok] at haccepted
  obtain ⟨-, hid, hversion, -⟩ := haccepted
  simp only [fromRunResolution, hof, matching_self hmem hd, hdigest, hs, hd, ok_bind]
  refine ⟨_, bind_eq_ok.mpr ⟨(), invalidIf_eq_ok.mpr (by simp), construct_of_ok ?_⟩⟩
  simp only [Fields.postInit, Fields.validateRunSource, then_eq_ok, invalidIf_eq_ok,
    requireSomeNonnegativeInt_eq_ok]
  refine ⟨by simpa using hid, ⟨_, rfl, hversion⟩, by simp, by simp, ?_⟩
  cases entry.aggregationClass <;> simp [ItemAggregationClass.classification]

def payloadFields (r : BatchItemResolution) : Json.Members :=
  [("item_key", r.itemKey.canonicalPayload), ("source_kind", .str r.sourceKind.value),
    ("source_run_id", optionalString r.sourceRunId),
    ("source_run_version", optionalInt r.sourceRunVersion),
    ("source_run_basis_digest", optionalDigestValue r.sourceRunBasisDigest),
    ("source_run_item_resolution_set_digest",
      optionalDigestValue r.sourceRunItemResolutionSetDigest),
    ("source_item_resolution_digest", optionalDigestValue r.sourceItemResolutionDigest),
    ("not_executed_fact_schema", optionalString r.notExecutedFactSchema),
    ("not_executed_fact_digest", optionalDigestValue r.notExecutedFactDigest),
    ("cancellation_scope_item_digest", optionalDigestValue r.cancellationScopeItemDigest),
    ("classification", .str r.classification.value)]

def batchItemResolutionDigest (r : BatchItemResolution) : Result Digest :=
  canonicalDigest "qep.batch-item-resolution-set.v1"
    (.dict (("projection_kind", .str "item") :: r.payloadFields))

/-- What every item resolved by one Run repeats about it. -/
def runSource (r : BatchItemResolution) : Option ℤ × Option Digest × Option Digest :=
  (r.sourceRunVersion, r.sourceRunBasisDigest, r.sourceRunItemResolutionSetDigest)

end BatchItemResolution

structure BatchResolutionCounts.Fields where
  originalDenominator : ℤ
  passedCount : ℤ
  testFailedCount : ℤ
  infraFailedCount : ℤ
  cancelledCount : ℤ
  unknownLineageCount : ℤ
  notExecutedCount : ℤ
  deriving DecidableEq

def BatchResolutionCounts.Fields.postInit (c : BatchResolutionCounts.Fields) : Result Unit := do
  each [("original_denominator", c.originalDenominator), ("passed_count", c.passedCount),
    ("test_failed_count", c.testFailedCount), ("infra_failed_count", c.infraFailedCount),
    ("cancelled_count", c.cancelledCount), ("unknown_lineage_count", c.unknownLineageCount),
    ("not_executed_count", c.notExecutedCount)] fun f =>
    requireNonnegativeInt "batch_resolution_counts" f.1 f.2
  invalidIf (c.originalDenominator = 0) "batch_resolution_counts" "original_denominator" "empty"
  invalidIf (c.passedCount + c.testFailedCount + c.infraFailedCount + c.cancelledCount +
    c.unknownLineageCount + c.notExecutedCount ≠ c.originalDenominator) "batch_resolution_counts"
    "counts" "count_mismatch"

structure BatchResolutionCounts extends BatchResolutionCounts.Fields where
  accepted : toFields.postInit = .ok ()
  deriving DecidableEq

/-- Resolution counts of a list of items. -/
def BatchResolutionCounts.Fields.ofClassifications (cs : List BatchItemClassification) :
    BatchResolutionCounts.Fields where
  originalDenominator := cs.length
  passedCount := cs.count .passed
  testFailedCount := cs.count .testFailed
  infraFailedCount := cs.count .infraFailed
  cancelledCount := cs.count .cancelled
  unknownLineageCount := cs.count .unknownLineage
  notExecutedCount := cs.count .notExecuted

/-- Every item falls into exactly one class. -/
theorem BatchItemClassification.count_sum (cs : List BatchItemClassification) :
    cs.count .passed + cs.count .testFailed + cs.count .infraFailed + cs.count .cancelled +
      cs.count .unknownLineage + cs.count .notExecuted = cs.length := by
  induction cs with
  | nil => rfl
  | cons c cs ih =>
    simp only [List.count_cons, List.length_cons]
    cases c <;> simp <;> omega

theorem BatchResolutionCounts.Fields.ofClassifications_accepted
    {cs : List BatchItemClassification} (hne : cs ≠ []) :
    (ofClassifications cs).postInit = .ok () := by
  have hsum := BatchItemClassification.count_sum cs
  have hpos := List.length_pos_iff.mpr hne
  simp only [postInit, then_eq_ok, each_eq_ok, requireNonnegativeInt_eq_ok, invalidIf_eq_ok,
    List.forall_mem_cons, ne_eq, not_not]
  simp only [ofClassifications]
  refine ⟨⟨by omega, by omega, by omega, by omega, by omega, by omega, by omega, by simp⟩, ?_, ?_⟩
  · omega
  · omega

structure BatchItemResolutionSet.Fields where
  batchId : Str
  sourceBatchVersion : ℤ
  manifestId : Str
  manifestDigest : Digest
  shardPlanId : Str
  shardPlanVersion : ℤ
  shardPlanDigest : Digest
  canonicalRunSetDigest : Digest
  expectedItemKeys : List RunItemKey
  entries : List BatchItemResolution
  deriving DecidableEq

/-- What the entries seen so far say about each Run, and who owns each digest. -/
structure RunSources where
  sources : List (Option Str × Option ℤ × Option Digest × Option Digest) := []
  basisOwners : List (Option Digest × Option Str) := []
  resolutionSetOwners : List (Option Digest × Option Str) := []
  itemDigests : List (Option Digest) := []

namespace BatchItemResolutionSet.Fields

/-- Items of one Run agree on it, and no digest is claimed twice. -/
def validateRunSources (seen : RunSources) : List BatchItemResolution → Result Unit
  | [] => .ok ()
  | entry :: entries =>
    match entry.sourceKind with
    | .notExecuted => validateRunSources seen entries
    | .runResolution => do
      let (prior, sources) := Keyed.setdefault seen.sources entry.sourceRunId entry.runSource
      invalidIf (prior ≠ entry.runSource) "batch_item_resolution_set" "entries"
        "run_source_incoherent"
      let (basisOwner, basisOwners) :=
        Keyed.setdefault seen.basisOwners entry.sourceRunBasisDigest entry.sourceRunId
      let (resolutionSetOwner, resolutionSetOwners) :=
        Keyed.setdefault seen.resolutionSetOwners entry.sourceRunItemResolutionSetDigest
          entry.sourceRunId
      invalidIf (basisOwner ≠ entry.sourceRunId ∨ resolutionSetOwner ≠ entry.sourceRunId ∨
        entry.sourceItemResolutionDigest ∈ seen.itemDigests) "batch_item_resolution_set" "entries"
        "run_source_overlap"
      validateRunSources {
        sources := sources
        basisOwners := basisOwners
        resolutionSetOwners := resolutionSetOwners
        itemDigests := entry.sourceItemResolutionDigest :: seen.itemDigests } entries

def postInit (s : Fields) : Result Unit := do
  each [("batch_id", s.batchId), ("manifest_id", s.manifestId), ("shard_plan_id", s.shardPlanId)]
    fun f => requireString "batch_item_resolution_set" f.1 f.2
  requireNonnegativeInt "batch_item_resolution_set" "source_batch_version" s.sourceBatchVersion
  requireNonnegativeInt "batch_item_resolution_set" "shard_plan_version" s.shardPlanVersion
  invalidIf (s.entries = []) "batch_item_resolution_set" "entries" "invalid"
  invalidIf (s.expectedItemKeys = []) "batch_item_resolution_set" "expected_item_keys" "invalid"
  invalidIf (¬ s.expectedItemKeys.Nodup) "batch_item_resolution_set" "expected_item_keys"
    "duplicate_key"
  invalidIf (s.expectedItemKeys ≠ Sorting.sortOn id s.expectedItemKeys) "batch_item_resolution_set"
    "expected_item_keys" "not_ordered"
  invalidIf (∃ key ∈ s.expectedItemKeys, key.manifestId ≠ s.manifestId) "batch_item_resolution_set"
    "expected_item_keys" "manifest_mismatch"
  let keys := s.entries.map (·.itemKey)
  invalidIf (∃ key ∈ keys, key.manifestId ≠ s.manifestId) "batch_item_resolution_set" "entries"
    "manifest_mismatch"
  invalidIf (¬ keys.Nodup) "batch_item_resolution_set" "entries" "duplicate_or_overlapping_key"
  invalidIf (keys ≠ Sorting.sortOn id keys) "batch_item_resolution_set" "entries" "not_ordered"
  invalidIf (keys ≠ s.expectedItemKeys) "batch_item_resolution_set" "entries"
    "manifest_coverage_mismatch"
  validateRunSources {} s.entries

end BatchItemResolutionSet.Fields

/-- The resolution of every item of the frozen manifest, in key order. -/
structure BatchItemResolutionSet extends BatchItemResolutionSet.Fields where
  accepted : toFields.postInit = .ok ()
  deriving DecidableEq

namespace BatchItemResolutionSet

def new : Fields → Result BatchItemResolutionSet :=
  construct Fields.postInit BatchItemResolutionSet.mk

/-- Order the entries of a Batch, which must cover the expected items exactly. -/
def build (values : Fields) : Result BatchItemResolutionSet := do
  invalidIf (values.expectedItemKeys = []) "batch_item_resolution_set" "expected_item_keys"
    "invalid"
  invalidIf (¬ values.expectedItemKeys.Nodup) "batch_item_resolution_set" "expected_item_keys"
    "duplicate_key"
  let keys := values.entries.map (·.itemKey)
  invalidIf (¬ keys.Nodup) "batch_item_resolution_set" "entries" "duplicate_or_overlapping_key"
  invalidIf (¬ Keyed.SameElements keys values.expectedItemKeys) "batch_item_resolution_set"
    "entries" "manifest_coverage_mismatch"
  new { values with
    expectedItemKeys := Sorting.sortOn id values.expectedItemKeys
    entries := Sorting.sortOn (·.itemKey) values.entries }

variable {s : BatchItemResolutionSet}

theorem entries_ne_nil : s.entries ≠ [] := by
  have h := s.accepted
  simp only [Fields.postInit, then_eq_ok, invalidIf_eq_ok] at h
  exact h.2.2.2.1

theorem keys_eq : s.entries.map (·.itemKey) = s.expectedItemKeys := by
  have h := s.accepted
  simp only [Fields.postInit, then_eq_ok, invalidIf_eq_ok, not_not, ne_eq] at h
  exact h.2.2.2.2.2.2.2.2.2.2.2.1

theorem keys_nodup : (s.entries.map (·.itemKey)).Nodup := by
  have h := s.accepted
  simp only [Fields.postInit, then_eq_ok, invalidIf_eq_ok, not_not, ne_eq] at h
  exact h.2.2.2.2.2.2.2.2.2.1

theorem keys_ordered (s : BatchItemResolutionSet) :
    s.expectedItemKeys = Sorting.sortOn id s.expectedItemKeys := by
  have h := s.accepted
  simp only [Fields.postInit, then_eq_ok, invalidIf_eq_ok, not_not, ne_eq] at h
  exact h.2.2.2.2.2.2.1

def classifications (s : BatchItemResolutionSet) : List BatchItemClassification :=
  s.entries.map (·.classification)

theorem classifications_ne_nil : s.classifications ≠ [] :=
  fun h => entries_ne_nil (List.map_eq_nil_iff.mp h)

/-- The counts of an accepted set are always accepted. -/
def counts (s : BatchItemResolutionSet) : BatchResolutionCounts where
  toFields := .ofClassifications s.classifications
  accepted := BatchResolutionCounts.Fields.ofClassifications_accepted classifications_ne_nil

def entryPayload (r : BatchItemResolution) : Result Json := do
  let digest ← r.batchItemResolutionDigest
  return .dict (r.payloadFields ++
    ([("batch_item_resolution_digest", .str digest.value)] : Json.Members))

def canonicalPayload (s : BatchItemResolutionSet) : Result Json := do
  let entries ← collect s.entries entryPayload
  return .dict [("batch_id", .str s.batchId), ("source_batch_version", .int s.sourceBatchVersion),
    ("manifest_id", .str s.manifestId), ("manifest_digest", .str s.manifestDigest.value),
    ("shard_plan_id", .str s.shardPlanId), ("shard_plan_version", .int s.shardPlanVersion),
    ("shard_plan_digest", .str s.shardPlanDigest.value),
    ("canonical_run_set_digest", .str s.canonicalRunSetDigest.value), ("entries", .list entries),
    ("item_count", .int s.counts.originalDenominator),
    ("passed_count", .int s.counts.passedCount),
    ("test_failed_count", .int s.counts.testFailedCount),
    ("infra_failed_count", .int s.counts.infraFailedCount),
    ("cancelled_count", .int s.counts.cancelledCount),
    ("unknown_lineage_count", .int s.counts.unknownLineageCount),
    ("not_executed_count", .int s.counts.notExecutedCount)]

def resolutionSetDigest (s : BatchItemResolutionSet) : Result Digest := do
  let payload ← s.canonicalPayload
  canonicalDigest "qep.batch-item-resolution-set.v1" payload

end BatchItemResolutionSet

structure BatchSuccessPolicy.Fields where
  schemaVersion : Str
  policyId : Str
  policyVersion : ℤ
  suiteId : Str
  maxTestFailedItems : ℤ
  allowAuthorizedRetryPass : Bool
  allowedTestFailureSelectorDigest : Option Digest
  resultMappingSchema : Str
  resultMappingVersion : ℤ
  resultMappingDigest : Digest
  approvalRecordDigest : Digest
  deriving DecidableEq

def BatchSuccessPolicy.Fields.postInit (p : BatchSuccessPolicy.Fields) : Result Unit := do
  invalidIf (p.schemaVersion ≠ "qep.batch-success-policy.v1") "batch_success_policy"
    "schema_version" "unknown"
  each [("policy_id", p.policyId), ("suite_id", p.suiteId),
    ("result_mapping_schema", p.resultMappingSchema)] fun f =>
    requireString "batch_success_policy" f.1 f.2
  requirePositiveInt "batch_success_policy" "policy_version" p.policyVersion
  requireNonnegativeInt "batch_success_policy" "max_test_failed_items" p.maxTestFailedItems
  requirePositiveInt "batch_success_policy" "result_mapping_version" p.resultMappingVersion

/-- How many failed items a Batch tolerates. -/
structure BatchSuccessPolicy extends BatchSuccessPolicy.Fields where
  accepted : toFields.postInit = .ok ()
  deriving DecidableEq

def BatchSuccessPolicy.policyDigest (p : BatchSuccessPolicy) : Result Digest :=
  canonicalDigest p.schemaVersion
    (.dict [("policy_id", .str p.policyId), ("policy_version", .int p.policyVersion),
      ("suite_id", .str p.suiteId), ("max_test_failed_items", .int p.maxTestFailedItems),
      ("allow_authorized_retry_pass", .bool p.allowAuthorizedRetryPass),
      ("allowed_test_failure_selector_digest",
        optionalDigestValue p.allowedTestFailureSelectorDigest),
      ("result_mapping_schema", .str p.resultMappingSchema),
      ("result_mapping_version", .int p.resultMappingVersion),
      ("result_mapping_digest", .str p.resultMappingDigest.value),
      ("approval_record_digest", .str p.approvalRecordDigest.value)])

/-- The terminals an execution can end in. -/
def BatchState.executionTerminal : BatchState → Bool
  | succeeded | failed | partialOutcome | cancelled => true
  | _ => false

structure BatchOutcomeEvaluation.Fields where
  outcome : BatchState
  counts : BatchResolutionCounts
  policyDigest : Digest
  suiteId : Str
  batchCancellationIntentDigest : Option Digest
  deriving DecidableEq

def BatchOutcomeEvaluation.Fields.postInit (e : BatchOutcomeEvaluation.Fields) : Result Unit := do
  invalidIf (e.outcome.executionTerminal = false) "batch_outcome_evaluation" "outcome" "invalid"
  requireString "batch_outcome_evaluation" "suite_id" e.suiteId

/-- The outcome of a Batch, with the counts and the policy it was computed from. -/
structure BatchOutcomeEvaluation extends BatchOutcomeEvaluation.Fields where
  accepted : toFields.postInit = .ok ()
  deriving DecidableEq

def BatchOutcomeEvaluation.new : BatchOutcomeEvaluation.Fields → Result BatchOutcomeEvaluation :=
  construct BatchOutcomeEvaluation.Fields.postInit BatchOutcomeEvaluation.mk

namespace BatchResolutionCounts.Fields

/-- Items that end in a cancellation, in a Run or before one. -/
def cancelScoped (c : Fields) : ℤ := c.cancelledCount + c.notExecutedCount

/-- The terminal truth table; its rows overlap, so their order decides. -/
def outcome (c : Fields) (maxTestFailedItems : ℤ) : BatchState :=
  if c.cancelScoped = c.originalDenominator ∧ c.passedCount + c.testFailedCount +
      c.infraFailedCount + c.unknownLineageCount = 0 then .cancelled
  else if 0 < c.cancelScoped + c.unknownLineageCount then .partialOutcome
  else if 0 < c.infraFailedCount ∨ maxTestFailedItems < c.testFailedCount then .failed
  else .succeeded

end BatchResolutionCounts.Fields

def evaluateBatchOutcome (counts : BatchResolutionCounts) (policy : BatchSuccessPolicy)
    (suiteId : Str) (batchCancellationIntentDigest : Option Digest) :
    Result BatchOutcomeEvaluation := do
  requireString "batch_outcome_evaluation" "suite_id" suiteId
  invalidIf (suiteId ≠ policy.suiteId) "batch_outcome_evaluation" "suite_id" "policy_mismatch"
  invalidIf (policy.allowAuthorizedRetryPass = true ∨
    policy.allowedTestFailureSelectorDigest.isSome) "batch_outcome_evaluation" "policy"
    "unsupported_in_h1"
  invalidIf (counts.cancelScoped ≠ 0 ∧ batchCancellationIntentDigest.isNone)
    "batch_outcome_evaluation" "cancellation_intent" "required"
  let policyDigest ← policy.policyDigest
  BatchOutcomeEvaluation.new {
    outcome := counts.outcome policy.maxTestFailedItems
    counts := counts
    policyDigest := policyDigest
    suiteId := suiteId
    batchCancellationIntentDigest := batchCancellationIntentDigest }

end QaRunner
