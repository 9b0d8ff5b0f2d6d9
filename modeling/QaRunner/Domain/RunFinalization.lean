import QaRunner.Domain.Unknown
import QaRunner.Lib.Keyed
import Mathlib.Data.Prod.Lex

/-! Run phase, disposition and outcome values, and the per-item resolutions of a closed Run. -/
namespace QaRunner
open Guarded

inductive RunDisposition where
  | reviewRequired
  | retryQueued
  | closedNoRetry
  deriving DecidableEq, Repr

def RunDisposition.value : RunDisposition → String
  | .reviewRequired => "review_required"
  | .retryQueued => "retry_queued"
  | .closedNoRetry => "closed_no_retry"

/-- Persisted policy outcome available only for a closed Run. -/
inductive RunOutcome where
  | passed
  | testFailed
  | infraFailed
  | cancelled
  deriving DecidableEq, Repr

def RunOutcome.value : RunOutcome → String
  | .passed => "passed"
  | .testFailed => "test_failed"
  | .infraFailed => "infra_failed"
  | .cancelled => "cancelled"

inductive OriginalSourceKind where
  | attemptResult
  | attemptTerminalFallback
  | prestartCancel
  deriving DecidableEq, Repr

def OriginalSourceKind.value : OriginalSourceKind → String
  | .attemptResult => "attempt_result"
  | .attemptTerminalFallback => "attempt_terminal_fallback"
  | .prestartCancel => "prestart_cancel"

inductive EffectiveSourceKind where
  | original
  | authorizedRetry
  | unknownAdjudication
  deriving DecidableEq, Repr

def EffectiveSourceKind.value : EffectiveSourceKind → String
  | .original => "original"
  | .authorizedRetry => "authorized_retry"
  | .unknownAdjudication => "unknown_adjudication"

inductive AttemptExecutionFact where
  | passed
  | testFailed
  | infraFailed
  | cancelled
  | attemptUnknown
  deriving DecidableEq, Repr

def AttemptExecutionFact.value : AttemptExecutionFact → String
  | .passed => "passed"
  | .testFailed => "test_failed"
  | .infraFailed => "infra_failed"
  | .cancelled => "cancelled"
  | .attemptUnknown => "attempt_unknown"

/-- The Run outcome with the same name; an unknown attempt has none. -/
def AttemptExecutionFact.outcome : AttemptExecutionFact → Option RunOutcome
  | .passed => some .passed
  | .testFailed => some .testFailed
  | .infraFailed => some .infraFailed
  | .cancelled => some .cancelled
  | .attemptUnknown => none

inductive ItemAggregationClass where
  | passed
  | testFailed
  | infraFailed
  | cancelled
  | unknownLineage
  deriving DecidableEq, Repr

def ItemAggregationClass.value : ItemAggregationClass → String
  | .passed => "passed"
  | .testFailed => "test_failed"
  | .infraFailed => "infra_failed"
  | .cancelled => "cancelled"
  | .unknownLineage => "unknown_lineage"

/-- The aggregation class with the same name as the outcome. -/
def RunOutcome.aggregationClass : RunOutcome → ItemAggregationClass
  | .passed => .passed
  | .testFailed => .testFailed
  | .infraFailed => .infraFailed
  | .cancelled => .cancelled

def requireString (entity field : String) (value : Str) : Result Unit :=
  invalidIf (isBlank value) entity field "invalid"

def requirePositiveInt (entity field : String) (value : ℤ) : Result Unit :=
  invalidIf (value < 1) entity field "invalid"

def requireNonnegativeInt (entity field : String) (value : ℤ) : Result Unit :=
  invalidIf (value < 0) entity field "invalid"

def requireSomeString (entity field : String) (value : Option Str) : Result Unit :=
  match value with
  | some s => requireString entity field s
  | none => invalidIf True entity field "invalid"

def requireSomePositiveInt (entity field : String) (value : Option ℤ) : Result Unit :=
  match value with
  | some n => requirePositiveInt entity field n
  | none => invalidIf True entity field "invalid"

def requireSomeNonnegativeInt (entity field : String) (value : Option ℤ) : Result Unit :=
  match value with
  | some n => requireNonnegativeInt entity field n
  | none => invalidIf True entity field "invalid"

def requireSomeDigest (entity field : String) (value : Option Digest) : Result Unit :=
  invalidIf value.isNone entity field "not_digest"

/-- Fields that must be absent, with whether each is present. -/
def forbidPresent (entity : String) (fields : List (String × Bool)) : Result Unit :=
  each fields fun f => invalidIf (f.2 = true) entity f.1 "forbidden"

theorem requireString_eq_ok {entity field : String} {value : Str} {u : Unit} :
    requireString entity field value = .ok u ↔ isBlank value = false := by
  simp [requireString, invalidIf_eq_ok]

theorem requirePositiveInt_eq_ok {entity field : String} {value : ℤ} {u : Unit} :
    requirePositiveInt entity field value = .ok u ↔ 1 ≤ value := by
  simp [requirePositiveInt, invalidIf_eq_ok]

theorem requireNonnegativeInt_eq_ok {entity field : String} {value : ℤ} {u : Unit} :
    requireNonnegativeInt entity field value = .ok u ↔ 0 ≤ value := by
  simp [requireNonnegativeInt, invalidIf_eq_ok]

theorem requireSomeString_eq_ok {entity field : String} {value : Option Str} {u : Unit} :
    requireSomeString entity field value = .ok u ↔ ∃ s, value = some s ∧ isBlank s = false := by
  cases value <;> simp [requireSomeString, invalidIf_eq_ok, requireString_eq_ok]

theorem requireSomePositiveInt_eq_ok {entity field : String} {value : Option ℤ} {u : Unit} :
    requireSomePositiveInt entity field value = .ok u ↔ ∃ n, value = some n ∧ 1 ≤ n := by
  cases value <;> simp [requireSomePositiveInt, invalidIf_eq_ok, requirePositiveInt_eq_ok]

theorem requireSomeNonnegativeInt_eq_ok {entity field : String} {value : Option ℤ} {u : Unit} :
    requireSomeNonnegativeInt entity field value = .ok u ↔ ∃ n, value = some n ∧ 0 ≤ n := by
  cases value <;> simp [requireSomeNonnegativeInt, invalidIf_eq_ok, requireNonnegativeInt_eq_ok]

theorem requireSomeDigest_eq_ok {entity field : String} {value : Option Digest} {u : Unit} :
    requireSomeDigest entity field value = .ok u ↔ value.isSome := by
  cases value <;> simp [requireSomeDigest, invalidIf_eq_ok]

theorem forbidPresent_eq_ok {entity : String} {fields : List (String × Bool)} {u : Unit} :
    forbidPresent entity fields = .ok u ↔ ∀ f ∈ fields, f.2 = false := by
  simp [forbidPresent, each_eq_ok, invalidIf_eq_ok]

structure RunItemKey.Fields where
  manifestId : Str
  itemIndex : ℤ
  deriving DecidableEq

def RunItemKey.Fields.postInit (k : RunItemKey.Fields) : Result Unit := do
  requireString "run_item_key" "manifest_id" k.manifestId
  invalidIf (k.itemIndex < 0) "run_item_key" "item_index" "invalid"

/-- One item of a frozen manifest, ordered by manifest and then by index. -/
structure RunItemKey extends RunItemKey.Fields where
  accepted : toFields.postInit = .ok ()

def RunItemKey.order (k : RunItemKey) : Str ×ₗ ℤ := toLex (k.manifestId, k.itemIndex)

theorem RunItemKey.order_injective : Function.Injective RunItemKey.order := by
  rintro ⟨⟨m, i⟩, _⟩ ⟨⟨n, j⟩, _⟩ h
  have hp := Prod.mk.inj (toLex.injective h)
  simp only at hp
  obtain ⟨rfl, rfl⟩ := hp
  rfl

instance : LinearOrder RunItemKey := LinearOrder.lift' RunItemKey.order RunItemKey.order_injective

def RunItemKey.canonicalPayload (k : RunItemKey) : Json :=
  .dict [("manifest_id", .str k.manifestId), ("item_index", .int k.itemIndex)]

/-- The attempt a resolution comes from and the fact it rests on. -/
structure ItemFact where
  attemptId : Option Str
  attemptNo : Option ℤ
  attemptFence : Option ℤ
  attemptItemSetDigest : Option Digest
  factSchema : Str
  factVersion : ℤ
  factDigest : Digest
  evidenceRootDigest : Option Digest
  resultMappingSchema : Option Str
  resultMappingVersion : Option ℤ
  resultMappingDigest : Option Digest
  deriving DecidableEq

def ItemFact.validateFactAndMapping (f : ItemFact) (entity : String) : Result Unit := do
  requireString entity "fact_schema" f.factSchema
  requirePositiveInt entity "fact_version" f.factVersion
  let present := [f.resultMappingSchema.isSome, f.resultMappingVersion.isSome,
    f.resultMappingDigest.isSome]
  invalidIf (present.any id ∧ ¬ present.all id) entity "result_mapping" "all_or_none"
  whenever (present.all id) do
    requireSomeString entity "result_mapping_schema" f.resultMappingSchema
    requireSomePositiveInt entity "result_mapping_version" f.resultMappingVersion
    requireSomeDigest entity "result_mapping_digest" f.resultMappingDigest

def ItemFact.requireAttemptIdentity (f : ItemFact) (entity : String) : Result Unit := do
  requireSomeString entity "attempt_id" f.attemptId
  requireSomePositiveInt entity "attempt_no" f.attemptNo
  requireSomePositiveInt entity "attempt_fence" f.attemptFence
  requireSomeDigest entity "attempt_item_set_digest" f.attemptItemSetDigest

def ItemFact.validateOptionalAttemptIdentity (f : ItemFact) (entity : String) : Result Unit := do
  let present := [f.attemptId.isSome, f.attemptNo.isSome, f.attemptFence.isSome,
    f.attemptItemSetDigest.isSome]
  invalidIf (present.any id ∧ ¬ present.all id) entity "attempt_identity" "all_or_none"
  whenever (present.all id) (f.requireAttemptIdentity entity)

/-- The shared part of a resolution payload, around its source kind and execution field. -/
def ItemFact.resolutionPayload (f : ItemFact) (sourceKind : String)
    (execution : String × String) : Json.Members :=
  [("source_kind", .str sourceKind), ("attempt_id", optionalString f.attemptId),
    ("attempt_no", optionalInt f.attemptNo), ("attempt_fence", optionalInt f.attemptFence),
    ("attempt_item_set_digest", optionalDigestValue f.attemptItemSetDigest),
    (execution.1, .str execution.2), ("fact_schema", .str f.factSchema),
    ("fact_version", .int f.factVersion), ("fact_digest", .str f.factDigest.value),
    ("evidence_root_digest", optionalDigestValue f.evidenceRootDigest),
    ("result_mapping_schema", optionalString f.resultMappingSchema),
    ("result_mapping_version", optionalInt f.resultMappingVersion),
    ("result_mapping_digest", optionalDigestValue f.resultMappingDigest)]

structure OriginalItemResolution.Fields extends ItemFact where
  sourceKind : OriginalSourceKind
  executionFact : AttemptExecutionFact
  prestartClosureDigest : Option Digest
  deriving DecidableEq

def OriginalItemResolution.Fields.validateSource (o : OriginalItemResolution.Fields)
    (entity : String) : Result Unit :=
  match o.sourceKind with
  | .prestartCancel => do
    invalidIf (o.executionFact ≠ .cancelled) entity "execution_fact" "prestart_requires_cancelled"
    forbidPresent entity [("attempt_id", o.attemptId.isSome), ("attempt_no", o.attemptNo.isSome),
      ("attempt_fence", o.attemptFence.isSome),
      ("attempt_item_set_digest", o.attemptItemSetDigest.isSome),
      ("evidence_root_digest", o.evidenceRootDigest.isSome),
      ("result_mapping_schema", o.resultMappingSchema.isSome),
      ("result_mapping_version", o.resultMappingVersion.isSome),
      ("result_mapping_digest", o.resultMappingDigest.isSome)]
    requireSomeDigest entity "prestart_closure_digest" o.prestartClosureDigest
  | .attemptResult => do
    o.requireAttemptIdentity entity
    invalidIf o.prestartClosureDigest.isSome entity "prestart_closure_digest" "forbidden"
    invalidIf (o.executionFact ≠ .passed ∧ o.executionFact ≠ .testFailed) entity "execution_fact"
      "invalid_for_attempt_result"
    requireSomeDigest entity "evidence_root_digest" o.evidenceRootDigest
  | .attemptTerminalFallback => do
    o.requireAttemptIdentity entity
    invalidIf o.prestartClosureDigest.isSome entity "prestart_closure_digest" "forbidden"
    invalidIf (o.executionFact ≠ .infraFailed ∧ o.executionFact ≠ .cancelled ∧
      o.executionFact ≠ .attemptUnknown) entity "execution_fact" "invalid_for_terminal_fallback"
    invalidIf o.resultMappingDigest.isSome entity "result_mapping" "forbidden_for_terminal_fallback"

def OriginalItemResolution.Fields.postInit (o : OriginalItemResolution.Fields) : Result Unit := do
  o.validateFactAndMapping "original_item_resolution"
  o.validateSource "original_item_resolution"

/-- What the first attempt established for one item. -/
structure OriginalItemResolution extends OriginalItemResolution.Fields where
  accepted : toFields.postInit = .ok ()
  deriving DecidableEq

def OriginalItemResolution.canonicalPayload (o : OriginalItemResolution) : Json :=
  .dict (o.resolutionPayload o.sourceKind.value ("execution_fact", o.executionFact.value) ++
    ([("prestart_closure_digest", optionalDigestValue o.prestartClosureDigest)] : Json.Members))

structure EffectiveItemResolution.Fields extends ItemFact where
  sourceKind : EffectiveSourceKind
  outcome : RunOutcome
  retryIntentDigest : Option Digest
  retryDecisionDigest : Option Digest
  retryAuthorityDigest : Option Digest
  adjudicationDigest : Option Digest
  adjudicationDecision : Option UnknownAdjudicationDecision := none
  deriving DecidableEq

def EffectiveItemResolution.Fields.retryFields (e : EffectiveItemResolution.Fields) :
    List (String × Option Digest) :=
  [("retry_intent_digest", e.retryIntentDigest), ("retry_decision_digest", e.retryDecisionDigest),
    ("retry_authority_digest", e.retryAuthorityDigest)]

/-- The closing decision an adjudicated resolution rests on. -/
def EffectiveItemResolution.Fields.validateAdjudication (e : EffectiveItemResolution.Fields)
    (entity : String) : Result Unit :=
  match e.adjudicationDecision with
  | some .markInfraFailedNoRetry => do
    invalidIf (e.outcome ≠ .infraFailed) entity "outcome" "infra_adjudication_requires_infra"
    forbidPresent entity [("evidence_root_digest", e.evidenceRootDigest.isSome),
      ("result_mapping_schema", e.resultMappingSchema.isSome),
      ("result_mapping_version", e.resultMappingVersion.isSome),
      ("result_mapping_digest", e.resultMappingDigest.isSome)]
  | some .markCompletedFromVerifiedEvidence =>
    requireSomeDigest entity "evidence_root_digest" e.evidenceRootDigest
  | _ => invalidIf True entity "adjudication_decision" "invalid_for_resolution"

def EffectiveItemResolution.Fields.validateSource (e : EffectiveItemResolution.Fields)
    (entity : String) : Result Unit :=
  match e.sourceKind with
  | .original => do
    e.validateOptionalAttemptIdentity entity
    forbidPresent entity ((e.retryFields.map fun f => (f.1, f.2.isSome)) ++
      [("adjudication_digest", e.adjudicationDigest.isSome),
        ("adjudication_decision", e.adjudicationDecision.isSome)])
  | .authorizedRetry => do
    e.requireAttemptIdentity entity
    each e.retryFields fun f => requireSomeDigest entity f.1 f.2
    invalidIf (¬ (e.adjudicationDigest.isNone ↔ e.adjudicationDecision.isNone)) entity
      "adjudication_digest" "decision_all_or_none"
    whenever e.adjudicationDigest.isSome
      (invalidIf (¬ ∃ d ∈ e.adjudicationDecision, d.permitsRetry = true) entity
        "adjudication_decision" "does_not_permit_retry")
  | .unknownAdjudication => do
    e.requireAttemptIdentity entity
    forbidPresent entity (e.retryFields.map fun f => (f.1, f.2.isSome))
    requireSomeDigest entity "adjudication_digest" e.adjudicationDigest
    e.validateAdjudication entity

def EffectiveItemResolution.Fields.postInit (e : EffectiveItemResolution.Fields) :
    Result Unit := do
  e.validateFactAndMapping "effective_item_resolution"
  e.validateSource "effective_item_resolution"

/-- What counts for one item after retries and adjudications. -/
structure EffectiveItemResolution extends EffectiveItemResolution.Fields where
  accepted : toFields.postInit = .ok ()
  deriving DecidableEq

/-- The adjudication decision is not part of the payload. -/
def EffectiveItemResolution.canonicalPayload (e : EffectiveItemResolution) : Json :=
  .dict (e.resolutionPayload e.sourceKind.value ("outcome", e.outcome.value) ++
    ([("retry_intent_digest", optionalDigestValue e.retryIntentDigest),
      ("retry_decision_digest", optionalDigestValue e.retryDecisionDigest),
      ("retry_authority_digest", optionalDigestValue e.retryAuthorityDigest),
      ("adjudication_digest", optionalDigestValue e.adjudicationDigest)] : Json.Members))

def effectiveMirrorsOriginal (original : OriginalItemResolution)
    (effective : EffectiveItemResolution) : Prop :=
  original.executionFact.outcome = some effective.outcome ∧
    effective.toItemFact = original.toItemFact

instance (original : OriginalItemResolution) (effective : EffectiveItemResolution) :
    Decidable (effectiveMirrorsOriginal original effective) :=
  inferInstanceAs (Decidable (_ ∧ _))

structure RunItemResolution.Fields where
  itemKey : RunItemKey
  original : OriginalItemResolution
  effective : EffectiveItemResolution
  unknownLineageDigest : Option Digest
  aggregationClass : ItemAggregationClass
  deriving DecidableEq

def RunItemResolution.Fields.validateLineage (r : RunItemResolution.Fields) (entity : String) :
    Result Unit :=
  match r.unknownLineageDigest with
  | none => do
    invalidIf (r.aggregationClass ≠ r.effective.outcome.aggregationClass) entity
      "aggregation_class" "does_not_match_outcome"
    invalidIf (r.original.executionFact = .attemptUnknown) entity "unknown_lineage_digest"
      "required_for_resolved_unknown"
  | some _ => do
    invalidIf r.effective.adjudicationDigest.isNone entity "unknown_lineage_digest"
      "requires_adjudication"
    invalidIf (r.aggregationClass ≠ .unknownLineage) entity "aggregation_class"
      "unknown_lineage_required"

def RunItemResolution.Fields.postInit (r : RunItemResolution.Fields) : Result Unit := do
  whenever (r.effective.sourceKind = .original) do
    invalidIf (r.original.executionFact = .attemptUnknown) "run_item_resolution" "effective"
      "unadjudicated_unknown"
    invalidIf (¬ effectiveMirrorsOriginal r.original r.effective) "run_item_resolution" "effective"
      "does_not_mirror_original"
  r.validateLineage "run_item_resolution"

/-- Original and effective resolution of one item, with its unknown lineage. -/
structure RunItemResolution extends RunItemResolution.Fields where
  accepted : toFields.postInit = .ok ()
  deriving DecidableEq

namespace RunItemResolution
variable (r : RunItemResolution)

theorem lineage_accepted : r.validateLineage "run_item_resolution" = .ok () := by
  have h := r.accepted
  simp only [Fields.postInit, then_eq_ok] at h
  exact h.2

/-- Only a lineage makes an item unknown, and a lineage always does. -/
theorem unknownLineage_iff :
    r.aggregationClass = .unknownLineage ↔ r.unknownLineageDigest.isSome := by
  have h := r.lineage_accepted
  unfold Fields.validateLineage at h
  split at h
  · next hnone =>
    simp only [then_eq_ok, invalidIf_eq_ok, ne_eq, not_not] at h
    rw [hnone, h.1]
    cases r.effective.outcome <;> simp [RunOutcome.aggregationClass]
  · next hsome =>
    simp only [then_eq_ok, invalidIf_eq_ok, ne_eq, not_not] at h
    simp [hsome, h.2]

/-- Whatever the effective outcome is, an unknown original leaves an unknown lineage. -/
theorem unknownLineage_of_original (hu : r.original.executionFact = .attemptUnknown) :
    r.aggregationClass = .unknownLineage := by
  rw [unknownLineage_iff]
  have h := r.lineage_accepted
  unfold Fields.validateLineage at h
  split at h
  · simp only [then_eq_ok, invalidIf_eq_ok] at h
    exact absurd hu h.2
  · next hsome => simp [hsome]

end RunItemResolution

def RunItemResolution.payloadFields (r : RunItemResolution) : Json.Members :=
  [("item_key", r.itemKey.canonicalPayload), ("original", r.original.canonicalPayload),
    ("effective", r.effective.canonicalPayload),
    ("unknown_lineage_digest", optionalDigestValue r.unknownLineageDigest),
    ("aggregation_class", .str r.aggregationClass.value)]

def RunItemResolution.itemResolutionDigest (r : RunItemResolution) : Result Digest :=
  canonicalDigest "qep.run-item-resolution-set.v1"
    (.dict (("projection_kind", .str "item") :: r.payloadFields))

structure RunItemResolutionSet.Fields where
  batchId : Str
  runId : Str
  sourceRunVersion : ℤ
  manifestDigest : Digest
  shardPlanDigest : Digest
  runItemSetDigest : Digest
  attemptChainDigest : Digest
  retryChainDigest : Option Digest
  adjudicationChainDigest : Option Digest
  entries : List RunItemResolution
  deriving DecidableEq

def RunItemResolutionSet.Fields.postInit (s : RunItemResolutionSet.Fields) : Result Unit := do
  requireString "run_item_resolution_set" "batch_id" s.batchId
  requireString "run_item_resolution_set" "run_id" s.runId
  requireNonnegativeInt "run_item_resolution_set" "source_run_version" s.sourceRunVersion
  invalidIf (s.entries = []) "run_item_resolution_set" "entries" "invalid"
  let keys := s.entries.map (·.itemKey)
  invalidIf (¬ keys.Nodup) "run_item_resolution_set" "entries" "duplicate_key"
  invalidIf (keys ≠ Sorting.sortOn id keys) "run_item_resolution_set" "entries" "not_ordered"

/-- Closed Run's canonical, complete, ordered per-item resolution basis. -/
structure RunItemResolutionSet extends RunItemResolutionSet.Fields where
  accepted : toFields.postInit = .ok ()
  deriving DecidableEq

namespace RunItemResolutionSet

def new : Fields → Result RunItemResolutionSet := construct Fields.postInit RunItemResolutionSet.mk

/-- Order the entries of a Run, which must cover the expected items exactly. -/
def build (expectedItemKeys : List RunItemKey) (values : Fields) :
    Result RunItemResolutionSet := do
  let keys := values.entries.map (·.itemKey)
  invalidIf (¬ keys.Nodup) "run_item_resolution_set" "entries" "duplicate_key"
  invalidIf (¬ Keyed.SameElements keys expectedItemKeys ∨ ¬ expectedItemKeys.Nodup)
    "run_item_resolution_set" "entries" "key_set_mismatch"
  new { values with entries := Sorting.sortOn (·.itemKey) values.entries }

def itemCount (s : RunItemResolutionSet) : ℤ := s.entries.length

def envelopePayload (s : RunItemResolutionSet) : Json.Members :=
  [("batch_id", .str s.batchId), ("run_id", .str s.runId),
    ("source_run_version", .int s.sourceRunVersion),
    ("manifest_digest", .str s.manifestDigest.value),
    ("shard_plan_digest", .str s.shardPlanDigest.value),
    ("run_item_set_digest", .str s.runItemSetDigest.value)]

def originalResolutionSetDigest (s : RunItemResolutionSet) : Result Digest :=
  canonicalDigest "qep.run-item-resolution-set.v1"
    (.dict (s.envelopePayload ++ ([("projection_kind", .str "original_set"),
      ("entries", .list (s.entries.map fun r => .dict [("item_key", r.itemKey.canonicalPayload),
        ("original", r.original.canonicalPayload)]))] : Json.Members)))

def effectiveResolutionSetDigest (s : RunItemResolutionSet) : Result Digest :=
  canonicalDigest "qep.run-item-resolution-set.v1"
    (.dict (s.envelopePayload ++ ([("projection_kind", .str "effective_set"),
      ("entries", .list (s.entries.map fun r => .dict [("item_key", r.itemKey.canonicalPayload),
        ("effective", r.effective.canonicalPayload)]))] : Json.Members)))

def entryPayload (r : RunItemResolution) : Result Json := do
  let digest ← r.itemResolutionDigest
  return .dict (r.payloadFields ++
    ([("item_resolution_digest", .str digest.value)] : Json.Members))

def canonicalPayload (s : RunItemResolutionSet) : Result Json := do
  let entries ← collect s.entries entryPayload
  let original ← s.originalResolutionSetDigest
  let effective ← s.effectiveResolutionSetDigest
  return .dict (s.envelopePayload ++
    ([("attempt_chain_digest", .str s.attemptChainDigest.value),
      ("retry_chain_digest", optionalDigestValue s.retryChainDigest),
      ("adjudication_chain_digest", optionalDigestValue s.adjudicationChainDigest),
      ("entries", .list entries), ("item_count", .int s.itemCount),
      ("original_resolution_set_digest", .str original.value),
      ("effective_resolution_set_digest", .str effective.value)] : Json.Members))

def resolutionSetDigest (s : RunItemResolutionSet) : Result Digest := do
  let payload ← s.canonicalPayload
  canonicalDigest "qep.run-item-resolution-set.v1" payload

theorem entries_ne_nil (s : RunItemResolutionSet) : s.entries ≠ [] := by
  have h := s.accepted
  simp only [Fields.postInit, then_eq_ok, invalidIf_eq_ok] at h
  exact h.2.2.2.1

theorem keys_nodup (s : RunItemResolutionSet) : (s.entries.map (·.itemKey)).Nodup := by
  have h := s.accepted
  simp only [Fields.postInit, then_eq_ok, invalidIf_eq_ok, not_not] at h
  exact h.2.2.2.2.1

/-- The digest of a set goes through the digest of each of its entries. -/
theorem itemDigest_of_mem {s : RunItemResolutionSet} {d : Digest} {r : RunItemResolution}
    (h : s.resolutionSetDigest = .ok d) (hr : r ∈ s.entries) :
    ∃ digest, r.itemResolutionDigest = .ok digest := by
  simp only [resolutionSetDigest, canonicalPayload, bind_eq_ok, collect_eq_ok] at h
  obtain ⟨_, ⟨_, hentries, -⟩, -⟩ := h
  obtain ⟨_, -, hpayload⟩ := exists_of_mem_left hentries r hr
  obtain ⟨digest, hdigest, -⟩ := bind_eq_ok.mp hpayload
  exact ⟨digest, hdigest⟩

end RunItemResolutionSet

def RunOutcome.precedence : RunOutcome → ℕ
  | .passed => 0
  | .cancelled => 1
  | .testFailed => 2
  | .infraFailed => 3

/-- The effective outcome of highest precedence; `passed` is the lowest, so it starts the scan
of the entries, of which there is at least one. -/
def RunItemResolutionSet.auditOutcome (s : RunItemResolutionSet) : RunOutcome :=
  (s.entries.map (·.effective.outcome)).foldl
    (fun best o => if best.precedence < o.precedence then o else best) .passed

def firstItem : RunItemKey := ⟨⟨"manifest-1", 0⟩, by decide⟩

/-- The first attempt ended unknown; the adjudicated retry passed. -/
def retriedItem : RunItemResolution where
  itemKey := firstItem
  original := {
    attemptId := some "attempt-1"
    attemptNo := some 1
    attemptFence := some 1
    attemptItemSetDigest := some Digest.zero
    factSchema := "qep.attempt-fact.v1"
    factVersion := 1
    factDigest := Digest.zero
    evidenceRootDigest := none
    resultMappingSchema := none
    resultMappingVersion := none
    resultMappingDigest := none
    sourceKind := .attemptTerminalFallback
    executionFact := .attemptUnknown
    prestartClosureDigest := none
    accepted := by decide }
  effective := {
    attemptId := some "attempt-2"
    attemptNo := some 2
    attemptFence := some 2
    attemptItemSetDigest := some Digest.zero
    factSchema := "qep.attempt-fact.v1"
    factVersion := 1
    factDigest := Digest.zero
    evidenceRootDigest := some Digest.zero
    resultMappingSchema := none
    resultMappingVersion := none
    resultMappingDigest := none
    sourceKind := .authorizedRetry
    outcome := .passed
    retryIntentDigest := some Digest.zero
    retryDecisionDigest := some Digest.zero
    retryAuthorityDigest := some Digest.zero
    adjudicationDigest := some Digest.zero
    adjudicationDecision := some .confirmStoppedThenRetry
    accepted := by decide }
  unknownLineageDigest := some Digest.zero
  aggregationClass := .unknownLineage
  accepted := by decide

/-- The fact of a first attempt that failed its test. -/
def failedFact : ItemFact where
  attemptId := some "attempt-1"
  attemptNo := some 1
  attemptFence := some 1
  attemptItemSetDigest := some Digest.zero
  factSchema := "qep.attempt-fact.v1"
  factVersion := 1
  factDigest := Digest.zero
  evidenceRootDigest := some Digest.zero
  resultMappingSchema := none
  resultMappingVersion := none
  resultMappingDigest := none

def failedItem : RunItemResolution where
  itemKey := firstItem
  original := {
    toItemFact := failedFact
    sourceKind := .attemptResult
    executionFact := .testFailed
    prestartClosureDigest := none
    accepted := by decide }
  effective := {
    toItemFact := failedFact
    sourceKind := .original
    outcome := .testFailed
    retryIntentDigest := none
    retryDecisionDigest := none
    retryAuthorityDigest := none
    adjudicationDigest := none
    accepted := by decide }
  unknownLineageDigest := none
  aggregationClass := .testFailed
  accepted := by decide

/-- A platform failure retried by policy; the second attempt ended unknown, and the third, which its
adjudication allowed, passed. -/
def launderedItem : RunItemResolution where
  itemKey := firstItem
  original := {
    attemptId := some "attempt-1"
    attemptNo := some 1
    attemptFence := some 1
    attemptItemSetDigest := some Digest.zero
    factSchema := "qep.attempt-fact.v1"
    factVersion := 1
    factDigest := Digest.zero
    evidenceRootDigest := none
    resultMappingSchema := none
    resultMappingVersion := none
    resultMappingDigest := none
    sourceKind := .attemptTerminalFallback
    executionFact := .infraFailed
    prestartClosureDigest := none
    accepted := by decide }
  effective := { retriedItem.effective with
    attemptId := some "attempt-3"
    attemptNo := some 3
    attemptFence := some 3
    accepted := by decide }
  unknownLineageDigest := none
  aggregationClass := .passed
  accepted := by decide

/-- The resolution set of a Run with one item. -/
def oneRunSet (r : RunItemResolution) : RunItemResolutionSet where
  batchId := "batch-1"
  runId := "run-1"
  sourceRunVersion := 4
  manifestDigest := Digest.zero
  shardPlanDigest := Digest.zero
  runItemSetDigest := Digest.zero
  attemptChainDigest := Digest.zero
  retryChainDigest := none
  adjudicationChainDigest := none
  entries := [r]
  accepted := by
    simp only [RunItemResolutionSet.Fields.postInit, then_eq_ok, requireString_eq_ok,
      requireNonnegativeInt_eq_ok, invalidIf_eq_ok, List.map_singleton]
    exact ⟨rfl, rfl, by decide, by simp, by simp, by simp [Sorting.sortOn]⟩

end QaRunner
