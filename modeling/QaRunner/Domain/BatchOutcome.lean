import QaRunner.Domain.BatchCoverage
import QaRunner.Lib.Tolerance

/-! The outcome of an accepted basis against the items behind it: the rows of the truth table as
conditions on the items, what an unknown execution forces, and what a worse item cannot do. -/
namespace QaRunner
open Guarded

namespace BatchItemClassification

/-- Only passed and test-failed items leave a Batch able to succeed. -/
def Blocks (c : BatchItemClassification) : Prop := c ≠ passed ∧ c ≠ testFailed

/-- A passed item can only get worse; a test-failed one gets worse by blocking. -/
def Worse (c c' : BatchItemClassification) : Prop :=
  (c = passed ∧ c' ≠ passed) ∨ (c = testFailed ∧ c'.Blocks)

/-- The lists differ in one place, where the second is worse. -/
def OneWorse (cs cs' : List BatchItemClassification) : Prop :=
  ∃ pre c c' post, cs = pre ++ c :: post ∧ cs' = pre ++ c' :: post ∧ c.Worse c'

end BatchItemClassification

namespace BatchResolutionCounts.Fields
open BatchItemClassification
variable {cs cs' : List BatchItemClassification} {maxTestFailedItems : ℤ}

/-- The rows of the truth table, each with the rows before it excluded. -/
theorem outcome_cases (c : BatchResolutionCounts.Fields) (maxTestFailedItems : ℤ) :
    (c.outcome maxTestFailedItems = .cancelled ∧ c.cancelScoped = c.originalDenominator ∧
      c.passedCount + c.testFailedCount + c.infraFailedCount + c.unknownLineageCount = 0) ∨
    (¬ (c.cancelScoped = c.originalDenominator ∧
      c.passedCount + c.testFailedCount + c.infraFailedCount + c.unknownLineageCount = 0) ∧
      (c.outcome maxTestFailedItems = .partialOutcome ∧
        0 < c.cancelScoped + c.unknownLineageCount ∨
      c.cancelScoped + c.unknownLineageCount ≤ 0 ∧
        (c.outcome maxTestFailedItems = .failed ∧
          (0 < c.infraFailedCount ∨ maxTestFailedItems < c.testFailedCount) ∨
        c.outcome maxTestFailedItems = .succeeded ∧ c.infraFailedCount ≤ 0 ∧
          c.testFailedCount ≤ maxTestFailedItems))) := by
  unfold outcome
  split_ifs with hall hscoped hfailed
  · exact Or.inl ⟨rfl, hall⟩
  · exact Or.inr ⟨hall, Or.inl ⟨rfl, hscoped⟩⟩
  · exact Or.inr ⟨hall, Or.inr ⟨by omega, Or.inl ⟨rfl, hfailed⟩⟩⟩
  · exact Or.inr ⟨hall, Or.inr ⟨by omega, Or.inr ⟨rfl, by omega, by omega⟩⟩⟩

/-- An unknown lineage is neither of the verdicts, whatever stands beside it. -/
theorem outcome_of_unknown (h : unknownLineage ∈ cs) :
    (ofClassifications cs).outcome maxTestFailedItems = .partialOutcome := by
  have hpos := List.count_pos_iff.mpr h
  have hrows := outcome_cases (ofClassifications cs) maxTestFailedItems
  generalize (ofClassifications cs).outcome maxTestFailedItems = verdict at hrows ⊢
  simp only [cancelScoped, ofClassifications] at hrows
  rcases hrows with ⟨-, -, hnone⟩ | ⟨-, ⟨hmixed, -⟩ | ⟨hnone, -⟩⟩
  · omega
  · exact hmixed
  · omega

theorem forall_not_blocks_iff : (∀ c ∈ cs, ¬ c.Blocks) ↔ cs.count infraFailed = 0 ∧
    cs.count cancelled = 0 ∧ cs.count unknownLineage = 0 ∧ cs.count notExecuted = 0 := by
  simp only [List.count_eq_zero]
  constructor
  · intro h
    refine ⟨fun hc => ?_, fun hc => ?_, fun hc => ?_, fun hc => ?_⟩ <;>
      exact h _ hc ⟨by decide, by decide⟩
  · rintro ⟨hinfra, hcancelled, hunknown, hnot⟩ c hc ⟨hpassed, hfailed⟩
    cases c <;> contradiction

/-- The last row of the truth table: nothing blocks, and failures stay within the tolerance. -/
theorem outcome_succeeded_iff (hne : cs ≠ []) :
    (ofClassifications cs).outcome maxTestFailedItems = .succeeded ↔
      Tolerance.Passes Blocks (· = testFailed) maxTestFailedItems cs := by
  have hpos := List.length_pos_iff.mpr hne
  have hcount : cs.countP (fun c => c = testFailed) = cs.count testFailed := rfl
  have hrows := outcome_cases (ofClassifications cs) maxTestFailedItems
  rw [Tolerance.Passes, forall_not_blocks_iff, hcount]
  generalize (ofClassifications cs).outcome maxTestFailedItems = verdict at hrows ⊢
  simp only [cancelScoped, ofClassifications] at hrows
  rcases hrows with ⟨rfl, hall, -⟩ | ⟨-, ⟨rfl, hscoped⟩ | ⟨hscoped, ⟨rfl, hfailed⟩ | ⟨rfl, hfree⟩⟩⟩
  · simp only [reduceCtorEq, false_iff]
    omega
  · simp only [reduceCtorEq, false_iff]
    omega
  · simp only [reduceCtorEq, false_iff]
    omega
  · simp only [true_iff]
    omega

/-- A list that succeeds with one item made worse succeeds without it. -/
theorem succeeded_of_oneWorse (h : OneWorse cs cs')
    (hs : (ofClassifications cs').outcome maxTestFailedItems = .succeeded) :
    (ofClassifications cs).outcome maxTestFailedItems = .succeeded := by
  obtain ⟨pre, c, c', post, rfl, rfl, hworse⟩ := h
  rw [outcome_succeeded_iff (by simp)] at hs ⊢
  have hplaces := Tolerance.forall₂_replace (R := fun a a' => a = a' ∨ a.Worse a')
    (fun _ => Or.inl rfl) (Or.inr hworse) pre post
  apply Tolerance.Passes.of_worse _ _ hplaces hs
  · rintro a a' (rfl | ⟨rfl, -⟩ | ⟨rfl, -⟩) hblocks
    · exact hblocks
    · exact absurd rfl hblocks.1
    · exact absurd rfl hblocks.2
  · rintro a a' (rfl | ⟨rfl, -⟩ | ⟨-, hblocks⟩) hfailed
    · exact Or.inl hfailed
    · cases hfailed
    · exact Or.inr hblocks

end BatchResolutionCounts.Fields

namespace BatchFinalizationBasis
open BatchItemClassification
variable {b b' : BatchFinalizationBasis} {s : RunItemResolutionSet} {r : RunItemResolution}

theorem batchOutcome_eq (b : BatchFinalizationBasis) :
    b.batchOutcome = b.counts.outcome b.policy.maxTestFailedItems := by
  obtain ⟨_, _, h⟩ := b.checked
  exact (evaluateBatchOutcome_eq h.evaluates).2.2.2

theorem unknown_entry (hs : s ∈ b.runResolutionSets) (hr : r ∈ s.entries)
    (hclass : r.aggregationClass = .unknownLineage) :
    ∃ e ∈ b.resolutionSet.entries, e.itemKey = r.itemKey ∧ e.classification = .unknownLineage := by
  obtain ⟨e, he, hkey, -, -, -, hsame⟩ := entry_of_closure (mem_closures.mpr ⟨hs, hr⟩)
  rw [hclass] at hsame
  exact ⟨e, he, hkey, hsame⟩

/-- One item with an unknown lineage decides the outcome of its Batch. -/
theorem partial_of_unknown (hs : s ∈ b.runResolutionSets) (hr : r ∈ s.entries)
    (hclass : r.aggregationClass = .unknownLineage) : b.batchOutcome = .partialOutcome := by
  obtain ⟨e, he, -, hsame⟩ := unknown_entry hs hr hclass
  rw [batchOutcome_eq]
  exact BatchResolutionCounts.Fields.outcome_of_unknown (List.mem_map.mpr ⟨e, he, hsame⟩)

/-- An item whose first attempt ended unknown is counted as unknown lineage, and keeps its Batch
from both verdicts, whatever a retry made of it. -/
theorem unknown_never_laundered (hs : s ∈ b.runResolutionSets) (hr : r ∈ s.entries)
    (hu : r.original.executionFact = .attemptUnknown) :
    (∃ e ∈ b.resolutionSet.entries, e.itemKey = r.itemKey ∧ e.classification = .unknownLineage) ∧
      1 ≤ b.counts.unknownLineageCount ∧ b.batchOutcome ≠ .succeeded ∧
      b.batchOutcome ≠ .failed := by
  have hclass := r.unknownLineage_of_original hu
  obtain ⟨e, he, hkey, hsame⟩ := unknown_entry hs hr hclass
  have hmem : unknownLineage ∈ b.resolutionSet.classifications := List.mem_map.mpr ⟨e, he, hsame⟩
  have hpos := List.count_pos_iff.mpr hmem
  have hmixed := partial_of_unknown hs hr hclass
  refine ⟨⟨e, he, hkey, hsame⟩, ?_, by simp [hmixed], by simp [hmixed]⟩
  simp only [counts, BatchItemResolutionSet.counts,
    BatchResolutionCounts.Fields.ofClassifications]
  omega

/-- The adjudicated retry of the sample passed, and its Batch is still partial. -/
theorem unknown_never_laundered_retried : ∃ b : BatchFinalizationBasis,
    b.runResolutionSets = [oneRunSet retriedItem] ∧ 1 ≤ b.counts.unknownLineageCount ∧
      b.batchOutcome ≠ .succeeded ∧ b.batchOutcome ≠ .failed := by
  obtain ⟨f, hsets, -, -, -, -, -, haccepted⟩ := sampled_accepted (Or.inl rfl)
  refine ⟨⟨_, haccepted "run-1" (by decide)⟩, hsets, ?_⟩
  exact (unknown_never_laundered (s := oneRunSet retriedItem) (r := retriedItem)
    (by rw [hsets]; exact List.mem_singleton.mpr rfl) (List.mem_singleton.mpr rfl) rfl).2

/-- The effective outcome of the item rests on the adjudication of some unknown attempt. -/
def RestsOnAdjudication (r : RunItemResolution) : Prop :=
  r.effective.sourceKind = .unknownAdjudication ∨
    (r.effective.sourceKind = .authorizedRetry ∧ r.effective.adjudicationDigest.isSome)

/-- The item stays marked as unknown, and keeps every Batch it is in from both verdicts. -/
def LineageSticky (r : RunItemResolution) : Prop :=
  r.unknownLineageDigest.isSome ∧ r.aggregationClass = .unknownLineage ∧
    ∀ (b : BatchFinalizationBasis) (s : RunItemResolutionSet), s ∈ b.runResolutionSets →
      r ∈ s.entries → b.batchOutcome ≠ .succeeded ∧ b.batchOutcome ≠ .failed

theorem sticky_of_lineage (h : r.unknownLineageDigest.isSome) : LineageSticky r := by
  have hclass := r.unknownLineage_iff.mpr h
  refine ⟨h, hclass, fun b s hs hr => ?_⟩
  have hmixed := partial_of_unknown hs hr hclass
  exact ⟨by simp [hmixed], by simp [hmixed]⟩

/-- The adjudicated retry of an item whose first attempt ended known. -/
def laundered (original : OriginalItemResolution)
    (h : original.executionFact ≠ .attemptUnknown) : RunItemResolution :=
  { launderedItem with
    original := original
    accepted := by
      have hlineage : launderedItem.unknownLineageDigest = none := rfl
      simp only [RunItemResolution.Fields.postInit, then_eq_ok, whenever_eq_ok,
        RunItemResolution.Fields.validateLineage, hlineage, invalidIf_eq_ok]
      exact ⟨fun hkind => (by cases hkind), by decide, h⟩ }

theorem exists_original (fact : AttemptExecutionFact) :
    ∃ original : OriginalItemResolution, original.executionFact = fact := by
  cases fact with
  | passed => exact ⟨⟨⟨failedFact, .attemptResult, .passed, none⟩, by decide⟩, rfl⟩
  | testFailed => exact ⟨failedItem.original, rfl⟩
  | infraFailed => exact ⟨launderedItem.original, rfl⟩
  | cancelled =>
    exact ⟨⟨⟨failedFact, .attemptTerminalFallback, .cancelled, none⟩, by decide⟩, rfl⟩
  | attemptUnknown => exact ⟨retriedItem.original, rfl⟩

/-- An adjudication leaves its mark when the attempt it is about is the original one; after a known
original attempt it leaves one only if the caller adds it. -/
theorem lineage_sticky_iff (r : RunItemResolution) (fact : AttemptExecutionFact) :
    ((RestsOnAdjudication r → LineageSticky r) ↔
      (RestsOnAdjudication r →
        r.original.executionFact = .attemptUnknown ∨ r.unknownLineageDigest.isSome)) ∧
    ((∀ r' : RunItemResolution, r'.original.executionFact = fact → RestsOnAdjudication r' →
      LineageSticky r') ↔ fact = .attemptUnknown) := by
  constructor
  · refine imp_congr_right fun _ => ⟨fun h => Or.inr h.1, ?_⟩
    rintro (hunknown | hlineage)
    · exact sticky_of_lineage (r.unknownLineage_iff.mp (r.unknownLineage_of_original hunknown))
    · exact sticky_of_lineage hlineage
  · constructor
    · intro h
      by_contra hknown
      obtain ⟨original, rfl⟩ := exists_original fact
      have hsticky := h (laundered original hknown) rfl (Or.inr ⟨rfl, rfl⟩)
      cases hsticky.1
    · rintro rfl r' hunknown -
      exact sticky_of_lineage (r'.unknownLineage_iff.mp (r'.unknownLineage_of_original hunknown))

/-- A Batch that succeeded although its item passed through an adjudicated unknown attempt. -/
theorem succeeded_through_unknown : ∃ (b : BatchFinalizationBasis) (s : RunItemResolutionSet)
    (r : RunItemResolution), s ∈ b.runResolutionSets ∧ r ∈ s.entries ∧ RestsOnAdjudication r ∧
      r.unknownLineageDigest = none ∧ r.aggregationClass = .passed ∧
      b.batchOutcome = .succeeded := by
  obtain ⟨f, hsets, hpolicy, -, hclass, -, -, haccepted⟩ := sampled_accepted (Or.inr (Or.inr rfl))
  let b : BatchFinalizationBasis := ⟨_, haccepted "run-1" (by decide)⟩
  have hb : b.batchOutcome = .succeeded := by
    have hcounts : b.counts.toFields = .ofClassifications [.passed] :=
      congrArg BatchResolutionCounts.Fields.ofClassifications hclass
    have hbound : b.policy.maxTestFailedItems = 0 := congrArg (·.maxTestFailedItems) hpolicy
    rw [batchOutcome_eq, hcounts, hbound]
    decide
  refine ⟨b, oneRunSet launderedItem, launderedItem, ?_, List.mem_singleton.mpr rfl,
    Or.inr ⟨rfl, rfl⟩, rfl, rfl, hb⟩
  have hb' : b.runResolutionSets = [oneRunSet launderedItem] := hsets
  rw [hb']
  exact List.mem_singleton.mpr rfl

/-- Whoever evaluates a worse resolution set under the same policy does not get a success the
better one did not have. -/
theorem not_succeeded_of_worse {worse : BatchItemResolutionSet} {suiteId : Str}
    {intent : Option Digest} {evaluation : BatchOutcomeEvaluation}
    (h : OneWorse b.resolutionSet.classifications worse.classifications)
    (hb : b.batchOutcome ≠ .succeeded)
    (he : evaluateBatchOutcome worse.counts b.policy suiteId intent = .ok evaluation) :
    evaluation.outcome ≠ .succeeded := by
  intro hs
  rw [(evaluateBatchOutcome_eq he).2.2.2] at hs
  apply hb
  rw [batchOutcome_eq]
  exact BatchResolutionCounts.Fields.succeeded_of_oneWorse h hs

theorem succeeded_iff (b : BatchFinalizationBasis) : b.batchOutcome = .succeeded ↔
    (∀ e ∈ b.resolutionSet.entries, ¬ e.classification.Blocks) ∧
      (b.resolutionSet.entries.countP (·.classification = .testFailed) : ℤ) ≤
        b.policy.maxTestFailedItems := by
  rw [batchOutcome_eq, counts, BatchItemResolutionSet.counts,
    BatchResolutionCounts.Fields.outcome_succeeded_iff b.resolutionSet.classifications_ne_nil,
    Tolerance.Passes, BatchItemResolutionSet.classifications, List.forall_mem_map, List.countP_map]
  exact Iff.rfl

/-- The manifest is covered, the counts add up, success needs every item harmless but for the
tolerated failures, and no item made worse turns another outcome into a success. -/
theorem manifest_resolved (b : BatchFinalizationBasis) :
    (∀ key ∈ b.resolutionSet.expectedItemKeys, b.ResolvedOnce key) ∧
    b.counts.passedCount + b.counts.testFailedCount + b.counts.infraFailedCount +
      b.counts.cancelledCount + b.counts.unknownLineageCount + b.counts.notExecutedCount =
        b.resolutionSet.expectedItemKeys.length ∧
    (b.batchOutcome = .succeeded →
      (∀ e ∈ b.resolutionSet.entries, e.classification ≠ .unknownLineage ∧
        e.classification ≠ .infraFailed ∧ e.classification ≠ .cancelled ∧
        e.classification ≠ .notExecuted) ∧
      (b.resolutionSet.entries.countP (·.classification = .testFailed) : ℤ) ≤
        b.policy.maxTestFailedItems) ∧
    ∀ (worse : BatchItemResolutionSet) (suiteId : Str) (intent : Option Digest)
      (evaluation : BatchOutcomeEvaluation),
      OneWorse b.resolutionSet.classifications worse.classifications →
      b.batchOutcome ≠ .succeeded →
      evaluateBatchOutcome worse.counts b.policy suiteId intent = .ok evaluation →
      evaluation.outcome ≠ .succeeded := by
  refine ⟨fun key hkey => resolvedOnce_of_mem hkey, ?_, fun hs => ?_,
    fun worse suiteId intent evaluation => not_succeeded_of_worse⟩
  · have hsum := BatchItemClassification.count_sum b.resolutionSet.classifications
    have hlength : b.resolutionSet.classifications.length =
        b.resolutionSet.expectedItemKeys.length := by
      rw [← b.resolutionSet.keys_eq, BatchItemResolutionSet.classifications, List.length_map,
        List.length_map]
    simp only [counts, BatchItemResolutionSet.counts,
      BatchResolutionCounts.Fields.ofClassifications]
    omega
  · obtain ⟨hfree, hbound⟩ := b.succeeded_iff.mp hs
    refine ⟨fun e he => ?_, hbound⟩
    refine ⟨fun h => ?_, fun h => ?_, fun h => ?_, fun h => ?_⟩ <;>
      exact hfree e he (h ▸ ⟨by decide, by decide⟩)

/-- A failed item made unknown leaves the Batch as far from success as before. -/
theorem manifest_resolved_samples : ∃ b b' : BatchFinalizationBasis, b'.policy = b.policy ∧
    OneWorse b.resolutionSet.classifications b'.resolutionSet.classifications ∧
    b.ResolvedOnce firstItem ∧ b.batchOutcome ≠ .succeeded ∧ b'.batchOutcome ≠ .succeeded := by
  obtain ⟨f, -, hpolicy, hkeys, hclass, -, -, haccepted⟩ := sampled_accepted (Or.inr (Or.inl rfl))
  obtain ⟨f', -, hpolicy', -, hclass', -, -, haccepted'⟩ := sampled_accepted (Or.inl rfl)
  let b : BatchFinalizationBasis := ⟨_, haccepted "run-1" (by decide)⟩
  let b' : BatchFinalizationBasis := ⟨_, haccepted' "run-1" (by decide)⟩
  have hpolicies : b'.policy = b.policy := hpolicy'.trans hpolicy.symm
  have hworse : OneWorse b.resolutionSet.classifications b'.resolutionSet.classifications := by
    refine ⟨[], .testFailed, .unknownLineage, [], hclass, hclass', ?_⟩
    exact Or.inr ⟨rfl, by decide, by decide⟩
  have hb : b.batchOutcome ≠ .succeeded := by
    have hcounts : b.counts.toFields = .ofClassifications [.testFailed] :=
      congrArg BatchResolutionCounts.Fields.ofClassifications hclass
    have hbound : b.policy.maxTestFailedItems = 0 := congrArg (·.maxTestFailedItems) hpolicy
    rw [batchOutcome_eq, hcounts, hbound]
    decide
  have hfirst : firstItem ∈ b.resolutionSet.expectedItemKeys := by
    have hkeys : b.resolutionSet.expectedItemKeys = [firstItem] := hkeys
    rw [hkeys]
    exact List.mem_singleton.mpr rfl
  obtain ⟨_, _, h⟩ := b'.checked
  exact ⟨b, b', hpolicies, hworse, (manifest_resolved b).1 firstItem hfirst, hb,
    (manifest_resolved b).2.2.2 _ _ _ _ hworse hb (hpolicies ▸ h.evaluates)⟩

end BatchFinalizationBasis
end QaRunner
