import QaRunner.Domain.BatchCoverage

/-! When the digest of a Batch basis exists. -/
namespace QaRunner
open Guarded

section
variable {path : Str}

theorem RunItemKey.validate_payload {k : RunItemKey} (h : k.Digestible) :
    validateJsonValue path k.canonicalPayload = .ok () := by
  simpa [canonicalPayload, Digestible] using h

theorem BatchItemResolution.validate_payload {e : BatchItemResolution}
    {fields : Json.Members} (h : e.Digestible)
    (hfields : validateJsonFields path fields = .ok ()) :
    validateJsonFields path (e.payloadFields ++ fields) = .ok () := by
  simp [payloadFields, RunItemKey.validate_payload h.itemKey, hfields]
  exact ⟨h.sourceRunId, h.sourceRunVersion, e.schema_unicode⟩

theorem BatchTerminalRunRef.validate_payload {ref : BatchTerminalRunRef}
    (h : ref.runId.isUnicode = true ∧ SafeInt ref.sourceRunVersion) :
    validateJsonValue path ref.canonicalPayload = .ok () := by
  simpa [canonicalPayload] using h

theorem BatchNonRunResolutionRef.validate_payload {ref : BatchNonRunResolutionRef}
    (h : ref.itemKey.Digestible) : validateJsonValue path ref.canonicalPayload = .ok () := by
  have haccepted := ref.accepted
  simp only [Fields.postInit, invalidIf_eq_ok, ne_eq, not_not] at haccepted
  simp [canonicalPayload, RunItemKey.validate_payload h, haccepted]

theorem BatchUnknownFactRef.validate_payload {ref : BatchUnknownFactRef}
    (h : ref.itemKey.Digestible) : validateJsonValue path ref.canonicalPayload = .ok () := by
  simp [canonicalPayload, RunItemKey.validate_payload h]

end

namespace BatchItemResolutionSet
variable {s : BatchItemResolutionSet}

theorem count_safe (h : SafeInt s.entries.length) (c : BatchItemClassification) :
    SafeInt (s.classifications.count c) := by
  have hle := List.count_le_length (a := c) (l := s.classifications)
  rw [classifications, List.length_map] at hle
  unfold SafeInt at h ⊢
  rw [Int.natAbs_natCast] at h ⊢
  exact hle.trans h

theorem denominator_safe (h : SafeInt s.entries.length) :
    SafeInt s.counts.originalDenominator := by
  have hlength : s.counts.originalDenominator = s.classifications.length := rfl
  rw [hlength, classifications, List.length_map]
  exact h

theorem entryDigest_ok {e : BatchItemResolution} (h : e.Digestible) :
    ∃ d, e.batchItemResolutionDigest = .ok d := by
  apply canonicalDigest_of_valid
  rw [validateJsonValue_dict, validateJsonFields_cons]
  refine ⟨validateJsonValue_text _, ?_⟩
  exact List.append_nil e.payloadFields ▸ BatchItemResolution.validate_payload h rfl

end BatchItemResolutionSet

namespace BatchFinalizationBasis
variable {b : BatchFinalizationBasis}

/-- Payloads that are valid wherever they stand make a valid list. -/
theorem collect_valid {α : Type} {as : List α} {payload : α → Result Json}
    (h : ∀ a ∈ as, ∃ v, payload a = .ok v ∧ ∀ path, validateJsonValue path v = .ok ()) :
    ∃ vs, collect as payload = .ok vs ∧ ∀ path, validateJsonValue path (.list vs) = .ok () := by
  obtain ⟨vs, hvs⟩ := exists_forall₂ h
  refine ⟨vs, collect_eq_ok.mpr (hvs.imp fun _ _ hv => hv.1), fun path => ?_⟩
  apply validateJsonValue_list
  intro v hv
  obtain ⟨_, -, -, hvalid⟩ := exists_of_mem_right hvs v hv
  exact hvalid

theorem terminalRunRefs_valid (h : b.Safe) {path : Str} : validateJsonValue path
    (.list (b.terminalRunRefs.map (·.canonicalPayload))) = .ok () := by
  apply validateJsonValue_map
  intro ref hr _
  exact BatchTerminalRunRef.validate_payload (h.terminalRunRefs ref hr)

theorem nonRunRefs_valid (h : b.Safe) {path : Str} : validateJsonValue path
    (.list (b.nonRunRefs.map (·.canonicalPayload))) = .ok () := by
  apply validateJsonValue_map
  intro ref hr _
  obtain ⟨e, he, -, hkey⟩ := entry_of_ref hr
  exact BatchNonRunResolutionRef.validate_payload (hkey ▸ (h.entries e he).itemKey)

theorem unknownFactRefs_valid (h : b.Safe) {path : Str} : validateJsonValue path
    (.list (b.unknownFactRefs.map (·.canonicalPayload))) = .ok () := by
  apply validateJsonValue_map
  intro ref hr _
  exact BatchUnknownFactRef.validate_payload (h.unknownFactRefs ref hr)

theorem resolutionSetDigest_ok (h : b.Safe) : ∃ d, b.resolutionSet.resolutionSetDigest = .ok d := by
  have hentries : ∀ e ∈ b.resolutionSet.entries, ∃ v,
      BatchItemResolutionSet.entryPayload e = .ok v ∧
        ∀ path, validateJsonValue path v = .ok () := by
    intro e he
    obtain ⟨d, hd⟩ := BatchItemResolutionSet.entryDigest_ok (h.entries e he)
    refine ⟨_, by rw [BatchItemResolutionSet.entryPayload, hd, ok_bind]; rfl, fun path => ?_⟩
    exact BatchItemResolution.validate_payload (h.entries e he) (by simp)
  obtain ⟨vs, hvs, hvalid⟩ := collect_valid hentries
  have hcount := BatchItemResolutionSet.count_safe h.itemCount
  have hdenominator := BatchItemResolutionSet.denominator_safe h.itemCount
  simp only [BatchItemResolutionSet.resolutionSetDigest, BatchItemResolutionSet.canonicalPayload,
    hvs, ok_bind]
  apply canonicalDigest_of_valid
  simp [hvalid, h.batchId, h.sourceBatchVersion, h.manifestId, h.shardPlanId, h.shardPlanVersion,
    hdenominator]
  exact ⟨hcount _, hcount _, hcount _, hcount _, hcount _, hcount _⟩

theorem completenessProofDigest_ok (h : b.Safe) : ∃ d, b.completenessProofDigest = .ok d := by
  have hbindings : ∀ e ∈ b.resolutionSet.entries, ∃ v, b.itemBinding e = .ok v ∧
      ∀ path, validateJsonValue path v = .ok () := by
    intro e he
    obtain ⟨d, hd⟩ := BatchItemResolutionSet.entryDigest_ok (h.entries e he)
    refine ⟨_, by rw [itemBinding, hd, ok_bind]; rfl, fun path => ?_⟩
    exact BatchItemResolution.validate_payload (h.entries e he) (by simp)
  obtain ⟨vs, hvs, hvalid⟩ := collect_valid hbindings
  obtain ⟨d, hd⟩ := resolutionSetDigest_ok h
  have hdenominator := BatchItemResolutionSet.denominator_safe h.itemCount
  simp only [completenessProofDigest, hvs, hd, ok_bind]
  apply canonicalDigest_of_valid
  simp [hvalid, terminalRunRefs_valid h, counts, h.batchId, h.sourceBatchVersion, h.manifestId,
    h.shardPlanId, h.shardPlanVersion, hdenominator]

/-- A basis whose numbers are safe and whose strings are Unicode has a digest. -/
theorem basisDigest_ok (h : b.Safe) : ∃ d, b.basisDigest = .ok d := by
  obtain ⟨_, _, hchecked⟩ := b.checked
  have hpolicy := (evaluateBatchOutcome_eq hchecked.evaluates).2.1
  obtain ⟨d, hd⟩ := resolutionSetDigest_ok h
  obtain ⟨proof, hproof⟩ := completenessProofDigest_ok h
  have hcount := BatchItemResolutionSet.count_safe h.itemCount
  have hdenominator := BatchItemResolutionSet.denominator_safe h.itemCount
  simp only [basisDigest, canonicalPayload, hpolicy, hd, hproof, ok_bind]
  apply canonicalDigest_of_valid
  simp [terminalRunRefs_valid h, nonRunRefs_valid h, unknownFactRefs_valid h, counts, h.batchId,
    h.sourceBatchVersion, h.manifestId, h.shardPlanId, h.shardPlanVersion, h.policyId,
    h.policyVersion, hdenominator]
  exact ⟨hcount _, hcount _, hcount _, hcount _, hcount _, hcount _⟩

end BatchFinalizationBasis
end QaRunner
