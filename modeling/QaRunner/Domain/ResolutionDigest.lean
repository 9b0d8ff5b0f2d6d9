import QaRunner.Domain.RunFinalizationBasis

/-! What the digest of a resolution set pins, and the one field it leaves open. -/
namespace QaRunner
open Guarded

theorem OriginalSourceKind.value_inj {k l : OriginalSourceKind} : k.value = l.value ↔ k = l := by
  cases k <;> cases l <;> decide

theorem EffectiveSourceKind.value_inj {k l : EffectiveSourceKind} :
    k.value = l.value ↔ k = l := by
  cases k <;> cases l <;> decide

theorem AttemptExecutionFact.value_inj {f g : AttemptExecutionFact} :
    f.value = g.value ↔ f = g := by
  cases f <;> cases g <;> decide

theorem RunOutcome.value_inj {o p : RunOutcome} : o.value = p.value ↔ o = p := by
  cases o <;> cases p <;> decide

theorem ItemAggregationClass.value_inj {c d : ItemAggregationClass} :
    c.value = d.value ↔ c = d := by
  cases c <;> cases d <;> decide

theorem RunItemKey.canonicalPayload_inj {k l : RunItemKey} :
    k.canonicalPayload = l.canonicalPayload ↔ k = l := by
  constructor
  · rintro h
    obtain ⟨⟨m, i⟩, _⟩ := k
    obtain ⟨⟨n, j⟩, _⟩ := l
    simp only [canonicalPayload, Json.dict.injEq, List.cons.injEq, Prod.mk.injEq, true_and,
      Json.str.injEq, Json.int.injEq, and_true] at h
    obtain ⟨rfl, rfl⟩ := h
    rfl
  · rintro rfl
    rfl

theorem ItemFact.resolutionPayload_inj {f g : ItemFact} {kind kind' name fact fact' : String} :
    f.resolutionPayload kind (name, fact) = g.resolutionPayload kind' (name, fact') ↔
      kind = kind' ∧ fact = fact' ∧ f = g := by
  constructor
  · intro h
    obtain ⟨_, _, _, _, _, _, _, _, _, _, _⟩ := f
    obtain ⟨_, _, _, _, _, _, _, _, _, _, _⟩ := g
    simp only [resolutionPayload, List.cons.injEq, Prod.mk.injEq, true_and, Json.str.injEq,
      Str.text.injEq, Json.int.injEq, optionalString_inj, optionalInt_inj, optionalDigestValue_inj,
      Digest.value_inj, and_true] at h
    obtain ⟨rfl, rfl, rfl, rfl, rfl, rfl, rfl, rfl, rfl, rfl, rfl, rfl, rfl⟩ := h
    exact ⟨rfl, rfl, rfl⟩
  · rintro ⟨rfl, rfl, rfl⟩
    rfl

theorem ItemFact.length_resolutionPayload {f g : ItemFact} {kind kind' : String}
    {execution execution' : String × String} :
    (f.resolutionPayload kind execution).length = (g.resolutionPayload kind' execution').length :=
  rfl

theorem OriginalItemResolution.canonicalPayload_inj {o p : OriginalItemResolution} :
    o.canonicalPayload = p.canonicalPayload ↔ o = p := by
  constructor
  · intro h
    have happ := List.append_inj (Json.dict.inj h) ItemFact.length_resolutionPayload
    obtain ⟨hkind, hfact, hitem⟩ := ItemFact.resolutionPayload_inj.mp happ.1
    have hclosure := happ.2
    simp only [List.cons.injEq, Prod.mk.injEq, true_and, and_true,
      optionalDigestValue_inj] at hclosure
    obtain ⟨⟨_, _, _, _⟩, _⟩ := o
    obtain ⟨⟨_, _, _, _⟩, _⟩ := p
    rw [OriginalSourceKind.value_inj] at hkind
    rw [AttemptExecutionFact.value_inj] at hfact
    simp only at hkind hfact hitem hclosure
    obtain rfl := hkind
    obtain rfl := hfact
    obtain rfl := hitem
    obtain rfl := hclosure
    rfl
  · rintro rfl
    rfl

/-- Everything the payload of an effective resolution reads. -/
def EffectiveItemResolution.withoutDecision (e : EffectiveItemResolution) :
    EffectiveItemResolution.Fields :=
  { e.toFields with adjudicationDecision := none }

theorem EffectiveItemResolution.canonicalPayload_inj {e f : EffectiveItemResolution} :
    e.canonicalPayload = f.canonicalPayload ↔ e.withoutDecision = f.withoutDecision := by
  constructor
  · intro h
    have happ := List.append_inj (Json.dict.inj h) ItemFact.length_resolutionPayload
    obtain ⟨hkind, houtcome, hitem⟩ := ItemFact.resolutionPayload_inj.mp happ.1
    have hdigests := happ.2
    simp only [List.cons.injEq, Prod.mk.injEq, true_and, and_true,
      optionalDigestValue_inj] at hdigests
    rw [EffectiveSourceKind.value_inj] at hkind
    rw [RunOutcome.value_inj] at houtcome
    simp only [withoutDecision, Fields.mk.injEq]
    exact ⟨hitem, hkind, houtcome, hdigests.1, hdigests.2.1, hdigests.2.2.1, hdigests.2.2.2,
      trivial⟩
  · intro h
    simp only [withoutDecision, Fields.mk.injEq] at h
    obtain ⟨hitem, hkind, houtcome, hintent, hdecision, hauthority, hadjudication, -⟩ := h
    simp only [canonicalPayload, hitem, hkind, houtcome, hintent, hdecision, hauthority,
      hadjudication]

namespace EffectiveItemResolution
variable {e f : EffectiveItemResolution}

theorem source_accepted (e : EffectiveItemResolution) :
    e.validateSource "effective_item_resolution" = .ok () := by
  have h := e.accepted
  simp only [Fields.postInit, then_eq_ok] at h
  exact h.2

theorem decision_of_original (hsource : e.sourceKind = .original) :
    e.adjudicationDecision = none := by
  have h := e.source_accepted
  simp only [Fields.validateSource, hsource, then_eq_ok, forbidPresent_eq_ok,
    List.forall_mem_append, List.forall_mem_cons, Option.isSome_eq_false_iff,
    Option.isNone_iff_eq_none] at h
  exact h.2.2.2.1

theorem decision_of_retry (hsource : e.sourceKind = .authorizedRetry) :
    (e.adjudicationDigest = none ∧ e.adjudicationDecision = none) ∨
      (e.adjudicationDigest.isSome ∧ ∃ d ∈ e.adjudicationDecision, d.permitsRetry = true) := by
  have h := e.source_accepted
  simp only [Fields.validateSource, hsource, then_eq_ok, invalidIf_eq_ok, whenever_eq_ok,
    not_not] at h
  obtain ⟨-, -, hpaired, hpermits⟩ := h
  by_cases hdigest : e.adjudicationDigest.isSome
  · exact .inr ⟨hdigest, hpermits hdigest⟩
  · have hnone := Option.not_isSome_iff_eq_none.mp hdigest
    refine .inl ⟨hnone, ?_⟩
    rw [← Option.isNone_iff_eq_none, ← hpaired, Option.isNone_iff_eq_none]
    exact hnone

/-- Verified evidence has an evidence root and an infrastructure failure has none. -/
theorem decision_of_adjudication (hsource : e.sourceKind = .unknownAdjudication) :
    e.adjudicationDecision = some (if e.evidenceRootDigest.isSome
      then .markCompletedFromVerifiedEvidence else .markInfraFailedNoRetry) := by
  have h := e.source_accepted
  simp only [Fields.validateSource, hsource, then_eq_ok] at h
  have hdecision := h.2.2.2
  unfold Fields.validateAdjudication at hdecision
  split at hdecision
  · next hinfra =>
    simp only [then_eq_ok, forbidPresent_eq_ok, List.forall_mem_cons] at hdecision
    simp [hinfra, hdecision.2.1]
  · next hcompleted =>
    rw [requireSomeDigest_eq_ok] at hdecision
    simp [hcompleted, hdecision]
  · simp only [invalidIf_eq_ok, not_true_eq_false] at hdecision

/-- Both effective resolutions are adjudicated retries whose decisions allow the retry. -/
def BothRetry (e f : EffectiveItemResolution) : Prop :=
  e.sourceKind = .authorizedRetry ∧ e.adjudicationDigest.isSome ∧
    (∃ d ∈ e.adjudicationDecision, d.permitsRetry = true) ∧
    ∃ d ∈ f.adjudicationDecision, d.permitsRetry = true

/-- The rules of the constructor recover the decision from the other fields, save between the
two decisions that allow a retry. -/
theorem decision_of_withoutDecision (h : e.withoutDecision = f.withoutDecision) :
    e.adjudicationDecision = f.adjudicationDecision ∨ e.BothRetry f := by
  simp only [withoutDecision, Fields.mk.injEq] at h
  obtain ⟨hitem, hkind, -, -, -, -, hdigest, -⟩ := h
  cases hsource : e.sourceKind with
  | original =>
    left
    rw [decision_of_original hsource, decision_of_original (hkind ▸ hsource)]
  | authorizedRetry =>
    rcases decision_of_retry hsource with ⟨hnone, he⟩ | ⟨hsome, he⟩
    · rcases decision_of_retry (hkind ▸ hsource) with ⟨-, hf⟩ | ⟨hf, -⟩
      · exact .inl (he.trans hf.symm)
      · simp [← hdigest, hnone] at hf
    · rcases decision_of_retry (hkind ▸ hsource) with ⟨hf, -⟩ | ⟨-, hf⟩
      · simp [hdigest, hf] at hsome
      · exact .inr ⟨hsource, hsome, he, hf⟩
  | unknownAdjudication =>
    left
    rw [decision_of_adjudication hsource, decision_of_adjudication (hkind ▸ hsource), hitem]

end EffectiveItemResolution

/-- Two entries that differ at most in which decision allowed an adjudicated retry. -/
structure RunItemResolution.Same (r s : RunItemResolution) : Prop where
  itemKey : r.itemKey = s.itemKey
  original : r.original = s.original
  effective : r.effective.withoutDecision = s.effective.withoutDecision
  decision : r.effective.adjudicationDecision = s.effective.adjudicationDecision ∨
    r.effective.BothRetry s.effective
  unknownLineageDigest : r.unknownLineageDigest = s.unknownLineageDigest
  aggregationClass : r.aggregationClass = s.aggregationClass

theorem RunItemResolution.payloadFields_inj {r s : RunItemResolution} :
    r.payloadFields = s.payloadFields ↔ r.Same s := by
  simp only [payloadFields, List.cons.injEq, Prod.mk.injEq, true_and, and_true, Json.str.injEq,
    Str.text.injEq, RunItemKey.canonicalPayload_inj, OriginalItemResolution.canonicalPayload_inj,
    EffectiveItemResolution.canonicalPayload_inj, optionalDigestValue_inj,
    ItemAggregationClass.value_inj]
  constructor
  · rintro ⟨hkey, horiginal, heffective, hlineage, hclass⟩
    exact ⟨hkey, horiginal, heffective,
      EffectiveItemResolution.decision_of_withoutDecision heffective, hlineage, hclass⟩
  · intro h
    exact ⟨h.itemKey, h.original, h.effective, h.unknownLineageDigest, h.aggregationClass⟩

namespace RunItemResolutionSet

theorem same_of_entryPayload {r s : RunItemResolution} {p : Json}
    (hr : entryPayload r = .ok p) (hs : entryPayload s = .ok p) : r.Same s := by
  simp only [entryPayload, bind_eq_ok, pure_eq_ok] at hr hs
  obtain ⟨_, -, rfl⟩ := hr
  obtain ⟨_, -, heq⟩ := hs
  rw [← RunItemResolution.payloadFields_inj]
  exact (List.append_inj' (Json.dict.inj heq) rfl).1.symm

theorem entryPayload_congr {r s : RunItemResolution} (h : r.Same s) :
    entryPayload r = entryPayload s := by
  have hfields := RunItemResolution.payloadFields_inj.mpr h
  simp only [entryPayload, RunItemResolution.itemResolutionDigest, hfields]

/-- Two sets with the same envelope and chains whose entries agree one by one. -/
structure Same (A B : RunItemResolutionSet) : Prop where
  envelope : { A.toFields with entries := [] } = { B.toFields with entries := [] }
  entries : List.Forall₂ RunItemResolution.Same A.entries B.entries

theorem same_of_canonicalPayload {A B : RunItemResolutionSet} {p : Json}
    (hA : A.canonicalPayload = .ok p) (hB : B.canonicalPayload = .ok p) : A.Same B := by
  simp only [canonicalPayload, bind_eq_ok, pure_eq_ok] at hA hB
  obtain ⟨as, has, _, -, _, -, rfl⟩ := hA
  obtain ⟨bs, hbs, _, -, _, -, heq⟩ := hB
  simp only [envelopePayload, Json.dict.injEq, List.cons_append, List.nil_append,
    List.cons.injEq, Prod.mk.injEq, true_and, and_true, Json.str.injEq, Str.text.injEq,
    Json.int.injEq, Json.list.injEq, optionalDigestValue_inj, Digest.value_inj] at heq
  obtain ⟨hbatch, hrun, hversion, hmanifest, hplan, hitems, hattempts, hretries, hadjudications,
    rfl, -⟩ := heq
  constructor
  · simp only [Fields.mk.injEq, and_true]
    exact ⟨hbatch.symm, hrun.symm, hversion.symm, hmanifest.symm, hplan.symm, hitems.symm,
      hattempts.symm, hretries.symm, hadjudications.symm⟩
  · refine (forall₂_of_collect has hbs).imp ?_
    rintro r s ⟨_, hr, hs⟩
    exact same_of_entryPayload hr hs

theorem canonicalPayload_congr {A B : RunItemResolutionSet} (h : A.Same B) :
    A.canonicalPayload = B.canonicalPayload := by
  have henvelope := h.envelope
  simp only [Fields.mk.injEq, and_true] at henvelope
  obtain ⟨hbatch, hrun, hversion, hmanifest, hplan, hitems, hattempts, hretries,
    hadjudications⟩ := henvelope
  have hpayload : A.envelopePayload = B.envelopePayload := by
    simp only [envelopePayload, hbatch, hrun, hversion, hmanifest, hplan, hitems]
  have hcollect : collect A.entries entryPayload = collect B.entries entryPayload :=
    collect_congr (h.entries.imp fun _ _ => entryPayload_congr)
  have hmap : ∀ view : RunItemResolution → Json, (∀ r s, r.Same s → view r = view s) →
      A.entries.map view = B.entries.map view := by
    intro view hview
    rw [← List.forall₂_eq_eq_eq, List.forall₂_map_left_iff, List.forall₂_map_right_iff]
    exact h.entries.imp hview
  have horiginal : A.originalResolutionSetDigest = B.originalResolutionSetDigest := by
    simp only [originalResolutionSetDigest, hpayload]
    rw [hmap]
    intro r s hrs
    rw [hrs.itemKey, hrs.original]
  have heffective : A.effectiveResolutionSetDigest = B.effectiveResolutionSetDigest := by
    simp only [effectiveResolutionSetDigest, hpayload]
    rw [hmap]
    intro r s hrs
    rw [hrs.itemKey, EffectiveItemResolution.canonicalPayload_inj.mpr hrs.effective]
  simp only [canonicalPayload, hcollect, horiginal, heffective, hpayload, hattempts, hretries,
    hadjudications, itemCount, h.entries.length_eq]

/-- The hash does not confuse the payloads of two sets. -/
def Apart (A B : RunItemResolutionSet) : Prop :=
  ∀ p q, A.canonicalPayload = .ok p → B.canonicalPayload = .ok q →
    contentDigest "qep.run-item-resolution-set.v1" p =
      contentDigest "qep.run-item-resolution-set.v1" q → p = q

/-- A digest pins its set up to the choice between the two decisions that allow a retry. -/
theorem same_digest_iff {A B : RunItemResolutionSet} {d : Digest}
    (hA : A.resolutionSetDigest = .ok d) (hapart : A.Apart B) :
    B.resolutionSetDigest = .ok d ↔ A.Same B := by
  constructor
  · intro hB
    simp only [resolutionSetDigest, bind_eq_ok, canonicalDigest_eq_ok] at hA hB
    obtain ⟨p, hp, -, hpd⟩ := hA
    obtain ⟨q, hq, -, hqd⟩ := hB
    have hpq := hapart p q hp hq (hpd.trans hqd.symm)
    exact same_of_canonicalPayload hp (hpq ▸ hq)
  · intro h
    rw [← hA, resolutionSetDigest, resolutionSetDigest, canonicalPayload_congr h]

end RunItemResolutionSet

/-- The retried item, had somebody accepted the risk of a duplicate instead of confirming that
the first attempt stopped. -/
def duplicateRiskItem : RunItemResolution :=
  { retriedItem with
    effective := { retriedItem.effective with
      adjudicationDecision := some .acceptDuplicateRiskThenRetry
      accepted := by decide }
    accepted := by decide }

theorem oneRunSet_same : (oneRunSet retriedItem).Same (oneRunSet duplicateRiskItem) where
  envelope := rfl
  entries := .cons ⟨rfl, rfl, rfl, .inr ⟨rfl, rfl, ⟨_, rfl, rfl⟩, ⟨_, rfl, rfl⟩⟩, rfl, rfl⟩ .nil

theorem oneRunSet_apart : (oneRunSet retriedItem).Apart (oneRunSet duplicateRiskItem) := by
  intro p q hp hq _
  rw [RunItemResolutionSet.canonicalPayload_congr oneRunSet_same, hq] at hp
  exact (Except.ok.inj hp).symm

theorem same_digest_iff_retried : ∃ d, (oneRunSet retriedItem).resolutionSetDigest = .ok d ∧
    ((oneRunSet duplicateRiskItem).resolutionSetDigest = .ok d ↔
      (oneRunSet retriedItem).Same (oneRunSet duplicateRiskItem)) := by
  obtain ⟨d, hd⟩ := setDigest_ok (.inl rfl)
  exact ⟨d, hd, RunItemResolutionSet.same_digest_iff hd oneRunSet_apart⟩

/-- Which of the two decisions allowed the retry does not reach the digest. -/
theorem decision_not_pinned : ∃ (A B : RunItemResolutionSet) (d : Digest),
    A.resolutionSetDigest = .ok d ∧ B.resolutionSetDigest = .ok d ∧ A.Apart B ∧
      A.entries.map (·.effective.adjudicationDecision) ≠
        B.entries.map (·.effective.adjudicationDecision) := by
  obtain ⟨d, hd⟩ := setDigest_ok (.inl rfl)
  refine ⟨oneRunSet retriedItem, oneRunSet duplicateRiskItem, d, hd, ?_, oneRunSet_apart,
    by decide⟩
  rw [← hd, RunItemResolutionSet.resolutionSetDigest, RunItemResolutionSet.resolutionSetDigest,
    RunItemResolutionSet.canonicalPayload_congr oneRunSet_same]

end QaRunner
