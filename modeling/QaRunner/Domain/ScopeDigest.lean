import QaRunner.Domain.BatchRebuild
import QaRunner.Domain.BatchDigest
import QaRunner.Domain.ScopeNormalForm

/-! What the digest of a Batch basis says about its cancellation scope. -/
namespace QaRunner
open Guarded

/-- What a scope says about an item: its disposition, and the Run it fans out to. -/
structure ScopeFact where
  itemKey : RunItemKey
  resolutionKind : BatchCancellationResolutionKind
  runId : Option Str
  sourceRunVersion : Option ℤ
  deriving DecidableEq

def BatchCancellationScopeItem.scopeFact (s : BatchCancellationScopeItem) : ScopeFact where
  itemKey := s.manifestItemKey
  resolutionKind := s.resolutionKind
  runId := s.runId
  sourceRunVersion := s.sourceRunVersion

def BatchItemSourceKind.disposition : BatchItemSourceKind → BatchCancellationResolutionKind
  | .runResolution => .runFanout
  | .notExecuted => .notExecuted

/-- What the scope should say about the item of an entry. -/
def BatchItemResolution.scopeFact (e : BatchItemResolution) : ScopeFact where
  itemKey := e.itemKey
  resolutionKind := e.sourceKind.disposition
  runId := e.sourceRunId
  sourceRunVersion := e.sourceRunVersion

/-- Another Run than the one named. -/
def elsewhere (runId : Option Str) : String :=
  if runId = some (.text "run-1") then "run-2" else "run-1"

theorem elsewhere_ne (runId : Option Str) : runId ≠ some (.text (elsewhere runId)) := by
  unfold elsewhere
  split
  · next h => rw [h]; decide
  · next h => exact h

theorem elsewhere_not_blank (runId : Option Str) : isBlank (elsewhere runId) = false := by
  unfold elsewhere
  split <;> decide

namespace BatchCancellationScopeItem
variable {fact : BatchCancellationScopeItem}

/-- The delivery, had it fanned out to another Run. -/
def astray (fact : BatchCancellationScopeItem) : BatchCancellationScopeItem :=
  if hkind : fact.resolutionKind = .runFanout then
    { fact with
      runId := some (.text (elsewhere fact.runId))
      accepted := by
        have h := fact.accepted
        simp only [Fields.postInit, Fields.validateRunBinding, hkind, then_eq_ok,
          requireSomeNonemptyString_eq_ok] at h ⊢
        exact ⟨h.1, h.2.1, h.2.2.1, h.2.2.2.1,
          ⟨⟨_, rfl, elsewhere_not_blank _⟩, h.2.2.2.2.1.2⟩, h.2.2.2.2.2⟩ }
  else fact

theorem astray_of_notExecuted (hkind : fact.resolutionKind = .notExecuted) :
    fact.astray = fact := by
  simp only [astray, hkind, reduceCtorEq, dite_false]

theorem astray_eq (fact : BatchCancellationScopeItem) : fact.astray.envelope = fact.envelope ∧
    fact.astray.manifestItemKey = fact.manifestItemKey ∧
      fact.astray.resolutionKind = fact.resolutionKind := by
  unfold astray
  split
  · exact ⟨rfl, rfl, rfl⟩
  · exact ⟨rfl, rfl, rfl⟩

theorem astray_digest {d : Digest} (h : fact.scopeItemDigest = .ok d) :
    ∃ d', fact.astray.scopeItemDigest = .ok d' := by
  have hdigestible := scopeItemDigest_ok_iff.mp ⟨d, h⟩
  apply scopeItemDigest_ok_iff.mpr
  unfold astray
  split
  · refine { hdigestible with run_id := ?_ }
    rintro _ ⟨⟩
    rfl
  · exact hdigestible

theorem astray_ne (hkind : fact.resolutionKind = .runFanout) :
    fact.astray.scopeFact ≠ fact.scopeFact := by
  intro h
  have hid := congrArg ScopeFact.runId h
  simp only [astray, hkind, dite_true, scopeFact] at hid
  exact elsewhere_ne _ hid.symm

end BatchCancellationScopeItem

namespace BatchItemResolutionSet
variable {s t : BatchItemResolutionSet}

theorem scopeFact_of_entryPayload {e e' : BatchItemResolution} {p : Json}
    (h : entryPayload e = .ok p) (h' : entryPayload e' = .ok p) : e.scopeFact = e'.scopeFact := by
  simp only [entryPayload, bind_eq_ok, pure_eq_ok] at h h'
  obtain ⟨_, -, rfl⟩ := h
  obtain ⟨_, -, heq⟩ := h'
  simp only [BatchItemResolution.payloadFields, Json.dict.injEq, List.cons_append, List.nil_append,
    List.cons.injEq, Prod.mk.injEq, true_and, RunItemKey.canonicalPayload_inj, Json.str.injEq,
    Str.text.injEq, optionalString_inj, optionalInt_inj, BatchItemSourceKind.value_inj] at heq
  obtain ⟨hkey, hkind, hid, hversion, -⟩ := heq
  simp only [BatchItemResolution.scopeFact, hkey, hkind, hid, hversion]

theorem scopeFacts_of_payload {p : Json} (hs : s.canonicalPayload = .ok p)
    (ht : t.canonicalPayload = .ok p) :
    s.entries.map (·.scopeFact) = t.entries.map (·.scopeFact) := by
  simp only [canonicalPayload, bind_eq_ok, pure_eq_ok] at hs ht
  obtain ⟨_, hes, rfl⟩ := hs
  obtain ⟨_, hes', heq⟩ := ht
  simp only [Json.dict.injEq, List.cons.injEq, Prod.mk.injEq, true_and, Json.list.injEq] at heq
  obtain ⟨-, -, -, -, -, -, -, -, rfl, -⟩ := heq
  rw [← List.forall₂_eq_eq_eq, List.forall₂_map_left_iff, List.forall₂_map_right_iff]
  refine (forall₂_of_collect hes hes').imp ?_
  rintro e e' ⟨_, he, he'⟩
  exact scopeFact_of_entryPayload he he'

end BatchItemResolutionSet

namespace BatchFinalizationBasis
variable {b b' : BatchFinalizationBasis} {intentDigest : Digest}
  {canonical : List BatchCancellationScopeItem} {fact : BatchCancellationScopeItem}
  {e : BatchItemResolution}

/-- The canonical cancellation scope; without a cancellation there is nothing to canonicalize. -/
def canonicalScope (b : BatchFinalizationBasis) : Result (List BatchCancellationScopeItem) :=
  match b.evaluation.batchCancellationIntentDigest with
  | none => .ok b.cancellationScopeItems
  | some intentDigest => canonicalizeBatchCancellationScopeItems
      (b.resolutionSet.scopeEnvelope intentDigest) b.resolutionSet.expectedItemKeys
      b.cancellationScopeItems

def scopeFacts (b : BatchFinalizationBasis) : Result (List ScopeFact) := do
  let canonical ← b.canonicalScope
  return canonical.map (·.scopeFact)

theorem items_of_no_intent (hd : b.evaluation.batchCancellationIntentDigest = none) :
    b.cancellationScopeItems = [] := by
  obtain ⟨_, _, h⟩ := b.checked
  have hscope := h.scope
  simpa only [Fields.requireScope, hd, basisInvalidIf_eq_ok, ne_eq, not_not] using hscope

theorem scope_of_intent (hd : b.evaluation.batchCancellationIntentDigest = some intentDigest)
    (hc : b.canonicalScope = .ok canonical) : canonicalizeBatchCancellationScopeItems
      (b.resolutionSet.scopeEnvelope intentDigest) b.resolutionSet.expectedItemKeys
      b.cancellationScopeItems = .ok canonical := by
  simpa only [canonicalScope, hd] using hc

theorem canonicalScope_ok (b : BatchFinalizationBasis) :
    ∃ canonical, b.canonicalScope = .ok canonical := by
  cases hd : b.evaluation.batchCancellationIntentDigest with
  | none => exact ⟨_, by simp only [canonicalScope, hd]; rfl⟩
  | some intentDigest =>
    obtain ⟨canonical, hcanonical, -⟩ := scope_refs hd
    exact ⟨canonical, by simpa only [canonicalScope, hd] using hcanonical⟩

theorem not_executed_entry (hd : b.evaluation.batchCancellationIntentDigest = some intentDigest)
    (hc : b.canonicalScope = .ok canonical) (hf : fact ∈ canonical)
    (hkind : fact.resolutionKind = .notExecuted) (he : e ∈ b.resolutionSet.entries)
    (hkey : e.itemKey = fact.manifestItemKey) :
    BatchItemResolution.fromNotExecuted fact = .ok e := by
  obtain ⟨entry, hfound, hentry⟩ := bound_of_notExecuted hd (scope_of_intent hd hc) hf hkind
  rw [hkind] at hentry
  rw [← hkey, Keyed.find_of_mem b.resolutionSet.keys_nodup he] at hfound
  obtain rfl := Option.some.inj hfound
  exact hentry

/-- A scope has no say in which items ran. -/
theorem kind_of_entry (hd : b.evaluation.batchCancellationIntentDigest = some intentDigest)
    (hc : b.canonicalScope = .ok canonical) (hf : fact ∈ canonical)
    (he : e ∈ b.resolutionSet.entries) (hkey : e.itemKey = fact.manifestItemKey) :
    fact.resolutionKind = e.sourceKind.disposition := by
  cases hkind : fact.resolutionKind with
  | runFanout =>
    rw [run_entry_of_fanout hd (scope_of_intent hd hc) hf hkind he hkey]
    rfl
  | notExecuted =>
    have hentry := not_executed_entry hd hc hf hkind he hkey
    rw [(BatchItemResolution.fromNotExecuted_eq hentry).1]
    rfl

/-- What a scope can say wrong about an item is the Run it fanned out to. -/
theorem scopeFact_eq_iff (hd : b.evaluation.batchCancellationIntentDigest = some intentDigest)
    (hc : b.canonicalScope = .ok canonical) (hf : fact ∈ canonical)
    (he : e ∈ b.resolutionSet.entries) (hkey : e.itemKey = fact.manifestItemKey) :
    fact.scopeFact = e.scopeFact ↔ (fact.resolutionKind = .runFanout →
      ∀ c ∈ b.closuresOf fact.manifestItemKey,
        fact.runId = some c.1.runId ∧ fact.sourceRunVersion = some c.1.sourceRunVersion) := by
  have hdisposition := kind_of_entry hd hc hf he hkey
  simp only [BatchItemResolution.scopeFact, BatchCancellationScopeItem.scopeFact,
    ScopeFact.mk.injEq, hkey, hdisposition, true_and]
  cases hkind : fact.resolutionKind with
  | runFanout =>
    rw [← hdisposition, ← bound_of_fanout_iff hd (scope_of_intent hd hc) hf hkind, Bound, ← hkey,
      Keyed.find_of_mem b.resolutionSet.keys_nodup he]
    have hrun := run_entry_of_fanout hd (scope_of_intent hd hc) hf hkind he hkey
    simp only [hkind, Option.some.injEq, exists_eq_left', hrun, true_and, forall_const]
    rw [eq_comm, eq_comm (a := fact.sourceRunVersion)]
  | notExecuted =>
    obtain ⟨-, hid, hversion⟩ :=
      BatchItemResolution.fromNotExecuted_eq (not_executed_entry hd hc hf hkind he hkey)
    obtain ⟨hid', hversion'⟩ := BatchCancellationScopeItem.run_of_notExecuted hkind
    rw [← hdisposition, hkind, hid, hid', hversion, hversion']
    simp

theorem scope_keys (hd : b.evaluation.batchCancellationIntentDigest = some intentDigest)
    (hc : b.canonicalScope = .ok canonical) :
    canonical.map (·.manifestItemKey) = b.resolutionSet.entries.map (·.itemKey) := by
  rw [(canonicalizeBatchCancellationScopeItems_eq (scope_of_intent hd hc)).1,
    ← b.resolutionSet.keys_ordered, b.resolutionSet.keys_eq]

/-- A canonical scope repeats the entries exactly when its fan-outs name the Runs that closed
their items. -/
theorem scopeFacts_iff (hd : b.evaluation.batchCancellationIntentDigest = some intentDigest) :
    b.scopeFacts = .ok (b.resolutionSet.entries.map (·.scopeFact)) ↔ b.FanoutNamesClosure := by
  obtain ⟨canonical, hc⟩ := b.canonicalScope_ok
  have hcanonical := scope_of_intent hd hc
  have hfirst := (canonicalizeBatchCancellationScopeItems_eq hcanonical).2.1
  simp only [scopeFacts, hc, ok_bind, pure_eq_ok]
  constructor
  · intro hfacts fact hfound
    have hf := (hfirst fact).mpr hfound
    have hmem : fact.scopeFact ∈ b.resolutionSet.entries.map (·.scopeFact) :=
      hfacts ▸ List.mem_map_of_mem hf
    obtain ⟨e, he, hsame⟩ := List.mem_map.mp hmem
    exact (scopeFact_eq_iff hd hc hf he (congrArg ScopeFact.itemKey hsame)).mp hsame.symm
  · intro hnames
    have hkeys := scope_keys hd hc
    rw [← List.forall₂_eq_eq_eq, List.forall₂_map_left_iff, List.forall₂_map_right_iff,
      List.forall₂_iff_zip] at hkeys ⊢
    refine ⟨hkeys.1, fun {fact e} hzip => ?_⟩
    obtain ⟨hf, he⟩ := List.of_mem_zip hzip
    rw [scopeFact_eq_iff hd hc hf he (hkeys.2 hzip).symm]
    exact hnames fact ((hfirst fact).mp hf)

/-- The hash keeps the payloads of two bases, and of their resolution sets, apart. -/
structure Apart (b b' : BatchFinalizationBasis) : Prop where
  basis : ∀ p q, b.canonicalPayload = .ok p → b'.canonicalPayload = .ok q →
    contentDigest "qep.batch-finalization-basis.v1" p =
      contentDigest "qep.batch-finalization-basis.v1" q → p = q
  resolutionSet : ∀ p q, b.resolutionSet.canonicalPayload = .ok p →
    b'.resolutionSet.canonicalPayload = .ok q →
    contentDigest "qep.batch-item-resolution-set.v1" p =
      contentDigest "qep.batch-item-resolution-set.v1" q → p = q

/-- The digest reaches the cancellation and the entries. -/
theorem entries_of_digest {d : Digest} (h : b.basisDigest = .ok d) (h' : b'.basisDigest = .ok d)
    (hapart : b.Apart b') :
    b.evaluation.batchCancellationIntentDigest = b'.evaluation.batchCancellationIntentDigest ∧
      b.resolutionSet.entries.map (·.scopeFact) = b'.resolutionSet.entries.map (·.scopeFact) := by
  simp only [basisDigest, bind_eq_ok, canonicalDigest_eq_ok] at h h'
  obtain ⟨p, hp, -, hpd⟩ := h
  obtain ⟨q, hq, -, hqd⟩ := h'
  obtain rfl := hapart.basis p q hp hq (hpd.trans hqd.symm)
  simp only [canonicalPayload, bind_eq_ok, pure_eq_ok] at hp hq
  obtain ⟨_, -, setDigest, hset, _, -, rfl⟩ := hp
  obtain ⟨_, -, setDigest', hset', _, -, heq⟩ := hq
  simp only [Json.dict.injEq, List.cons.injEq, Prod.mk.injEq, true_and, Json.str.injEq,
    Str.text.injEq, Digest.value_inj, batchCancellationIntentDigest, optionalDigestValue_inj] at heq
  obtain ⟨-, -, -, -, -, -, -, -, -, -, -, -, -, -, rfl, -, -, -, -, -, -, -, -, hintent, -⟩ := heq
  refine ⟨hintent.symm, ?_⟩
  simp only [BatchItemResolutionSet.resolutionSetDigest, bind_eq_ok, canonicalDigest_eq_ok]
    at hset hset'
  obtain ⟨p, hp, -, hpd⟩ := hset
  obtain ⟨q, hq, -, hqd⟩ := hset'
  obtain rfl := hapart.resolutionSet p q hp hq (hpd.trans hqd.symm)
  exact BatchItemResolutionSet.scopeFacts_of_payload hp hq

/-- Next to a basis whose fan-outs name the Runs that closed their items, a basis with the same
digest has the same scope unless its own fan-outs do not. -/
theorem same_scope_iff {d : Digest} (hnames : b.FanoutNamesClosure) (h : b.basisDigest = .ok d)
    (h' : b'.basisDigest = .ok d) (hapart : b.Apart b') :
    b'.scopeFacts = b.scopeFacts ↔ b'.FanoutNamesClosure := by
  obtain ⟨hintent, hentries⟩ := entries_of_digest h h' hapart
  cases hd : b.evaluation.batchCancellationIntentDigest with
  | none =>
    have hd' := hintent.symm.trans hd
    have hempty := items_of_no_intent hd
    have hempty' := items_of_no_intent hd'
    refine iff_of_true ?_ ?_
    · simp only [scopeFacts, canonicalScope, hd, hd', hempty, hempty']
    · intro fact hfact
      rw [hempty'] at hfact
      cases hfact
  | some intentDigest =>
    rw [(scopeFacts_iff hd).mpr hnames, hentries]
    exact scopeFacts_iff (hintent.symm.trans hd)

/-- Sending every fan-out of a canonical scope astray leaves a canonical scope. -/
theorem astray_canonical (hd : b.evaluation.batchCancellationIntentDigest = some intentDigest)
    (hc : b.canonicalScope = .ok canonical) : canonicalizeBatchCancellationScopeItems
      (b.resolutionSet.scopeEnvelope intentDigest) b.resolutionSet.expectedItemKeys
      (canonical.map (·.astray)) = .ok (canonical.map (·.astray)) := by
  have hcanonical := scope_of_intent hd hc
  apply canonicalize_of_canonical hcanonical
  · rw [List.map_map]
    exact List.map_congr_left fun fact _ => fact.astray_eq.2.1
  · intro fact hf
    obtain ⟨origin, hmem, rfl⟩ := List.mem_map.mp hf
    rw [origin.astray_eq.1]
    exact (canonicalizeBatchCancellationScopeItems_eq hcanonical).2.2 origin hmem
  · intro fact hf
    obtain ⟨origin, hmem, rfl⟩ := List.mem_map.mp hf
    obtain ⟨d, hdigest⟩ := digest_of_canonical hcanonical origin hmem
    exact BatchCancellationScopeItem.astray_digest hdigest

/-- The facts about items that never ran are the same in the scope gone astray. -/
theorem astray_filter : (canonical.map (·.astray)).filter (·.resolutionKind = .notExecuted) =
    canonical.filter (·.resolutionKind = .notExecuted) := by
  induction canonical with
  | nil => rfl
  | cons fact facts ih =>
    simp only [List.map_cons, List.filter_cons, fact.astray_eq.2.2, ih]
    split
    · next hkind =>
      rw [BatchCancellationScopeItem.astray_of_notExecuted (of_decide_eq_true hkind)]
    · rfl

/-- The basis with its scope gone astray. -/
def strayed (b : BatchFinalizationBasis) (canonical : List BatchCancellationScopeItem) : Fields :=
  { b.toFields with cancellationScopeItems := canonical.map (·.astray) }

/-- No check of a basis looks at the Run of a fan-out. -/
theorem strayed_accepted (hd : b.evaluation.batchCancellationIntentDigest = some intentDigest)
    (hc : b.canonicalScope = .ok canonical) : (b.strayed canonical).postInit = .ok () := by
  obtain ⟨derived, terminalRefs, h⟩ := b.checked
  obtain ⟨canonical', hcanonical, hrefs⟩ := scope_refs hd
  obtain rfl := Except.ok.inj ((scope_of_intent hd hc).symm.trans hcanonical)
  refine Fields.postInit_eq_ok.mpr ⟨derived, terminalRefs, { h with scope := ?_ }⟩
  simp only [strayed, Fields.requireScope, hd, astray_canonical hd hc, astray_filter, hrefs,
    ok_bind, basisInvalidIf_eq_ok, ne_eq, not_true_eq_false, not_false_eq_true]

/-- Some fact of the canonical scope fans out to a Run. -/
def FansOut (b : BatchFinalizationBasis) : Prop :=
  ∃ canonical, b.canonicalScope = .ok canonical ∧
    ∃ fact ∈ canonical, fact.resolutionKind = .runFanout

/-- A fan-out can name another Run without the digest or the completeness proof noticing. -/
theorem astray_exists (hfans : b.FansOut) : ∃ b' : BatchFinalizationBasis,
    b'.canonicalPayload = b.canonicalPayload ∧ b'.resolutionSet = b.resolutionSet ∧
      b'.scopeFacts ≠ b.scopeFacts := by
  obtain ⟨canonical, hc, fact, hf, hkind⟩ := hfans
  cases hd : b.evaluation.batchCancellationIntentDigest with
  | none =>
    simp only [canonicalScope, hd, items_of_no_intent hd] at hc
    obtain rfl := Except.ok.inj hc
    cases hf
  | some intentDigest =>
    refine ⟨⟨_, strayed_accepted hd hc⟩, rfl, rfl, ?_⟩
    have hc' : canonicalScope ⟨_, strayed_accepted hd hc⟩ = .ok (canonical.map (·.astray)) := by
      simp only [canonicalScope, strayed, hd]
      exact astray_canonical hd hc
    simp only [scopeFacts, hc, hc', ok_bind]
    intro hsame
    have hmap := Except.ok.inj hsame
    rw [List.map_map, List.map_inj_left] at hmap
    exact BatchCancellationScopeItem.astray_ne hkind (hmap fact hf)

theorem names_of_not_fansOut (hfans : ¬ b.FansOut) : b.FanoutNamesClosure := by
  intro fact hfound hkind
  obtain ⟨canonical, hc⟩ := b.canonicalScope_ok
  cases hd : b.evaluation.batchCancellationIntentDigest with
  | none =>
    rw [items_of_no_intent hd] at hfound
    cases hfound
  | some intentDigest =>
    have hfirst := (canonicalizeBatchCancellationScopeItems_eq (scope_of_intent hd hc)).2.1
    exact (hfans ⟨canonical, hc, fact, (hfirst fact).mpr hfound, hkind⟩).elim

/-- Whether a scope fans out can be read off the entries. -/
theorem fansOut_iff (hd : b.evaluation.batchCancellationIntentDigest = some intentDigest) :
    b.FansOut ↔ ∃ s ∈ b.resolutionSet.entries.map (·.scopeFact), s.resolutionKind = .runFanout := by
  constructor
  · rintro ⟨canonical, hc, fact, hf, hkind⟩
    obtain ⟨e, he, hkey⟩ := entry_of_fact (scope_of_intent hd hc) hf
    exact ⟨_, List.mem_map_of_mem he, (kind_of_entry hd hc hf he hkey).symm.trans hkind⟩
  · rintro ⟨_, hs, hkind⟩
    obtain ⟨e, he, rfl⟩ := List.mem_map.mp hs
    obtain ⟨canonical, hc⟩ := b.canonicalScope_ok
    have hmem : e.itemKey ∈ canonical.map (·.manifestItemKey) :=
      scope_keys hd hc ▸ List.mem_map_of_mem he
    obtain ⟨fact, hf, hkey⟩ := List.mem_map.mp hmem
    exact ⟨canonical, hc, fact, hf, (kind_of_entry hd hc hf he hkey.symm).trans hkind⟩

theorem fansOut_congr {d : Digest} (h : b.basisDigest = .ok d) (h' : b'.basisDigest = .ok d)
    (hapart : b.Apart b') (hfans : b'.FansOut) : b.FansOut := by
  obtain ⟨hintent, hentries⟩ := entries_of_digest h h' hapart
  cases hd' : b'.evaluation.batchCancellationIntentDigest with
  | none =>
    obtain ⟨canonical, hc, fact, hf, -⟩ := hfans
    simp only [canonicalScope, hd', items_of_no_intent hd'] at hc
    obtain rfl := Except.ok.inj hc
    cases hf
  | some intentDigest =>
    rw [fansOut_iff (hintent.trans hd'), hentries]
    exact (fansOut_iff hd').mp hfans

/-- The digest of a basis binds its scope exactly when no fact fans out to a Run. Among bases
whose fan-outs name the Runs that closed their items, as `build` demands, it always does. -/
theorem scope_bound_iff {d : Digest} (h : b.basisDigest = .ok d) :
    ((∀ b' : BatchFinalizationBasis, b'.basisDigest = .ok d → b.Apart b' →
      b'.scopeFacts = b.scopeFacts) ↔ ¬ b.FansOut) ∧
    (b.FanoutNamesClosure → ∀ b' : BatchFinalizationBasis, b'.basisDigest = .ok d → b.Apart b' →
      (b'.scopeFacts = b.scopeFacts ↔ b'.FanoutNamesClosure)) := by
  refine ⟨⟨fun hbound hfans => ?_, fun hfans b' h' hapart => ?_⟩,
    fun hnames b' h' hapart => same_scope_iff hnames h h' hapart⟩
  · obtain ⟨b', hpayload, hset, hdiffers⟩ := astray_exists hfans
    have h' : b'.basisDigest = .ok d := by
      rw [← h, basisDigest, basisDigest, hpayload]
    refine hdiffers (hbound b' h' ⟨fun p q hp hq _ => ?_, fun p q hp hq _ => ?_⟩)
    · exact Except.ok.inj (hp.symm.trans (hpayload ▸ hq))
    · exact Except.ok.inj (hp.symm.trans (hset ▸ hq))
  · rw [same_scope_iff (names_of_not_fansOut hfans) h h' hapart]
    exact names_of_not_fansOut (mt (fansOut_congr h h' hapart) hfans)

/-- A cancelled Batch whose one Run was told to stop, and the same Batch with the delivery to a
Run that has nothing to do with the item. -/
theorem fanout_pair : ∃ (b b' : BatchFinalizationBasis) (d : Digest),
    b.basisDigest = .ok d ∧ b'.basisDigest = .ok d ∧
      b'.completenessProofDigest = b.completenessProofDigest ∧ b.Apart b' ∧
      b.cancellationScopeItems = [fanout "run-1" (by decide)] ∧
      b'.cancellationScopeItems = [fanout "run-2" (by decide)] ∧
      b.FanoutNamesClosure ∧ ¬ b'.FanoutNamesClosure := by
  obtain ⟨f, hsets, -, -, -, -, hsafe, haccepted⟩ := sampled_accepted (Or.inl rfl)
  have hsafe' : Fields.Safe { f with cancellationScopeItems := [fanout "run-1" (by decide)] } :=
    { hsafe with }
  obtain ⟨d, hd⟩ := basisDigest_ok (b := ⟨_, haccepted "run-1" (by decide)⟩) hsafe'
  refine ⟨⟨_, haccepted "run-1" (by decide)⟩, ⟨_, haccepted "run-2" (by decide)⟩, d, hd, hd, rfl,
    ⟨fun p q hp hq _ => ?_, fun p q hp hq _ => ?_⟩, rfl, rfl, ?_, fun hnames => ?_⟩
  · exact Except.ok.inj (hp.symm.trans hq)
  · exact Except.ok.inj (hp.symm.trans hq)
  · intro fact hfound _ c hc
    obtain rfl := List.mem_singleton.mp (List.mem_of_find?_eq_some hfound)
    have hrun := (mem_closures.mp (List.mem_filter.mp hc).1).1
    rw [hsets] at hrun
    rw [List.mem_singleton.mp hrun]
    exact ⟨rfl, rfl⟩
  · have hnamed := hnames (fanout "run-2" (by decide)) (by simp) rfl
      (oneRunSet retriedItem, retriedItem)
      (by simp [closuresOf, closures, hsets, oneRunSet]; decide)
    exact absurd hnamed.1 (by decide)

theorem scope_bound_iff_fanout : ∃ (b : BatchFinalizationBasis) (d : Digest),
    b.basisDigest = .ok d ∧ b.cancellationScopeItems = [fanout "run-1" (by decide)] ∧
    ((∀ b' : BatchFinalizationBasis, b'.basisDigest = .ok d → b.Apart b' →
      b'.scopeFacts = b.scopeFacts) ↔ ¬ b.FansOut) := by
  obtain ⟨b, _, d, hd, -, -, -, hitems, -⟩ := fanout_pair
  exact ⟨b, d, hd, hitems, (scope_bound_iff hd).1⟩

/-- Neither the digest nor the completeness proof notices which Run the delivery names. -/
theorem altered_fanout : ∃ (b b' : BatchFinalizationBasis) (d : Digest),
    b.basisDigest = .ok d ∧ b'.basisDigest = .ok d ∧
      b'.completenessProofDigest = b.completenessProofDigest ∧ b.Apart b' ∧
      b.cancellationScopeItems = [fanout "run-1" (by decide)] ∧
      b'.cancellationScopeItems = [fanout "run-2" (by decide)] ∧ b'.scopeFacts ≠ b.scopeFacts := by
  obtain ⟨b, b', d, h, h', hproof, hapart, hitems, hitems', hnames, hstray⟩ := fanout_pair
  refine ⟨b, b', d, h, h', hproof, hapart, hitems, hitems', fun hsame => ?_⟩
  exact hstray ((same_scope_iff hnames h h' hapart).mp hsame)

end BatchFinalizationBasis

end QaRunner
