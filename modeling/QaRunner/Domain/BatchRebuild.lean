import QaRunner.Domain.BatchCoverage

/-! The two doors of a Batch basis: which accepted values `build` makes of their own components. -/
namespace QaRunner
open Guarded

namespace BatchFinalizationBasis
variable {resolutionSet : BatchItemResolutionSet} {basis : RunFinalizationBasis}
  {runSet : RunItemResolutionSet} {item : RunItemResolution} {items : List RunItemResolution}
  {bases : List (Str × RunFinalizationBasis)} {run : Str × RunItemResolutionSet}
  {runs : List (Str × RunItemResolutionSet)} {d d' : RunDerivation}
  (terminalRefs : List BatchTerminalRunRef)

/-- The two doors ask for the lineage of an item in different places and agree on it. -/
theorem isUnknown_eq {entry : BatchItemResolution}
    (h : BatchItemResolution.fromRunResolution basis runSet item = .ok entry) :
    buildRules.isUnknown item entry = postInitRules.isUnknown item entry := by
  have hclass := (BatchItemResolution.fromRunResolution_eq h).2.2.2.2
  have hlineage := item.unknownLineage_iff
  simp only [buildRules, postInitRules, hclass]
  cases hc : item.aggregationClass <;>
    simp_all [ItemAggregationClass.classification]

theorem deriveItem_build (h : deriveItem postInitRules basis runSet d item = .ok d') :
    deriveItem buildRules basis runSet { d with terminalRunRefs := terminalRefs } item =
      .ok { d' with terminalRunRefs := terminalRefs } := by
  obtain ⟨entry, hentry, hfresh, hcase⟩ := deriveItem_eq_ok.mp h
  refine deriveItem_eq_ok.mpr ⟨entry, hentry, hfresh, ?_⟩
  rw [isUnknown_eq hentry]
  rcases hcase with ⟨hunknown, ref, href, rfl⟩ | ⟨hknown, rfl⟩
  · exact Or.inl ⟨hunknown, ref, href, rfl⟩
  · exact Or.inr ⟨hknown, rfl⟩

theorem deriveItems_build (h : deriveItems postInitRules basis runSet d items = .ok d') :
    deriveItems buildRules basis runSet { d with terminalRunRefs := terminalRefs } items =
      .ok { d' with terminalRunRefs := terminalRefs } := by
  induction items generalizing d with
  | nil =>
    cases h
    rfl
  | cons item items ih =>
    simp only [deriveItems, bind_eq_ok] at h ⊢
    obtain ⟨d₁, hitem, hitems⟩ := h
    exact ⟨_, deriveItem_build terminalRefs hitem, ih hitems⟩

/-- The reference to a Run, found through its id. -/
def RefOf (bases : List (Str × RunFinalizationBasis)) (run : Str × RunItemResolutionSet)
    (ref : BatchTerminalRunRef) : Prop :=
  ∃ found, bases.find? (·.1 = run.1) = some found ∧ BatchTerminalRunRef.fromBasis found.2 = .ok ref

theorem deriveRun_build
    (hrefs : ∀ run ∈ bases, ∃ ref, BatchTerminalRunRef.fromBasis run.2 = .ok ref)
    (h : deriveRun postInitRules resolutionSet bases d run = .ok d') : ∃ ref, RefOf bases run ref ∧
    deriveRun buildRules resolutionSet bases { d with terminalRunRefs := terminalRefs } run =
      .ok { d' with terminalRunRefs := terminalRefs ++ [ref] } := by
  obtain ⟨found, hfound, henvelope, refs, hnone, hitems⟩ := deriveRun_eq_ok.mp h
  obtain ⟨ref, href⟩ := hrefs found (List.mem_of_find?_eq_some hfound)
  have hbuilds := deriveItems_build (terminalRefs ++ [ref]) hitems
  refine ⟨ref, ⟨found, hfound, href⟩, deriveRun_eq_ok.mpr ⟨found, hfound, henvelope, [ref], ?_, ?_⟩⟩
  · simp only [buildRules, href, ok_bind]
    rfl
  · exact hbuilds

/-- What construction derives from the Runs, `build` derives too, with a reference to each. -/
theorem deriveRuns_build
    (hrefs : ∀ run ∈ bases, ∃ ref, BatchTerminalRunRef.fromBasis run.2 = .ok ref)
    (h : deriveRuns postInitRules resolutionSet bases d runs = .ok d') : ∃ refs,
    List.Forall₂ (RefOf bases) runs refs ∧
      deriveRuns buildRules resolutionSet bases { d with terminalRunRefs := terminalRefs } runs =
        .ok { d' with terminalRunRefs := terminalRefs ++ refs } := by
  induction runs generalizing d terminalRefs with
  | nil =>
    cases h
    exact ⟨[], .nil, by rw [List.append_nil]; rfl⟩
  | cons run runs ih =>
    simp only [deriveRuns, bind_eq_ok] at h ⊢
    obtain ⟨d₁, hrun, hruns⟩ := h
    obtain ⟨ref, href, hbuild⟩ := deriveRun_build terminalRefs hrefs hrun
    obtain ⟨refs, hrest, hbuilds⟩ := ih (terminalRefs ++ [ref]) hruns
    refine ⟨ref :: refs, .cons href hrest, _, hbuild, ?_⟩
    rw [hbuilds, List.append_assoc, List.singleton_append]

/-- What `build` asks of a delivered fact and the entry of its item. -/
def Bound (entries : List BatchItemResolution) (fact : BatchCancellationScopeItem) : Prop :=
  ∃ entry, entries.find? (·.itemKey = fact.manifestItemKey) = some entry ∧
    match fact.resolutionKind with
    | .notExecuted => BatchItemResolution.fromNotExecuted fact = .ok entry
    | .runFanout => entry.sourceKind = .runResolution ∧ entry.sourceRunId = fact.runId ∧
        entry.sourceRunVersion = fact.sourceRunVersion

theorem bindScope_eq_ok {entries : List BatchItemResolution}
    {facts : List BatchCancellationScopeItem} {refs : List BatchNonRunResolutionRef} :
    bindScope entries facts = .ok refs ↔ (∀ fact ∈ facts, Bound entries fact) ∧
      collect (facts.filter (·.resolutionKind = .notExecuted))
        BatchNonRunResolutionRef.fromScopeItem = .ok refs := by
  induction facts generalizing refs with
  | nil => simp only [bindScope, List.not_mem_nil, false_imp_iff, implies_true, true_and,
      List.filter_nil, collect]
  | cons fact facts ih =>
    simp only [bindScope, bind_eq_ok, need_eq_ok, List.forall_mem_cons, List.filter_cons, Bound]
    cases hkind : fact.resolutionKind with
    | notExecuted =>
      simp only [bind_eq_ok, exists_unit, basisInvalidIf_eq_ok, ne_eq, not_not, pure_eq_ok, ih,
        decide_true, if_true, collect]
      constructor
      · rintro ⟨entry, hfound, _, hentry, rfl, ref, href, refs', ⟨hbound, hrefs⟩, rfl⟩
        exact ⟨⟨⟨entry, hfound, hentry⟩, hbound⟩, ref, href, refs', hrefs, rfl⟩
      · rintro ⟨⟨⟨entry, hfound, hentry⟩, hbound⟩, ref, href, refs', hrefs, rfl⟩
        exact ⟨entry, hfound, _, hentry, rfl, ref, href, refs', ⟨hbound, hrefs⟩, rfl⟩
    | runFanout =>
      simp only [bind_eq_ok, exists_unit, basisInvalidIf_eq_ok, not_or, ne_eq, not_not, ih,
        reduceCtorEq, decide_false, Bool.false_eq_true, if_false]
      constructor
      · rintro ⟨entry, hfound, hmatch, hbound, hrefs⟩
        exact ⟨⟨⟨entry, hfound, hmatch⟩, hbound⟩, hrefs⟩
      · rintro ⟨⟨⟨entry, hfound, hmatch⟩, hbound⟩, hrefs⟩
        exact ⟨entry, hfound, hmatch, hbound, hrefs⟩

variable {b : BatchFinalizationBasis} {intentDigest : Digest}
  {canonical : List BatchCancellationScopeItem} {fact : BatchCancellationScopeItem}

/-- Every fact of the canonical scope is about an item of the manifest. -/
theorem entry_of_fact (hcanonical : canonicalizeBatchCancellationScopeItems
      (b.resolutionSet.scopeEnvelope intentDigest) b.resolutionSet.expectedItemKeys
      b.cancellationScopeItems = .ok canonical) (hf : fact ∈ canonical) :
    ∃ e ∈ b.resolutionSet.entries, e.itemKey = fact.manifestItemKey := by
  obtain ⟨hkeys, -, -⟩ := canonicalizeBatchCancellationScopeItems_eq hcanonical
  have hmem : fact.manifestItemKey ∈ canonical.map (·.manifestItemKey) :=
    List.mem_map.mpr ⟨fact, hf, rfl⟩
  rw [hkeys, Sorting.mem_sortOn, ← b.resolutionSet.keys_eq] at hmem
  exact List.mem_map.mp hmem

/-- A delivered fact that an item was not executed always agrees with its entry. -/
theorem bound_of_notExecuted (hd : b.evaluation.batchCancellationIntentDigest = some intentDigest)
    (hcanonical : canonicalizeBatchCancellationScopeItems
      (b.resolutionSet.scopeEnvelope intentDigest) b.resolutionSet.expectedItemKeys
      b.cancellationScopeItems = .ok canonical) (hf : fact ∈ canonical)
    (hkind : fact.resolutionKind = .notExecuted) : Bound b.resolutionSet.entries fact := by
  obtain ⟨canonical', hcanonical', hrefs⟩ := scope_refs hd
  obtain rfl := Except.ok.inj (hcanonical.symm.trans hcanonical')
  obtain ⟨ref, hr, href⟩ := exists_of_mem_left (collect_eq_ok.mp hrefs) fact
    (List.mem_filter.mpr ⟨hf, decide_eq_true hkind⟩)
  obtain ⟨-, hkey, hdigest⟩ := BatchNonRunResolutionRef.fromScopeItem_eq href
  obtain ⟨e, he, hsource, hekey, hedigest⟩ := non_run_ref_iff.mp ⟨ref, hr, rfl, rfl⟩
  have hentryKey : e.itemKey = fact.manifestItemKey := hekey.trans hkey
  refine ⟨e, hentryKey ▸ Keyed.find_of_mem b.resolutionSet.keys_nodup he, ?_⟩
  obtain ⟨-, digest, hfact, hfields⟩ := e.notExecuted_fields hsource
  obtain rfl : digest = ref.notExecutedFactDigest := Option.some.inj (hfact.symm.trans hedigest)
  have haccepted := e.accepted
  simp only [hkind, BatchItemResolution.fromNotExecuted, hdigest, ok_bind, bind_eq_ok, exists_unit,
    invalidIf_eq_ok, ne_eq, not_true, not_false_eq_true, true_and, BatchItemResolution.new,
    construct_eq_ok]
  rw [hentryKey] at hfields
  exact ⟨hfields ▸ haccepted, by cases e; cases hfields; rfl⟩

/-- An item with a delivered fan-out is resolved by a Run: its not-executed fact would be a
second fact about it. -/
theorem run_entry_of_fanout (hd : b.evaluation.batchCancellationIntentDigest = some intentDigest)
    (hcanonical : canonicalizeBatchCancellationScopeItems
      (b.resolutionSet.scopeEnvelope intentDigest) b.resolutionSet.expectedItemKeys
      b.cancellationScopeItems = .ok canonical) (hf : fact ∈ canonical)
    (hkind : fact.resolutionKind = .runFanout) {e : BatchItemResolution}
    (he : e ∈ b.resolutionSet.entries) (hkey : e.itemKey = fact.manifestItemKey) :
    e.sourceKind = .runResolution := by
  by_contra hne
  have hsource : e.sourceKind = .notExecuted := by
    cases hk : e.sourceKind with
    | runResolution => exact absurd hk hne
    | notExecuted => rfl
  obtain ⟨ref, hr, hrk⟩ := ref_of_entry he hsource
  obtain ⟨canonical', hcanonical', hrefs⟩ := scope_refs hd
  obtain rfl := Except.ok.inj (hcanonical.symm.trans hcanonical')
  obtain ⟨fact', hf', href⟩ := exists_of_mem_right (collect_eq_ok.mp hrefs) ref hr
  obtain ⟨hkind', hkey', -⟩ := BatchNonRunResolutionRef.fromScopeItem_eq href
  obtain ⟨hkeys, -, -⟩ := canonicalizeBatchCancellationScopeItems_eq hcanonical
  have hnodup : (canonical.map (·.manifestItemKey)).Nodup := by
    rw [hkeys, (Sorting.sortOn_perm id _).nodup_iff, ← b.resolutionSet.keys_eq]
    exact b.resolutionSet.keys_nodup
  have hsame : fact' = fact := Keyed.eq_of_key hnodup (List.mem_filter.mp hf').1 hf
    (hkey'.symm.trans (hrk.trans hkey))
  rw [hsame, hkind] at hkind'
  cases hkind'

/-- The first delivery of every fan-out names the Run closure that resolves its item. -/
def FanoutNamesClosure (b : BatchFinalizationBasis) : Prop :=
  ∀ fact, b.cancellationScopeItems.find? (fun i => i.deliveryKey = fact.deliveryKey) = some fact →
    fact.resolutionKind = .runFanout → ∀ c ∈ b.closuresOf fact.manifestItemKey,
      fact.runId = some c.1.runId ∧ fact.sourceRunVersion = some c.1.sourceRunVersion

theorem bound_of_fanout_iff (hd : b.evaluation.batchCancellationIntentDigest = some intentDigest)
    (hcanonical : canonicalizeBatchCancellationScopeItems
      (b.resolutionSet.scopeEnvelope intentDigest) b.resolutionSet.expectedItemKeys
      b.cancellationScopeItems = .ok canonical) (hf : fact ∈ canonical)
    (hkind : fact.resolutionKind = .runFanout) :
    Bound b.resolutionSet.entries fact ↔ ∀ c ∈ b.closuresOf fact.manifestItemKey,
      fact.runId = some c.1.runId ∧ fact.sourceRunVersion = some c.1.sourceRunVersion := by
  obtain ⟨e, he, hkey⟩ := entry_of_fact hcanonical hf
  have hrun := run_entry_of_fanout hd hcanonical hf hkind he hkey
  obtain ⟨c, hc, hck, hid, hversion, -⟩ := closure_of_entry he hrun
  have hclosures : b.closuresOf fact.manifestItemKey = [c] := by
    rw [← hkey, ← hck]
    exact Keyed.filter_of_mem b.closures_nodup hc
  have hfound : b.resolutionSet.entries.find? (·.itemKey = fact.manifestItemKey) = some e :=
    hkey ▸ Keyed.find_of_mem b.resolutionSet.keys_nodup he
  simp only [Bound, hfound, Option.some.injEq, exists_eq_left', hkind, hrun, hid, hversion,
    true_and, hclosures, List.mem_singleton, forall_eq]
  rw [eq_comm, eq_comm (a := some c.1.sourceRunVersion)]

/-- `build` derives the stored references, when the fan-outs let it. -/
theorem buildNonRunRefs_eq_ok (b : BatchFinalizationBasis) {refs : List BatchNonRunResolutionRef} :
    buildNonRunRefs b.resolutionSet b.cancellationScopeItems
        b.evaluation.batchCancellationIntentDigest = .ok refs ↔
      refs = b.nonRunRefs ∧ b.FanoutNamesClosure := by
  cases hd : b.evaluation.batchCancellationIntentDigest with
  | none =>
    obtain ⟨_, _, h⟩ := b.checked
    have hscope := h.scope
    simp only [Fields.requireScope, hd, basisInvalidIf_eq_ok, ne_eq, not_not] at hscope
    have hrefs : b.nonRunRefs = [] := by
      apply List.eq_nil_iff_forall_not_mem.mpr
      intro ref hr
      obtain ⟨e, he, hsource, -⟩ := entry_of_ref hr
      obtain ⟨intentDigest, hsome⟩ := intent_of_not_executed he hsource
      simp [hd] at hsome
    have hnames : b.FanoutNamesClosure := by
      intro fact hfact
      rw [hscope] at hfact
      cases hfact
    simp only [buildNonRunRefs, then_eq_ok, basisInvalidIf_eq_ok, ne_eq, not_not, hscope,
      pure_eq_ok, true_and, hrefs, hnames, and_true]
    exact eq_comm
  | some intentDigest =>
    obtain ⟨canonical, hcanonical, hrefs⟩ := scope_refs hd
    obtain ⟨-, hfirst, -⟩ := canonicalizeBatchCancellationScopeItems_eq hcanonical
    simp only [buildNonRunRefs, hcanonical, ok_bind, bindScope_eq_ok, hrefs, Except.ok.injEq]
    rw [and_comm, eq_comm]
    refine and_congr_right fun _ => ⟨fun hbound fact hfact hkind => ?_, fun hnames fact hf => ?_⟩
    · have hf := (hfirst fact).mpr hfact
      exact (bound_of_fanout_iff hd hcanonical hf hkind).mp (hbound fact hf)
    · cases hkind : fact.resolutionKind with
      | notExecuted => exact bound_of_notExecuted hd hcanonical hf hkind
      | runFanout =>
        exact (bound_of_fanout_iff hd hcanonical hf hkind).mpr
          (hnames fact ((hfirst fact).mp hf) hkind)

/-- The Runs are the same through either list, so their references are too. -/
theorem terminal_refs_of_runs (b : BatchFinalizationBasis) {refs : List BatchTerminalRunRef}
    (h : List.Forall₂ (RefOf b.basesById) b.runSetsById refs) :
    Sorting.sortOn (·.runId) refs = b.terminalRunRefs := by
  obtain ⟨_, terminalRefs, hb⟩ := b.checked
  have hcollected := collect_eq_ok.mp hb.terminal_collected
  have hbasis : ∀ run ∈ b.basesById, run.2 ∈ b.runBases ∧ run.1 = run.2.runId := by
    intro run hrun
    obtain ⟨basis, hmem, rfl⟩ := List.mem_map.mp hrun
    exact ⟨hmem, rfl⟩
  have hrunIds : refs.map (·.runId) = b.runResolutionSets.map (·.runId) := by
    have hids : List.Forall₂ (fun ref id => ref.runId = id) refs
        (b.runResolutionSets.map (·.runId)) := by
      rw [Fields.runSetsById, List.forall₂_map_left_iff] at h
      apply List.forall₂_map_right_iff.mpr (h.flip.imp _)
      rintro ref s ⟨found, hfound, href⟩
      have hid := Keyed.find_some hfound
      rw [BatchTerminalRunRef.fromBasis_runId href, ← (hbasis found hid.1).2, hid.2]
    exact List.forall₂_eq_eq_eq ▸ List.forall₂_map_left_iff.mpr hids
  have hbaseIds : terminalRefs.map (·.runId) = b.runBases.map (·.runId) := by
    apply List.forall₂_eq_eq_eq ▸ List.forall₂_map_left_iff.mpr (List.forall₂_map_right_iff.mpr _)
    exact hcollected.flip.imp fun ref basis href => BatchTerminalRunRef.fromBasis_runId href
  have hsame : Keyed.SameElements refs terminalRefs := by
    constructor
    · intro ref hr
      obtain ⟨run, -, found, hfound, href⟩ := exists_of_mem_right h ref hr
      have hmem := (hbasis found (List.mem_of_find?_eq_some hfound)).1
      obtain ⟨ref', hr', href'⟩ := exists_of_mem_left hcollected found.2 hmem
      obtain rfl := Except.ok.inj (href.symm.trans href')
      exact hr'
    · intro ref hr
      obtain ⟨basis, hmem, href⟩ := exists_of_mem_right hcollected ref hr
      have hid := (hb.same_runs.2 basis.runId (List.mem_map.mpr ⟨basis, hmem, rfl⟩))
      obtain ⟨s, hs, hsid⟩ := List.mem_map.mp hid
      obtain ⟨ref', hr', found, hfound, href'⟩ :=
        exists_of_mem_left h (s.runId, s) (List.mem_map.mpr ⟨s, hs, rfl⟩)
      obtain ⟨hfmem, hfid⟩ := Keyed.find_some hfound
      obtain ⟨hmem', hid'⟩ := hbasis found hfmem
      have hbasisEq : found.2 = basis :=
        Keyed.eq_of_key hb.runBases_nodup hmem' hmem (hid'.symm.trans (hfid.trans hsid))
      rw [hbasisEq] at href'
      obtain rfl := Except.ok.inj (href.symm.trans href')
      exact hr'
  have hnodup : (refs.map (·.runId)).Nodup := hrunIds ▸ hb.runSets_nodup
  have hnodup' : (terminalRefs.map (·.runId)).Nodup := hbaseIds ▸ hb.runBases_nodup
  rw [hb.terminal_refs]
  exact Sorting.sortOn_eq_of_perm (hsame.perm (hnodup.of_map _) (hnodup'.of_map _)) hnodup

theorem non_run_length (b : BatchFinalizationBasis) :
    b.nonRunRefs.length = b.resolutionSet.notExecutedEntries.length := by
  obtain ⟨_, _, h⟩ := b.checked
  have hrefs : (b.nonRunRefs.map fun ref =>
      (ref.itemKey, some ref.notExecutedFactDigest)).Nodup := by
    apply List.Nodup.of_map Prod.fst
    rw [List.map_map]
    exact b.non_run_refs_nodup
  have hentries : (b.resolutionSet.notExecutedEntries.map fun e =>
      (e.itemKey, e.notExecutedFactDigest)).Nodup := by
    apply List.Nodup.of_map Prod.fst
    rw [List.map_map]
    exact b.resolutionSet.keys_nodup.sublist (List.filter_sublist.map _)
  simpa using (h.non_run_facts.perm hrefs hentries).length_eq

/-- `build` on the components of a basis. -/
def rebuild (b : BatchFinalizationBasis) : Result BatchFinalizationBasis :=
  build b.resolutionSet b.runResolutionSets b.runBases b.cancellationScopeItems b.policy
    b.evaluation

theorem fanoutNamesClosure_of_rebuild {b' : BatchFinalizationBasis} (h : b.rebuild = .ok b') :
    b.FanoutNamesClosure := by
  simp only [rebuild, build, bind_eq_ok] at h
  obtain ⟨_, -, _, -, _, -, _, -, _, -, _, -, _, -, _, -, _, -, _, -, _, -, _, -, refs, hnon, -⟩ :=
    h
  exact ((buildNonRunRefs_eq_ok b).mp hnon).2

/-- The two doors differ in one check: `build` looks at the Run a fan-out names. -/
theorem rebuild_iff (b : BatchFinalizationBasis) : b.rebuild = .ok b ↔ b.FanoutNamesClosure := by
  obtain ⟨derived, terminalRefs, h⟩ := b.checked
  obtain ⟨-, hpolicy, hcounts, -⟩ := evaluateBatchOutcome_eq h.evaluates
  have hbasis : ∀ run ∈ b.basesById, ∃ ref, BatchTerminalRunRef.fromBasis run.2 = .ok ref := by
    intro run hrun
    obtain ⟨basis, hmem, rfl⟩ := List.mem_map.mp hrun
    exact collect_ok_mem h.terminal_collected basis hmem
  obtain ⟨refs, hrefs, hbuild⟩ := deriveRuns_build [] hbasis h.derives
  have hterminal := b.terminal_refs_of_runs hrefs
  have hnonRun : Sorting.sortOn (·.itemKey) b.nonRunRefs = b.nonRunRefs :=
    Sorting.sortOn_of_ordered (requireOrderedRefs_eq_ok.mp h.non_run_keys).2
  have hids : (b.runSetsById.map (·.1)) = b.runResolutionSets.map (·.runId) := by
    simp only [Fields.runSetsById, List.map_map, Function.comp_def]
  have hbaseIds : (b.basesById.map (·.1)) = b.runBases.map (·.runId) := by
    simp only [Fields.basesById, List.map_map, Function.comp_def]
  refine ⟨fanoutNamesClosure_of_rebuild, fun hnames => ?_⟩
  simp only [rebuild, build, bind_eq_ok, exists_unit, basisInvalidIf_eq_ok, ne_eq, not_not,
    uniqueByRunId_eq_ok, new_eq_ok]
  refine ⟨hcounts, _, hpolicy, rfl, _, h.evaluates, rfl, _, ⟨h.runSets_nodup, rfl⟩, _,
    ⟨h.runBases_nodup, rfl⟩, _, hids ▸ h.run_set_digest, rfl, ?_, _, hbuild,
    ⟨h.run_entries.2, h.run_entries.1⟩, _, (buildNonRunRefs_eq_ok b).mpr ⟨rfl, hnames⟩,
    b.non_run_length, ?_⟩
  · rw [← Fields.runSetsById, ← Fields.basesById, hids, hbaseIds]
    exact h.same_runs
  · rw [List.nil_append, hterminal, hnonRun, ← h.unknown_refs]

/-- Construction accepts a fan-out to a Run that has nothing to do with the item; `build` refuses
the components of that very basis. -/
theorem stray_fanout_not_rebuilt : ∃ b : BatchFinalizationBasis,
    b.runResolutionSets = [oneRunSet retriedItem] ∧
      b.cancellationScopeItems = [fanout "run-2" (by decide)] ∧ ∀ b', b.rebuild ≠ .ok b' := by
  obtain ⟨f, hsets, -, -, -, -, -, haccepted⟩ := sampled_accepted (Or.inl rfl)
  refine ⟨⟨_, haccepted "run-2" (by decide)⟩, hsets, rfl, fun b' hbuilt => ?_⟩
  have hclosure := fanoutNamesClosure_of_rebuild hbuilt (fanout "run-2" (by decide))
    (by simp) rfl (oneRunSet retriedItem, retriedItem)
    (by simp [closuresOf, closures, hsets, oneRunSet]; decide)
  exact absurd hclosure.1 (by decide)

end BatchFinalizationBasis
end QaRunner
