import QaRunner.Domain.BatchFinalizationBasis
import QaRunner.Domain.RunClosing

/-! What an accepted Batch basis says about its manifest: every item is resolved once, the
counts are those of the items, and neither a retry nor a worse item can make it greener. -/
namespace QaRunner
open Guarded

theorem BatchTerminalRunRef.fromBasis_runId {basis : RunFinalizationBasis}
    {ref : BatchTerminalRunRef} (h : fromBasis basis = .ok ref) : ref.runId = basis.runId := by
  simp only [fromBasis, bind_eq_ok, new, construct_eq_ok] at h
  obtain ⟨_, -, _, rfl⟩ := h
  rfl

theorem BatchTerminalRunRef.fromBasis_eq {basis : RunFinalizationBasis}
    {ref : BatchTerminalRunRef} (h : fromBasis basis = .ok ref) :
    ref.runId = basis.runId ∧ ref.sourceRunVersion = basis.sourceRunVersion := by
  simp only [fromBasis, bind_eq_ok, new, construct_eq_ok] at h
  obtain ⟨_, -, _, rfl⟩ := h
  exact ⟨rfl, rfl⟩

/-- An accepted basis with a digest can always be referenced. -/
theorem BatchTerminalRunRef.fromBasis_of_digest {basis : RunFinalizationBasis} {digest : Digest}
    (h : basis.basisDigest = .ok digest) : ∃ ref, fromBasis basis = .ok ref := by
  have haccepted := basis.accepted
  simp only [RunFinalizationBasis.Fields.postInit, then_eq_ok, each_eq_ok, List.forall_mem_cons,
    requireString_eq_ok, requireNonnegativeInt_eq_ok] at haccepted
  obtain ⟨⟨hid, -⟩, hversion, -⟩ := haccepted
  simp only [fromBasis, h, ok_bind]
  refine ⟨_, construct_of_ok ?_⟩
  simp only [Fields.postInit, then_eq_ok, requireString_eq_ok, requireNonnegativeInt_eq_ok]
  exact ⟨hid, hversion⟩

/-- What a Run entry repeats of the closure it is derived from. -/
theorem BatchItemResolution.fromRunResolution_eq {basis : RunFinalizationBasis}
    {runSet : RunItemResolutionSet} {item : RunItemResolution} {entry : BatchItemResolution}
    (h : fromRunResolution basis runSet item = .ok entry) :
    entry.itemKey = item.itemKey ∧ entry.sourceKind = .runResolution ∧
      entry.sourceRunId = some runSet.runId ∧
      entry.sourceRunVersion = some runSet.sourceRunVersion ∧
      entry.classification = item.aggregationClass.classification := by
  simp only [fromRunResolution, bind_eq_ok, new, construct_eq_ok] at h
  obtain ⟨_, -, _, -, _, -, _, -, _, -, _, -, _, rfl⟩ := h
  exact ⟨rfl, rfl, rfl, rfl, rfl⟩

theorem BatchNonRunResolutionRef.fromScopeItem_eq {fact : BatchCancellationScopeItem}
    {ref : BatchNonRunResolutionRef} (h : fromScopeItem fact = .ok ref) :
    fact.resolutionKind = .notExecuted ∧ ref.itemKey = fact.manifestItemKey ∧
      fact.scopeItemDigest = .ok ref.notExecutedFactDigest := by
  simp only [fromScopeItem, bind_eq_ok, exists_unit, invalidIf_eq_ok, ne_eq, not_not, new,
    construct_eq_ok] at h
  obtain ⟨hkind, digest, hdigest, _, rfl⟩ := h
  exact ⟨hkind, rfl, hdigest⟩

theorem BatchItemResolution.fromNotExecuted_eq {fact : BatchCancellationScopeItem}
    {e : BatchItemResolution} (h : fromNotExecuted fact = .ok e) :
    e.sourceKind = .notExecuted ∧ e.sourceRunId = none ∧ e.sourceRunVersion = none := by
  simp only [fromNotExecuted, bind_eq_ok, new, construct_eq_ok] at h
  obtain ⟨_, -, _, -, _, rfl⟩ := h
  exact ⟨rfl, rfl, rfl⟩

/-- A not-executed entry is fixed by its key and the digest of its fact. -/
theorem BatchItemResolution.notExecuted_fields (e : BatchItemResolution)
    (h : e.sourceKind = .notExecuted) : e.classification = .notExecuted ∧
      ∃ digest, e.notExecutedFactDigest = some digest ∧ e.toFields = {
        itemKey := e.itemKey
        sourceKind := .notExecuted
        sourceRunId := none
        sourceRunVersion := none
        sourceRunBasisDigest := none
        sourceRunItemResolutionSetDigest := none
        sourceItemResolutionDigest := none
        notExecutedFactSchema := some "qep.batch-cancellation-scope-item.v1"
        notExecutedFactDigest := some digest
        cancellationScopeItemDigest := some digest
        classification := .notExecuted } := by
  obtain ⟨⟨key, kind, runId, version, basis, set, item, schema, fact, scope, cls⟩, haccepted⟩ := e
  simp only at h
  subst h
  simp only [Fields.postInit, Fields.validateNotExecutedSource, then_eq_ok, invalidIf_eq_ok,
    not_or, ne_eq, not_not, Option.not_isSome_iff_eq_none, Option.isNone_iff_eq_none] at haccepted
  obtain ⟨⟨rfl, rfl, rfl, rfl, rfl⟩, ⟨-, hfact, -⟩, rfl, rfl, rfl⟩ := haccepted
  obtain ⟨digest, rfl⟩ := Option.ne_none_iff_exists'.mp hfact
  exact ⟨rfl, digest, rfl, rfl⟩

/-- An entry names no schema, or the one there is. -/
theorem BatchItemResolution.schema_unicode (e : BatchItemResolution) :
    ∀ schema ∈ e.notExecutedFactSchema, schema.isUnicode = true := by
  intro schema hschema
  cases hkind : e.sourceKind with
  | runResolution =>
    have haccepted := e.accepted
    simp only [Fields.postInit, hkind, Fields.validateRunSource, then_eq_ok, invalidIf_eq_ok,
      not_or] at haccepted
    obtain ⟨-, -, -, ⟨hnone, -⟩, -⟩ := haccepted
    rw [Option.mem_def.mp hschema] at hnone
    exact absurd rfl hnone
  | notExecuted =>
    obtain ⟨-, _, -, hfields⟩ := e.notExecuted_fields hkind
    rw [hfields] at hschema
    cases hschema
    rfl

theorem evaluateBatchOutcome_eq {counts : BatchResolutionCounts} {policy : BatchSuccessPolicy}
    {suiteId : Str} {intent : Option Digest} {evaluation : BatchOutcomeEvaluation}
    (h : evaluateBatchOutcome counts policy suiteId intent = .ok evaluation) :
    (counts.cancelScoped ≠ 0 → intent.isSome) ∧
      policy.policyDigest = .ok evaluation.policyDigest ∧ evaluation.counts = counts ∧
      evaluation.outcome = counts.outcome policy.maxTestFailedItems := by
  simp only [evaluateBatchOutcome, bind_eq_ok, exists_unit, invalidIf_eq_ok, not_and,
    BatchOutcomeEvaluation.new, construct_eq_ok] at h
  obtain ⟨-, -, -, hintent, digest, hdigest, _, rfl⟩ := h
  exact ⟨fun hne => Option.isSome_iff_ne_none.mpr (by simpa using hintent hne), hdigest, rfl, rfl⟩

namespace BatchFinalizationBasis
variable {rules : DerivationRules} {resolutionSet : BatchItemResolutionSet}
  {basis : RunFinalizationBasis} {runSet : RunItemResolutionSet} {item : RunItemResolution}
  {items : List RunItemResolution} {bases : List (Str × RunFinalizationBasis)}
  {run : Str × RunItemResolutionSet} {runs : List (Str × RunItemResolutionSet)}
  {d d' d'' : RunDerivation} {cs cs' : List (RunItemResolutionSet × RunItemResolution)}

theorem uniqueByRunId_eq_ok {α : Type} {field : String} {runId : α → Str} {values : List α}
    {byId : List (Str × α)} : uniqueByRunId field runId values = .ok byId ↔
      (values.map runId).Nodup ∧ values.map (fun value => (runId value, value)) = byId := by
  simp only [uniqueByRunId, then_eq_ok, basisInvalidIf_eq_ok, not_not, pure_eq_ok]

theorem requireOrderedRefs_eq_ok {κ : Type} [LinearOrder κ] {field : String} {keys : List κ}
    {u : Unit} :
    requireOrderedRefs field keys = .ok u ↔ keys.Nodup ∧ keys = Sorting.sortOn id keys := by
  simp only [requireOrderedRefs, then_eq_ok, basisInvalidIf_eq_ok, not_not, ne_eq]

/-- The entry a closed Run yields for one of its items. -/
def DerivedFrom (bases : List (Str × RunFinalizationBasis))
    (c : RunItemResolutionSet × RunItemResolution) (entry : BatchItemResolution) : Prop :=
  ∃ run ∈ bases, BatchItemResolution.fromRunResolution run.2 c.1 c.2 = .ok entry

/-- The derivation has gone through some more closures. -/
structure Extends (bases : List (Str × RunFinalizationBasis)) (d : RunDerivation)
    (cs : List (RunItemResolutionSet × RunItemResolution)) (d' : RunDerivation) : Prop where
  entries : ∃ es, d'.entries = d.entries ++ es ∧ List.Forall₂ (DerivedFrom bases) cs es
  nodup : (d.entries.map (·.itemKey)).Nodup → (d'.entries.map (·.itemKey)).Nodup

theorem Extends.refl : Extends bases d [] d :=
  ⟨⟨[], (List.append_nil _).symm, .nil⟩, fun h => h⟩

theorem Extends.trans (h : Extends bases d cs d') (h' : Extends bases d' cs' d'') :
    Extends bases d (cs ++ cs') d'' := by
  obtain ⟨es, hes, hfrom⟩ := h.entries
  obtain ⟨es', hes', hfrom'⟩ := h'.entries
  refine ⟨⟨es ++ es', ?_, List.rel_append hfrom hfrom'⟩, fun hd => h'.nodup (h.nodup hd)⟩
  rw [hes', hes, List.append_assoc]

theorem deriveItem_eq_ok : deriveItem rules basis runSet d item = .ok d' ↔
    ∃ entry, BatchItemResolution.fromRunResolution basis runSet item = .ok entry ∧
      entry.itemKey ∉ d.entries.map (·.itemKey) ∧
      ((rules.isUnknown item entry = true ∧
        ∃ ref, BatchUnknownFactRef.fromResolution item = .ok ref ∧ d' = { d with
          entries := d.entries ++ [entry]
          unknownFactRefs := d.unknownFactRefs ++ [ref] }) ∨
      (rules.isUnknown item entry = false ∧ d' = { d with entries := d.entries ++ [entry] })) := by
  simp only [deriveItem, bind_eq_ok, exists_unit, basisInvalidIf_eq_ok]
  refine exists_congr fun entry => and_congr_right fun _ => and_congr_right fun _ => ?_
  cases rules.isUnknown item entry with
  | true => simp only [if_true, bind_eq_ok, pure_eq_ok, true_and, reduceCtorEq, false_and, or_false,
      eq_comm (a := d')]
  | false => simp only [Bool.false_eq_true, if_false, pure_eq_ok, false_and, true_and, false_or,
      eq_comm (a := d')]

theorem deriveItem_extends (hbasis : ∃ run ∈ bases, run.2 = basis)
    (h : deriveItem rules basis runSet d item = .ok d') :
    Extends bases d [(runSet, item)] d' := by
  obtain ⟨entry, hentry, hfresh, hcase⟩ := deriveItem_eq_ok.mp h
  have hentries : d'.entries = d.entries ++ [entry] := by
    rcases hcase with ⟨-, ref, -, rfl⟩ | ⟨-, rfl⟩ <;> rfl
  obtain ⟨run, hrun, rfl⟩ := hbasis
  refine ⟨⟨[entry], hentries, .cons ⟨run, hrun, hentry⟩ .nil⟩, fun hd => ?_⟩
  rw [hentries, List.map_append, List.map_singleton, List.nodup_append]
  refine ⟨hd, List.nodup_singleton _, ?_⟩
  rintro key hkey _ hsame rfl
  exact hfresh (List.mem_singleton.mp hsame ▸ hkey)

theorem deriveItems_extends (hbasis : ∃ run ∈ bases, run.2 = basis)
    (h : deriveItems rules basis runSet d items = .ok d') :
    Extends bases d (items.map fun item => (runSet, item)) d' := by
  induction items generalizing d with
  | nil =>
    cases h
    exact .refl
  | cons item items ih =>
    simp only [deriveItems, bind_eq_ok] at h
    obtain ⟨d₁, hitem, hitems⟩ := h
    exact (deriveItem_extends hbasis hitem).trans (ih hitems)

theorem deriveRun_eq_ok : deriveRun rules resolutionSet bases d run = .ok d' ↔
    ∃ found, bases.find? (·.1 = run.1) = some found ∧
      (run.2.batchId = resolutionSet.batchId ∧
        run.2.manifestDigest = resolutionSet.manifestDigest ∧
        run.2.shardPlanDigest = resolutionSet.shardPlanDigest) ∧
      ∃ refs, rules.terminalRefs found.2 = .ok refs ∧ deriveItems rules found.2 run.2
        { d with terminalRunRefs := d.terminalRunRefs ++ refs } run.2.entries = .ok d' := by
  simp only [deriveRun, bind_eq_ok, exists_unit, basisInvalidIf_eq_ok, need_eq_ok, not_or, ne_eq,
    not_not, Prod.exists]

theorem deriveRun_extends (h : deriveRun rules resolutionSet bases d run = .ok d') :
    Extends bases d (run.2.entries.map fun item => (run.2, item)) d' := by
  obtain ⟨found, hfound, -, refs, -, hitems⟩ := deriveRun_eq_ok.mp h
  obtain ⟨hentries, hnodup⟩ :=
    deriveItems_extends ⟨found, List.mem_of_find?_eq_some hfound, rfl⟩ hitems
  exact ⟨hentries, hnodup⟩

theorem deriveRuns_extends (h : deriveRuns rules resolutionSet bases d runs = .ok d') :
    Extends bases d (runs.flatMap fun run => run.2.entries.map fun item => (run.2, item)) d' := by
  induction runs generalizing d with
  | nil =>
    cases h
    exact .refl
  | cons run runs ih =>
    simp only [deriveRuns, bind_eq_ok] at h
    obtain ⟨d₁, hrun, hruns⟩ := h
    exact (deriveRun_extends hrun).trans (ih hruns)

namespace Fields

def runSetsById (b : Fields) : List (Str × RunItemResolutionSet) :=
  b.runResolutionSets.map fun s => (s.runId, s)

def basesById (b : Fields) : List (Str × RunFinalizationBasis) :=
  b.runBases.map fun r => (r.runId, r)

/-- What direct construction establishes, with the values it derives on the way. -/
structure Checked (b : Fields) (derived : RunDerivation)
    (terminalRefs : List BatchTerminalRunRef) : Prop where
  runSets_nodup : (b.runResolutionSets.map (·.runId)).Nodup
  runBases_nodup : (b.runBases.map (·.runId)).Nodup
  same_runs : Keyed.SameElements (b.runResolutionSets.map (·.runId)) (b.runBases.map (·.runId))
  derives : deriveRuns postInitRules b.resolutionSet b.basesById {} b.runSetsById = .ok derived
  run_entries : Keyed.SameElements b.resolutionSet.runEntries derived.entries
  evaluates : evaluateBatchOutcome b.resolutionSet.counts b.policy b.policy.suiteId
    b.evaluation.batchCancellationIntentDigest = .ok b.evaluation
  terminal_keys : requireOrderedRefs "terminal_run_refs" (b.terminalRunRefs.map (·.runId)) = .ok ()
  terminal_collected : collect b.runBases BatchTerminalRunRef.fromBasis = .ok terminalRefs
  terminal_refs : b.terminalRunRefs = Sorting.sortOn (·.runId) terminalRefs
  non_run_keys : requireOrderedRefs "non_run_refs" (b.nonRunRefs.map (·.itemKey)) = .ok ()
  run_set_digest : canonicalMaterializedRunSetDigest b.resolutionSet.batchId
    (b.runResolutionSets.map (·.runId)) = .ok b.resolutionSet.canonicalRunSetDigest
  non_run_facts : Keyed.SameElements
    (b.nonRunRefs.map fun ref => (ref.itemKey, some ref.notExecutedFactDigest))
    (b.resolutionSet.notExecutedEntries.map fun e => (e.itemKey, e.notExecutedFactDigest))
  scope : b.requireScope = .ok ()
  unknown_count : (b.unknownFactRefs.length : ℤ) = b.resolutionSet.counts.unknownLineageCount
  unknown_keys : requireOrderedRefs "unknown_fact_refs" (b.unknownFactRefs.map (·.itemKey)) = .ok ()
  unknown_refs : b.unknownFactRefs = Sorting.sortOn (·.itemKey) derived.unknownFactRefs

theorem postInit_eq_ok {b : Fields} :
    b.postInit = .ok () ↔ ∃ derived terminalRefs, b.Checked derived terminalRefs := by
  simp only [postInit, bind_eq_ok, exists_unit, uniqueByRunId_eq_ok, basisInvalidIf_eq_ok, ne_eq,
    not_not]
  constructor
  · rintro ⟨_, ⟨hsets, rfl⟩, _, ⟨hbases, rfl⟩, hsame, derived, hderives, hentries, _, heval, rfl,
      hkeys, terminalRefs, hcollect, hterminal, hnonRun, _, hdigest, rfl, hfacts, hscope, hcount,
      hunknown, hrefs⟩
    simp only [List.map_map, Function.comp_def] at hsame hdigest
    exact ⟨derived, terminalRefs, hsets, hbases, hsame, hderives, hentries, heval, hkeys, hcollect,
      hterminal, hnonRun, hdigest, hfacts, hscope, hcount, hunknown, hrefs⟩
  · rintro ⟨derived, terminalRefs, h⟩
    refine ⟨_, ⟨h.runSets_nodup, rfl⟩, _, ⟨h.runBases_nodup, rfl⟩, ?_, derived, h.derives,
      h.run_entries, _, h.evaluates, rfl, h.terminal_keys, terminalRefs, h.terminal_collected,
      h.terminal_refs, h.non_run_keys, _, ?_, rfl, h.non_run_facts, h.scope, h.unknown_count,
      h.unknown_keys, h.unknown_refs⟩
    · simpa only [List.map_map, Function.comp_def] using h.same_runs
    · simpa only [List.map_map, Function.comp_def] using h.run_set_digest

end Fields

variable {b b' : BatchFinalizationBasis} {c : RunItemResolutionSet × RunItemResolution}
  {e : BatchItemResolution} {key : RunItemKey} {ref : BatchNonRunResolutionRef}

theorem checked (b : BatchFinalizationBasis) :
    ∃ derived terminalRefs, b.Checked derived terminalRefs := Fields.postInit_eq_ok.mp b.accepted

/-- Every item a closed Run of the Batch resolves, with the Run's resolution set. -/
def closures (b : BatchFinalizationBasis) : List (RunItemResolutionSet × RunItemResolution) :=
  b.runResolutionSets.flatMap fun s => s.entries.map fun item => (s, item)

theorem mem_closures {s : RunItemResolutionSet} {r : RunItemResolution} :
    (s, r) ∈ b.closures ↔ s ∈ b.runResolutionSets ∧ r ∈ s.entries := by
  simp only [closures, List.mem_flatMap, List.mem_map, Prod.mk.injEq]
  constructor
  · rintro ⟨s, hs, r, hr, rfl, rfl⟩
    exact ⟨hs, hr⟩
  · rintro ⟨hs, hr⟩
    exact ⟨s, hs, r, hr, rfl, rfl⟩

/-- The Run entries of the Batch are exactly those of its closures, one each. -/
theorem closures_derive (b : BatchFinalizationBasis) : ∃ es,
    List.Forall₂ (DerivedFrom b.basesById) b.closures es ∧
      Keyed.SameElements b.resolutionSet.runEntries es := by
  obtain ⟨derived, _, h⟩ := b.checked
  obtain ⟨es, hes, hfrom⟩ := (deriveRuns_extends h.derives).entries
  rw [Fields.runSetsById, List.flatMap_map] at hfrom
  rw [List.nil_append] at hes
  exact ⟨es, hfrom, hes ▸ h.run_entries⟩

theorem closures_nodup (b : BatchFinalizationBasis) :
    (b.closures.map (·.2.itemKey)).Nodup := by
  obtain ⟨derived, _, h⟩ := b.checked
  have hext := deriveRuns_extends h.derives
  obtain ⟨es, hes, hfrom⟩ := hext.entries
  rw [Fields.runSetsById, List.flatMap_map] at hfrom
  have hnodup := hext.nodup List.nodup_nil
  rw [hes, List.nil_append] at hnodup
  have hkeys : b.closures.map (·.2.itemKey) = es.map (·.itemKey) := by
    apply List.forall₂_eq_eq_eq ▸ List.forall₂_map_left_iff.mpr (List.forall₂_map_right_iff.mpr _)
    exact hfrom.imp fun c e ⟨_, _, he⟩ => (BatchItemResolution.fromRunResolution_eq he).1.symm
  rwa [hkeys]

theorem entry_of_closure (hc : c ∈ b.closures) : ∃ e ∈ b.resolutionSet.entries,
    e.itemKey = c.2.itemKey ∧ e.sourceKind = .runResolution ∧ e.sourceRunId = some c.1.runId ∧
      e.sourceRunVersion = some c.1.sourceRunVersion ∧
      e.classification = c.2.aggregationClass.classification := by
  obtain ⟨es, hfrom, hsame⟩ := b.closures_derive
  obtain ⟨e, he, _, _, hderived⟩ := exists_of_mem_left hfrom c hc
  exact ⟨e, (List.mem_filter.mp (hsame.mem_iff.mpr he)).1,
    BatchItemResolution.fromRunResolution_eq hderived⟩

theorem closure_of_entry (he : e ∈ b.resolutionSet.entries) (hrun : e.sourceKind = .runResolution) :
    ∃ c ∈ b.closures, c.2.itemKey = e.itemKey ∧ e.sourceRunId = some c.1.runId ∧
      e.sourceRunVersion = some c.1.sourceRunVersion ∧
      e.classification = c.2.aggregationClass.classification := by
  obtain ⟨es, hfrom, hsame⟩ := b.closures_derive
  have hmem : e ∈ b.resolutionSet.runEntries :=
    List.mem_filter.mpr ⟨he, decide_eq_true hrun⟩
  obtain ⟨c, hc, _, _, hderived⟩ := exists_of_mem_right hfrom e (hsame.mem_iff.mp hmem)
  obtain ⟨hkey, -, hid, hversion, hclass⟩ := BatchItemResolution.fromRunResolution_eq hderived
  exact ⟨c, hc, hkey.symm, hid, hversion, hclass⟩

theorem entry_eq_of_key {e' : BatchItemResolution} (he : e ∈ b.resolutionSet.entries)
    (he' : e' ∈ b.resolutionSet.entries) (hkey : e.itemKey = e'.itemKey) : e = e' :=
  Keyed.eq_of_key b.resolutionSet.keys_nodup he he' hkey

/-- References and not-executed entries name the same items with the same facts. -/
theorem non_run_ref_iff {digest : Option Digest} : (∃ ref ∈ b.nonRunRefs, ref.itemKey = key ∧
    some ref.notExecutedFactDigest = digest) ↔
    ∃ e ∈ b.resolutionSet.entries, e.sourceKind = .notExecuted ∧ e.itemKey = key ∧
      e.notExecutedFactDigest = digest := by
  obtain ⟨_, _, h⟩ := b.checked
  have hmem := h.non_run_facts.mem_iff (x := (key, digest))
  simp only [List.mem_map, Prod.mk.injEq, BatchItemResolutionSet.notExecutedEntries,
    List.mem_filter, decide_eq_true_iff, and_assoc] at hmem
  exact hmem

theorem entry_of_ref (hr : ref ∈ b.nonRunRefs) : ∃ e ∈ b.resolutionSet.entries,
    e.sourceKind = .notExecuted ∧ e.itemKey = ref.itemKey :=
  have ⟨e, he, hkind, hkey, _⟩ := non_run_ref_iff.mp ⟨ref, hr, rfl, rfl⟩
  ⟨e, he, hkind, hkey⟩

theorem ref_of_entry (he : e ∈ b.resolutionSet.entries) (hkind : e.sourceKind = .notExecuted) :
    ∃ ref ∈ b.nonRunRefs, ref.itemKey = e.itemKey := by
  obtain ⟨_, digest, hdigest, _⟩ := e.notExecuted_fields hkind
  obtain ⟨ref, hr, hkey, _⟩ := non_run_ref_iff.mpr ⟨e, he, hkind, rfl, rfl⟩
  exact ⟨ref, hr, hkey⟩

theorem non_run_refs_nodup (b : BatchFinalizationBasis) : (b.nonRunRefs.map (·.itemKey)).Nodup := by
  obtain ⟨_, _, h⟩ := b.checked
  exact (requireOrderedRefs_eq_ok.mp h.non_run_keys).1

/-- An item that never ran needs a cancellation to account for it. -/
theorem intent_of_not_executed (he : e ∈ b.resolutionSet.entries)
    (hkind : e.sourceKind = .notExecuted) :
    ∃ intentDigest, b.evaluation.batchCancellationIntentDigest = some intentDigest := by
  obtain ⟨_, _, h⟩ := b.checked
  have hclass : BatchItemClassification.notExecuted ∈ b.resolutionSet.classifications :=
    List.mem_map.mpr ⟨e, he, (e.notExecuted_fields hkind).1⟩
  have hpos := List.count_pos_iff.mpr hclass
  apply Option.isSome_iff_exists.mp
  apply (evaluateBatchOutcome_eq h.evaluates).1
  simp only [BatchItemResolutionSet.counts, BatchResolutionCounts.Fields.cancelScoped,
    BatchResolutionCounts.Fields.ofClassifications]
  omega

/-- Under a cancellation, the references are those of the canonical scope. -/
theorem scope_refs {intentDigest : Digest}
    (hd : b.evaluation.batchCancellationIntentDigest = some intentDigest) : ∃ canonical,
    canonicalizeBatchCancellationScopeItems (b.resolutionSet.scopeEnvelope intentDigest)
      b.resolutionSet.expectedItemKeys b.cancellationScopeItems = .ok canonical ∧
    collect (canonical.filter (·.resolutionKind = .notExecuted))
      BatchNonRunResolutionRef.fromScopeItem = .ok b.nonRunRefs := by
  obtain ⟨_, _, h⟩ := b.checked
  have hscope := h.scope
  simp only [Fields.requireScope, hd, bind_eq_ok, basisInvalidIf_eq_ok, ne_eq, not_not] at hscope
  obtain ⟨canonical, hcanonical, refs, hrefs, hsame⟩ := hscope
  exact ⟨canonical, hcanonical, hsame ▸ hrefs⟩

/-- Every reference rests on a delivered fact that the item was not executed. -/
theorem fact_of_ref (hr : ref ∈ b.nonRunRefs) : ∃ fact ∈ b.cancellationScopeItems,
    fact.resolutionKind = .notExecuted ∧ ref.itemKey = fact.manifestItemKey ∧
      fact.scopeItemDigest = .ok ref.notExecutedFactDigest := by
  obtain ⟨e, he, hkind, -⟩ := entry_of_ref hr
  obtain ⟨intentDigest, hd⟩ := intent_of_not_executed he hkind
  obtain ⟨canonical, hcanonical, hrefs⟩ := scope_refs hd
  obtain ⟨-, hfirst, -⟩ := canonicalizeBatchCancellationScopeItems_eq hcanonical
  obtain ⟨fact, hfact, href⟩ := exists_of_mem_right (collect_eq_ok.mp hrefs) ref hr
  exact ⟨fact, List.mem_of_find?_eq_some ((hfirst fact).mp (List.mem_filter.mp hfact).1),
    BatchNonRunResolutionRef.fromScopeItem_eq href⟩

/-- The Run closures that resolve an item. -/
def closuresOf (b : BatchFinalizationBasis) (key : RunItemKey) :
    List (RunItemResolutionSet × RunItemResolution) :=
  b.closures.filter (·.2.itemKey = key)

/-- The not-executed facts an item is referenced by. -/
def factsOf (b : BatchFinalizationBasis) (key : RunItemKey) : List BatchNonRunResolutionRef :=
  b.nonRunRefs.filter (·.itemKey = key)

/-- One entry resolves the item, from one closure or from one not-executed fact and never from
both. -/
inductive ResolvedOnce (b : BatchFinalizationBasis) (key : RunItemKey) : Prop
  | closure (c : RunItemResolutionSet × RunItemResolution) (e : BatchItemResolution)
      (closures : b.closuresOf key = [c]) (facts : b.factsOf key = [])
      (entries : b.resolutionSet.entries.filter (·.itemKey = key) = [e])
      (run : e.sourceRunId = some c.1.runId)
      (version : e.sourceRunVersion = some c.1.sourceRunVersion)
      (same : e.classification = c.2.aggregationClass.classification)
  | notExecuted (ref : BatchNonRunResolutionRef) (fact : BatchCancellationScopeItem)
      (e : BatchItemResolution) (closures : b.closuresOf key = []) (facts : b.factsOf key = [ref])
      (entries : b.resolutionSet.entries.filter (·.itemKey = key) = [e])
      (same : e.classification = .notExecuted) (delivered : fact ∈ b.cancellationScopeItems)
      (kind : fact.resolutionKind = .notExecuted) (item : fact.manifestItemKey = key)
      (digest : fact.scopeItemDigest = .ok ref.notExecutedFactDigest)

theorem resolvedOnce_of_mem (hkey : key ∈ b.resolutionSet.expectedItemKeys) :
    b.ResolvedOnce key := by
  rw [← b.resolutionSet.keys_eq] at hkey
  obtain ⟨e, he, rfl⟩ := List.mem_map.mp hkey
  have hentries := Keyed.filter_of_mem b.resolutionSet.keys_nodup he
  cases hkind : e.sourceKind with
  | runResolution =>
    obtain ⟨c, hc, hck, hid, hversion, hclass⟩ := closure_of_entry he hkind
    have hclosures := Keyed.filter_of_mem b.closures_nodup hc
    have hfacts : b.factsOf e.itemKey = [] := by
      apply List.filter_eq_nil_iff.mpr
      intro ref hr hsame
      obtain ⟨e', he', hkind', hkey'⟩ := entry_of_ref hr
      have := entry_eq_of_key he he' (hkey'.trans (of_decide_eq_true hsame)).symm
      simp [this, hkind'] at hkind
    exact .closure c e (hck ▸ hclosures) hfacts hentries hid hversion hclass
  | notExecuted =>
    obtain ⟨ref, hr, hrk⟩ := ref_of_entry he hkind
    obtain ⟨fact, hfact, hfkind, hfkey, hdigest⟩ := fact_of_ref hr
    have hfacts := Keyed.filter_of_mem b.non_run_refs_nodup hr
    have hclosures : b.closuresOf e.itemKey = [] := by
      apply List.filter_eq_nil_iff.mpr
      intro c hc hsame
      obtain ⟨e', he', hkey', hkind', -⟩ := entry_of_closure hc
      have := entry_eq_of_key he he' (hkey'.trans (of_decide_eq_true hsame)).symm
      simp [this, hkind'] at hkind
    exact .notExecuted ref fact e hclosures (hrk ▸ hfacts) hentries
      (e.notExecuted_fields hkind).1 hfact hfkind (hfkey ▸ hrk) hdigest

end BatchFinalizationBasis

section
variable {r : RunItemResolution} {s o e : Digest}

/-- The delivery that a cancellation of the Batch fans out to a Run. -/
def fanout (runId : String) (hid : isBlank runId = false) : BatchCancellationScopeItem where
  batchId := "batch-1"
  batchCancellationIntentDigest := Digest.zero
  manifestId := "manifest-1"
  manifestDigest := Digest.zero
  manifestItemKey := firstItem
  shardPlanVersion := 1
  shardPlanDigest := Digest.zero
  resolutionKind := .runFanout
  runId := some (.text runId)
  sourceRunVersion := some 4
  recordedAt := ⟨1000000, some 0⟩
  accepted := by
    simp only [BatchCancellationScopeItem.Fields.postInit,
      BatchCancellationScopeItem.Fields.validateRunBinding, then_eq_ok,
      requireNonemptyString_eq_ok, invalidIf_eq_ok, requireNonnegativeVersion_eq_ok,
      requireSomeNonemptyString_eq_ok, requireSomeNonnegativeVersion_eq_ok, requireUtc_eq_ok]
    exact ⟨by decide, by decide, by decide, by decide,
      ⟨⟨runId, rfl, hid⟩, ⟨4, rfl, by decide⟩⟩, rfl⟩

/-- No failed item is tolerated. -/
def strictPolicy : BatchSuccessPolicy where
  schemaVersion := "qep.batch-success-policy.v1"
  policyId := "policy-1"
  policyVersion := 1
  suiteId := "suite-1"
  maxTestFailedItems := 0
  allowAuthorizedRetryPass := false
  allowedTestFailureSelectorDigest := none
  resultMappingSchema := "qep.result-mapping.v1"
  resultMappingVersion := 1
  resultMappingDigest := Digest.zero
  approvalRecordDigest := Digest.zero
  accepted := by decide

/-- The Run's basis, its resolution set and its item are accepted together. -/
theorem entry_ok (hr : Sampled r) (hs : (oneRunSet r).resolutionSetDigest = .ok s)
    (ho : (oneRunSet r).originalResolutionSetDigest = .ok o)
    (he : (oneRunSet r).effectiveResolutionSetDigest = .ok e) :
    ∃ entry, BatchItemResolution.fromRunResolution (closingBasis hr s o e) (oneRunSet r) r =
      .ok entry := by
  obtain ⟨basisDigest, hbasis⟩ := closingDigest_ok (s := s) (o := o) (e := e) hr
  have houtcome : r.effective.outcome = (oneRunSet r).auditOutcome := by
    rcases hr with rfl | rfl | rfl <;> decide
  have hof : BatchItemResolution.requireBasisOf (closingBasis hr s o e) (oneRunSet r) = .ok () :=
    BatchItemResolution.requireBasisOf_eq_ok.mpr
      ⟨⟨rfl, rfl, rfl, rfl, rfl, rfl⟩, hs, ho, he, rfl, houtcome, rfl, rfl, rfl⟩
  exact BatchItemResolution.fromRunResolution_of_basis (List.mem_singleton.mpr rfl) hof hbasis

/-- A Batch of that one item. -/
def oneItem (entry : BatchItemResolution) (runSetDigest : Digest) :
    BatchItemResolutionSet.Fields where
  batchId := "batch-1"
  sourceBatchVersion := 1
  manifestId := "manifest-1"
  manifestDigest := Digest.zero
  shardPlanId := "plan-1"
  shardPlanVersion := 1
  shardPlanDigest := Digest.zero
  canonicalRunSetDigest := runSetDigest
  expectedItemKeys := [firstItem]
  entries := [entry]

theorem oneItem_accepted {entry : BatchItemResolution} {runSetDigest : Digest}
    (hkey : entry.itemKey = firstItem) (hkind : entry.sourceKind = .runResolution) :
    (oneItem entry runSetDigest).postInit = .ok () := by
  simp only [BatchItemResolutionSet.Fields.postInit, then_eq_ok, each_eq_ok, requireString_eq_ok,
    requireNonnegativeInt_eq_ok, invalidIf_eq_ok]
  refine ⟨?_, by simp [oneItem], by simp [oneItem], by simp [oneItem], by simp [oneItem],
    by simp [oneItem], by simp [oneItem], ?_, ?_, by simp [oneItem], by simp [oneItem],
    by simp [oneItem, hkey], ?_⟩
  · simp only [oneItem, List.forall_mem_cons]
    exact ⟨by decide, by decide, by decide, by simp⟩
  · simp only [oneItem, List.mem_singleton, not_exists, not_and, not_not, ne_eq, forall_eq]
    rfl
  · simp only [oneItem, List.map_singleton, List.mem_singleton, not_exists, not_and, not_not,
      ne_eq, forall_eq, hkey]
    rfl
  · simp only [oneItem, BatchItemResolutionSet.Fields.validateRunSources, hkind, Keyed.setdefault,
      List.find?_nil, then_eq_ok]
    exact ⟨invalidIf_eq_ok.mpr (by simp), invalidIf_eq_ok.mpr (by simp), trivial⟩

theorem evaluation_ok (counts : BatchResolutionCounts) : ∃ evaluation,
    evaluateBatchOutcome counts strictPolicy strictPolicy.suiteId (some Digest.zero) =
        .ok evaluation ∧
      evaluation.batchCancellationIntentDigest = some Digest.zero := by
  have hpolicy : ∃ d, strictPolicy.policyDigest = .ok d := canonicalDigest_of_valid rfl
  obtain ⟨d, hd⟩ := hpolicy
  have hterminal : (counts.outcome 0).executionTerminal = true := by
    unfold BatchResolutionCounts.Fields.outcome
    split_ifs <;> rfl
  simp only [evaluateBatchOutcome, bind_eq_ok, exists_unit, requireString_eq_ok, invalidIf_eq_ok,
    hd, Except.ok.injEq, exists_eq_left']
  refine ⟨_, ⟨by decide, by simp, by decide, by simp, construct_of_ok ?_⟩, rfl⟩
  simp only [BatchOutcomeEvaluation.Fields.postInit, then_eq_ok, invalidIf_eq_ok,
    requireString_eq_ok]
  exact ⟨by simpa [strictPolicy] using hterminal, by decide⟩

theorem canonical_fanout {runId : String} (hid : isBlank runId = false)
    (resolutionSet : BatchItemResolutionSet) {entry : BatchItemResolution} {runSetDigest : Digest}
    (hset : resolutionSet.toFields = oneItem entry runSetDigest) :
    canonicalizeBatchCancellationScopeItems (resolutionSet.scopeEnvelope Digest.zero)
      resolutionSet.expectedItemKeys [fanout runId hid] = .ok [fanout runId hid] := by
  have hdigest : ∃ d, (fanout runId hid).scopeItemDigest = .ok d := canonicalDigest_of_valid rfl
  obtain ⟨d, hd⟩ := hdigest
  have henvelope : resolutionSet.scopeEnvelope Digest.zero = (fanout runId hid).envelope := by
    simp only [BatchItemResolutionSet.scopeEnvelope, hset]
    rfl
  simp only [henvelope, hset, canonicalizeBatchCancellationScopeItems, bind_eq_ok, exists_unit,
    requireNonemptyString_eq_ok, requireNonnegativeVersion_eq_ok, invalidIf_eq_ok, need_eq_ok,
    pure_eq_ok]
  refine ⟨(by decide : isBlank "batch-1" = false), (by decide : isBlank "manifest-1" = false),
    (by decide : (0 : ℤ) ≤ 1), by simp [oneItem], by simp [oneItem], by simp,
    [fanout runId hid], ?_, ?_, fanout runId hid, rfl, by simp, by simp, rfl⟩
  · simp only [collapseReplays, List.find?_nil, hd, ok_bind, List.nil_append]
  · simp only [oneItem, Sorting.sortOn_singleton, List.map_singleton, ne_eq, not_not]
    rfl

/-- The unknown facts of that Batch: one for an item with an unknown lineage. -/
theorem derives_ok {basis : RunFinalizationBasis} {resolutionSet : BatchItemResolutionSet}
    {entry : BatchItemResolution} {runSetDigest : Digest} (hr : Sampled r)
    (hset : resolutionSet.toFields = oneItem entry runSetDigest) (hrun : basis.runId = "run-1")
    (hentry : BatchItemResolution.fromRunResolution basis (oneRunSet r) r = .ok entry) :
    ∃ refs : List BatchUnknownFactRef,
      BatchFinalizationBasis.deriveRuns BatchFinalizationBasis.postInitRules resolutionSet
        [(basis.runId, basis)] {} [("run-1", oneRunSet r)] =
          .ok { entries := [entry], unknownFactRefs := refs } ∧
      (refs.length : ℤ) = resolutionSet.counts.unknownLineageCount ∧
      (refs = [] ∨ ∃ ref : BatchUnknownFactRef, ref.itemKey = firstItem ∧ refs = [ref]) := by
  obtain ⟨d, hd⟩ := itemDigest_ok hr
  have hclass := (BatchItemResolution.fromRunResolution_eq hentry).2.2.2.2
  have hcount : resolutionSet.counts.unknownLineageCount =
      [entry.classification].count .unknownLineage := by
    simp only [BatchItemResolutionSet.counts, BatchItemResolutionSet.classifications, hset]
    rfl
  have hitem : ∀ refs, (∃ d', BatchFinalizationBasis.deriveItem BatchFinalizationBasis.postInitRules
      basis (oneRunSet r) {} r = .ok d' ∧ d' = { entries := [entry], unknownFactRefs := refs }) →
      BatchFinalizationBasis.deriveRuns BatchFinalizationBasis.postInitRules resolutionSet
        [(basis.runId, basis)] {} [("run-1", oneRunSet r)] =
          .ok { entries := [entry], unknownFactRefs := refs } := by
    rintro refs ⟨_, hok, rfl⟩
    simp only [BatchFinalizationBasis.deriveRuns, bind_eq_ok]
    refine ⟨_, BatchFinalizationBasis.deriveRun_eq_ok.mpr ⟨(basis.runId, basis), by simp [hrun],
      by rw [hset]; exact ⟨rfl, rfl, rfl⟩, [], rfl, ?_⟩, rfl⟩
    simp only [oneRunSet, BatchFinalizationBasis.deriveItems, bind_eq_ok]
    exact ⟨_, hok, rfl⟩
  rcases hr with rfl | hr
  · have hfact : ∃ ref, BatchUnknownFactRef.fromResolution retriedItem = .ok ref ∧
        ref.itemKey = firstItem := by
      simp only [BatchUnknownFactRef.fromResolution, hd]
      exact ⟨_, rfl, rfl⟩
    obtain ⟨ref, href, hitemKey⟩ := hfact
    refine ⟨[ref], hitem _ ⟨_, BatchFinalizationBasis.deriveItem_eq_ok.mpr
      ⟨entry, hentry, by simp, Or.inl ⟨rfl, ref, href, rfl⟩⟩, rfl⟩, ?_, Or.inr ⟨ref, hitemKey, rfl⟩⟩
    rw [hcount, hclass]
    rfl
  · have hknown : BatchFinalizationBasis.postInitRules.isUnknown r entry = false := by
      rcases hr with rfl | rfl <;> rfl
    refine ⟨[], hitem _ ⟨_, BatchFinalizationBasis.deriveItem_eq_ok.mpr
      ⟨entry, hentry, by simp, Or.inr ⟨hknown, rfl⟩⟩, rfl⟩, ?_, Or.inl rfl⟩
    rw [hcount, hclass]
    rcases hr with rfl | rfl <;> rfl

/-- A cancelled Batch of that one item; no check of its basis looks at the Run a delivery fans
out to. -/
theorem sampled_accepted (hr : Sampled r) : ∃ f : BatchFinalizationBasis.Fields,
    f.runResolutionSets = [oneRunSet r] ∧ f.policy = strictPolicy ∧
    f.resolutionSet.expectedItemKeys = [firstItem] ∧
    f.resolutionSet.classifications = [r.aggregationClass.classification] ∧
    f.evaluation.batchCancellationIntentDigest = some Digest.zero ∧ f.Safe ∧
    ∀ runId hid, { f with cancellationScopeItems := [fanout runId hid] }.postInit = .ok () := by
  obtain ⟨s, hs⟩ := setDigest_ok hr
  obtain ⟨o, ho⟩ := originalDigest_ok hr
  obtain ⟨e, he⟩ := effectiveDigest_ok hr
  obtain ⟨entry, hentry⟩ := entry_ok hr hs ho he
  obtain ⟨hkey, hkind, hrunId, hversion, hclass⟩ :=
    BatchItemResolution.fromRunResolution_eq hentry
  have hsetDigest : ∃ d, canonicalMaterializedRunSetDigest "batch-1" ["run-1"] = .ok d :=
    canonicalDigest_of_valid rfl
  obtain ⟨runSetDigest, hrunSet⟩ := hsetDigest
  have hfirst : entry.itemKey = firstItem := by
    rw [hkey]
    rcases hr with rfl | rfl | rfl <;> rfl
  obtain ⟨resolutionSet, hset⟩ : ∃ set : BatchItemResolutionSet,
      set.toFields = oneItem entry runSetDigest := ⟨⟨_, oneItem_accepted hfirst hkind⟩, rfl⟩
  obtain ⟨evaluation, hevaluation, hintent⟩ := evaluation_ok resolutionSet.counts
  obtain ⟨refs, hderives, hcount, hrefs⟩ := derives_ok hr hset rfl hentry
  obtain ⟨basisDigest, hbasis⟩ := closingDigest_ok (s := s) (o := o) (e := e) hr
  obtain ⟨terminalRef, hterminal⟩ := BatchTerminalRunRef.fromBasis_of_digest hbasis
  refine ⟨{
    resolutionSet := resolutionSet
    runResolutionSets := [oneRunSet r]
    runBases := [closingBasis hr s o e]
    cancellationScopeItems := []
    terminalRunRefs := [terminalRef]
    nonRunRefs := []
    unknownFactRefs := refs
    policy := strictPolicy
    evaluation := evaluation }, rfl, rfl, by simp only [hset, oneItem], ?_, hintent, ?_,
    fun runId hid => ?_⟩
  · simp only [BatchItemResolutionSet.classifications, hset, ← hclass]
    rfl
  · have hentries : ∀ e ∈ resolutionSet.entries, e = entry := by
      simp [hset, oneItem]
    have hfirstItem : firstItem.Digestible := ⟨rfl, by decide⟩
    exact {
      batchId := by rw [hset]; rfl
      sourceBatchVersion := by
        rw [hset]
        exact (by decide : SafeInt 1)
      manifestId := by rw [hset]; rfl
      shardPlanId := by rw [hset]; rfl
      shardPlanVersion := by
        rw [hset]
        exact (by decide : SafeInt 1)
      itemCount := by
        rw [hset]
        exact (by decide : SafeInt 1)
      entries := by
        intro e he
        rw [hentries e he]
        refine ⟨hfirst ▸ hfirstItem, fun runId hid => ?_, fun n hn => ?_⟩
        · rw [hrunId] at hid
          cases hid
          rfl
        · rw [hversion] at hn
          cases hn
          exact (by decide : SafeInt 4)
      policyId := rfl
      policyVersion := (by decide : SafeInt 1)
      terminalRunRefs := by
        intro ref href
        obtain ⟨hid, href_version⟩ := BatchTerminalRunRef.fromBasis_eq hterminal
        rw [List.mem_singleton.mp href, hid, href_version]
        exact ⟨rfl, (by decide : SafeInt 4)⟩
      unknownFactRefs := by
        intro ref href
        rcases hrefs with rfl | ⟨_, hitemKey, rfl⟩
        · cases href
        · rw [List.mem_singleton.mp href, hitemKey]
          exact hfirstItem }
  · have hkinds : resolutionSet.runEntries = [entry] ∧ resolutionSet.notExecutedEntries = [] := by
      simp [BatchItemResolutionSet.runEntries, BatchItemResolutionSet.notExecutedEntries, hset,
        oneItem, hkind]
    refine BatchFinalizationBasis.Fields.postInit_eq_ok.mpr
      ⟨{ entries := [entry], unknownFactRefs := refs }, [terminalRef], ?_⟩
    exact {
      runSets_nodup := List.nodup_singleton _
      runBases_nodup := List.nodup_singleton _
      same_runs := ⟨fun _ h => h, fun _ h => h⟩
      derives := hderives
      run_entries := by
        rw [hkinds.1]
        exact ⟨fun _ h => h, fun _ h => h⟩
      evaluates := by
        rw [hintent]
        exact hevaluation
      terminal_keys := BatchFinalizationBasis.requireOrderedRefs_eq_ok.mpr
        ⟨List.nodup_singleton _, rfl⟩
      terminal_collected := by
        simp only [collect, hterminal, ok_bind]
        rfl
      terminal_refs := rfl
      non_run_keys := BatchFinalizationBasis.requireOrderedRefs_eq_ok.mpr ⟨List.nodup_nil, rfl⟩
      run_set_digest := by
        simp only [hset]
        exact hrunSet
      non_run_facts := by
        rw [hkinds.2]
        exact ⟨fun _ h => h, fun _ h => h⟩
      scope := by
        simp only [BatchFinalizationBasis.Fields.requireScope, hintent,
          canonical_fanout hid resolutionSet hset, ok_bind]
        rfl
      unknown_count := hcount
      unknown_keys := by
        apply BatchFinalizationBasis.requireOrderedRefs_eq_ok.mpr
        rcases hrefs with rfl | ⟨ref, -, rfl⟩
        · exact ⟨List.nodup_nil, rfl⟩
        · exact ⟨List.nodup_singleton _, rfl⟩
      unknown_refs := by
        rcases hrefs with rfl | ⟨ref, -, rfl⟩ <;> rfl }

end

end QaRunner
