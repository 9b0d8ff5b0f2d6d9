import QaRunner.Domain.Cancellation
import QaRunner.Domain.ResolutionDigest
import QaRunner.Lib.InstantText

/-! The canonical form of the scope items a Batch cancellation collects: what it depends on, when
there is one, and that it is its own. -/
namespace QaRunner
open Guarded

theorem BatchCancellationResolutionKind.value_inj {k l : BatchCancellationResolutionKind} :
    k.value = l.value ↔ k = l := by
  cases k <;> cases l <;> decide

namespace BatchCancellationScopeItem

variable {a b : BatchCancellationScopeItem} {items items' kept : List BatchCancellationScopeItem}

theorem recordedAt_utc (s : BatchCancellationScopeItem) : s.recordedAt.IsUtc := by
  have h := s.accepted
  simp only [Fields.postInit, then_eq_ok, requireUtc_eq_ok] at h
  exact h.2.2.2.2.2

/-- The payload is the whole item. -/
theorem canonicalPayload_inj : a.canonicalPayload = b.canonicalPayload ↔ a = b := by
  refine ⟨fun h => ?_, fun h => h ▸ rfl⟩
  simp only [canonicalPayload, Json.dict.injEq, List.cons.injEq, Prod.mk.injEq, true_and,
    and_true, Json.str.injEq, Str.text.injEq, Json.int.injEq, Digest.value_inj,
    RunItemKey.canonicalPayload_inj, optionalString_inj, optionalInt_inj,
    BatchCancellationResolutionKind.value_inj] at h
  obtain ⟨hbatch, hintent, hmanifest, hmanifestDigest, hkey, hversion, hplan, hkind, hrun,
    hrunVersion, -, hrecorded⟩ := h
  have hinstant : a.recordedAt = b.recordedAt := by
    have hmicros := Datetime.isoformat_injective hrecorded
    have hoffset := a.recordedAt_utc.trans b.recordedAt_utc.symm
    cases ha : a.recordedAt
    cases hb : b.recordedAt
    rw [ha, hb] at hmicros hoffset
    cases hmicros
    cases hoffset
    rfl
  obtain ⟨⟨_, _, _, _, _, _, _, _, _, _, _⟩, _⟩ := a
  obtain ⟨⟨_, _, _, _, _, _, _, _, _, _, _⟩, _⟩ := b
  cases hbatch
  cases hintent
  cases hmanifest
  cases hmanifestDigest
  cases hkey
  cases hversion
  cases hplan
  cases hkind
  cases hrun
  cases hrunVersion
  cases hinstant
  rfl

/-- The integers and the strings of the item fit into its digest. -/
structure Digestible (s : BatchCancellationScopeItem) : Prop where
  batch_id : s.batchId.isUnicode = true
  manifest_id : s.manifestId.isUnicode = true
  item_index : SafeInt s.manifestItemKey.itemIndex
  plan_version : SafeInt s.shardPlanVersion
  run_id : ∀ runId ∈ s.runId, runId.isUnicode = true
  run_version : ∀ n ∈ s.sourceRunVersion, SafeInt n

theorem itemKey_manifestId (s : BatchCancellationScopeItem) :
    s.manifestItemKey.manifestId = s.manifestId := by
  have h := s.accepted
  simp only [Fields.postInit, then_eq_ok, invalidIf_eq_ok, ne_eq, not_not] at h
  exact h.2.2.1

theorem scopeItemDigest_ok_iff {s : BatchCancellationScopeItem} :
    (∃ d, s.scopeItemDigest = .ok d) ↔ s.Digestible := by
  simp only [scopeItemDigest, canonicalDigest_eq_ok, exists_and_left, exists_eq', and_true]
  simp only [canonicalPayload, RunItemKey.canonicalPayload, itemKey_manifestId,
    validateJsonValue_dict, validateJsonFields_cons, validateJsonFields_nil, validateJsonValue_str,
    validateJsonValue_int, validateJsonValue_optionalString, validateJsonValue_optionalInt,
    Str.isUnicode_text, and_true, true_and]
  constructor
  · rintro ⟨hbatch, hmanifest, ⟨-, hindex⟩, hplan, hrun, hversion, -⟩
    exact ⟨hbatch, hmanifest, hindex, hplan, hrun, hversion⟩
  · rintro ⟨hbatch, hmanifest, hindex, hplan, hrun, hversion⟩
    exact ⟨hbatch, hmanifest, ⟨hmanifest, hindex⟩, hplan, hrun, hversion, hmanifest, hindex⟩

/-- The hash keeps the payloads of the items apart. -/
def Apart (items : List BatchCancellationScopeItem) : Prop :=
  ∀ a ∈ items, ∀ b ∈ items,
    contentDigest "qep.batch-cancellation-scope-item.v1" a.canonicalPayload =
      contentDigest "qep.batch-cancellation-scope-item.v1" b.canonicalPayload →
    a.canonicalPayload = b.canonicalPayload

/-- No two items under one delivery key differ. -/
def Agree (items : List BatchCancellationScopeItem) : Prop :=
  ∀ a ∈ items, ∀ b ∈ items, a.deliveryKey = b.deliveryKey → a = b

theorem eq_of_digest {d : Digest} (hapart : Apart items) (ha : a ∈ items) (hb : b ∈ items)
    (had : a.scopeItemDigest = .ok d) (hbd : b.scopeItemDigest = .ok d) : a = b := by
  obtain ⟨-, had⟩ := canonicalDigest_eq_ok.mp had
  obtain ⟨-, hbd⟩ := canonicalDigest_eq_ok.mp hbd
  exact canonicalPayload_inj.mp (hapart a ha b hb (had.trans hbd.symm))

/-- Without two answers under one key each item is kept once. -/
theorem collapseReplays_of_agree (hagree : Agree (kept ++ items))
    (hdigest : ∀ item ∈ kept ++ items, item.Digestible)
    (hkept : (kept.map (·.deliveryKey)).Nodup) :
    ∃ kept', collapseReplays kept items = .ok kept' ∧ (kept'.map (·.deliveryKey)).Nodup ∧
      ∀ item, item ∈ kept' ↔ item ∈ kept ++ items := by
  induction items generalizing kept with
  | nil => exact ⟨kept, rfl, hkept, fun item => by rw [List.append_nil]⟩
  | cons item items ih =>
    obtain ⟨d, hd⟩ := scopeItemDigest_ok_iff.mpr
      (hdigest item (List.mem_append_right _ List.mem_cons_self))
    rw [collapseReplays]
    cases hprior : kept.find? (fun k => k.deliveryKey = item.deliveryKey) with
    | some prior =>
      have hmem := List.mem_of_find?_eq_some hprior
      have hkey : prior.deliveryKey = item.deliveryKey := by simpa using List.find?_some hprior
      obtain rfl := hagree prior (List.mem_append_left _ hmem) item
        (List.mem_append_right _ List.mem_cons_self) hkey
      have hsame : ∀ other, other ∈ kept ++ prior :: items ↔ other ∈ kept ++ items :=
        fun _ => Keyed.mem_append_cons hmem
      simp only [Agree, hsame] at hagree
      simp only [hsame] at hdigest ⊢
      simp only [hd, ok_bind]
      rw [(invalidIf_eq_ok (u := ())).mpr (not_not.mpr rfl)]
      exact ih hagree hdigest hkept
    | none =>
      have hfresh := Keyed.find_none hprior
      have hsplit : kept ++ item :: items = kept ++ [item] ++ items := by
        rw [List.append_assoc, List.singleton_append]
      rw [hsplit] at hagree hdigest ⊢
      simp only [hd, ok_bind]
      apply ih hagree hdigest
      rw [List.map_append, List.map_singleton, List.nodup_append]
      refine ⟨hkept, List.nodup_singleton _, ?_⟩
      rintro _ hold _ hnew rfl
      obtain ⟨i, hi, hsame⟩ := List.mem_map.mp hold
      exact hfresh i hi (hsame.trans (List.mem_singleton.mp hnew))

/-- With two answers under one key the items are refused. -/
theorem collapseReplays_conflict (hapart : Apart (kept ++ items))
    (hdigest : ∀ item ∈ kept ++ items, item.Digestible) (hkept : Agree kept)
    (hconflict : ¬ Agree (kept ++ items)) :
    collapseReplays kept items =
      .error (.domainValidation "batch_cancellation_scope_items" "items" "replay_conflict") := by
  induction items generalizing kept with
  | nil =>
    rw [List.append_nil] at hconflict
    exact absurd hkept hconflict
  | cons item items ih =>
    have hitem : item ∈ kept ++ item :: items := List.mem_append_right _ List.mem_cons_self
    obtain ⟨d, hd⟩ := scopeItemDigest_ok_iff.mpr (hdigest item hitem)
    rw [collapseReplays]
    cases hprior : kept.find? (fun k => k.deliveryKey = item.deliveryKey) with
    | some prior =>
      have hmem := List.mem_of_find?_eq_some hprior
      have hpriorMem : prior ∈ kept ++ item :: items := List.mem_append_left _ hmem
      obtain ⟨stored, hstored⟩ := scopeItemDigest_ok_iff.mpr (hdigest prior hpriorMem)
      simp only [hstored, hd, ok_bind]
      by_cases hsame : stored = d
      · rw [hsame] at hstored
        obtain rfl := eq_of_digest hapart hpriorMem hitem hstored hd
        have hmembers : ∀ other, other ∈ kept ++ prior :: items ↔ other ∈ kept ++ items :=
          fun _ => Keyed.mem_append_cons hmem
        simp only [Apart, Agree, hmembers] at hapart hconflict
        simp only [hmembers] at hdigest
        rw [(invalidIf_eq_ok (u := ())).mpr (not_not.mpr hsame)]
        exact ih hapart hdigest hkept hconflict
      · rw [invalidIf, raiseIf, if_pos hsame]
        rfl
    | none =>
      have hfresh := Keyed.find_none hprior
      have hsplit : kept ++ item :: items = kept ++ [item] ++ items := by
        rw [List.append_assoc, List.singleton_append]
      rw [hsplit] at hapart hdigest hconflict
      simp only [hd, ok_bind]
      refine ih hapart hdigest ?_ hconflict
      intro x hx y hy hkey
      rcases List.mem_append.mp hx with hx | hx
      · rcases List.mem_append.mp hy with hy | hy
        · exact hkept x hx y hy hkey
        · rw [List.mem_singleton.mp hy] at hkey
          exact absurd hkey (hfresh x hx)
      · rcases List.mem_append.mp hy with hy | hy
        · rw [List.mem_singleton.mp hx] at hkey
          exact absurd hkey.symm (hfresh y hy)
        · rw [List.mem_singleton.mp hx, List.mem_singleton.mp hy]

/-- The checks made before the items are looked at. -/
def admitScope (envelope : ScopeEnvelope) (expectedItemKeys : List RunItemKey) : Result Unit := do
  requireNonemptyString "batch_cancellation_scope_items" "batch_id" envelope.batchId
  requireNonemptyString "batch_cancellation_scope_items" "manifest_id" envelope.manifestId
  requireNonnegativeVersion "batch_cancellation_scope_items" "shard_plan_version"
    envelope.shardPlanVersion
  invalidIf (expectedItemKeys = []) "batch_cancellation_scope_items" "expected_item_keys" "invalid"
  invalidIf (¬ expectedItemKeys.Nodup) "batch_cancellation_scope_items" "expected_item_keys"
    "duplicate"

/-- What is made of the items that were kept. -/
def settle (envelope : ScopeEnvelope) (expectedItemKeys : List RunItemKey)
    (kept : List BatchCancellationScopeItem) : Result (List BatchCancellationScopeItem) := do
  let canonical := Sorting.sortOn (·.manifestItemKey) kept
  invalidIf (canonical.map (·.manifestItemKey) ≠ Sorting.sortOn id expectedItemKeys)
    "batch_cancellation_scope_items" "items" "manifest_coverage_mismatch"
  let first ← need canonical.head? (.crash .indexError)
  invalidIf (∃ item ∈ canonical, item.envelope ≠ first.envelope) "batch_cancellation_scope_items"
    "items" "envelope_mismatch"
  invalidIf (first.envelope ≠ envelope) "batch_cancellation_scope_items" "items"
    "authoritative_envelope_mismatch"
  return canonical

section
variable {envelope : ScopeEnvelope} {expectedItemKeys : List RunItemKey}
  {canonical : List BatchCancellationScopeItem}

theorem canonicalize_eq_settle (hne : items ≠ []) :
    canonicalizeBatchCancellationScopeItems envelope expectedItemKeys items =
      (admitScope envelope expectedItemKeys >>= fun _ =>
        collapseReplays [] items >>= settle envelope expectedItemKeys) := by
  have hitems : invalidIf (items = []) "batch_cancellation_scope_items" "items" "invalid" =
      .ok () := invalidIf_eq_ok.mpr hne
  simp only [canonicalizeBatchCancellationScopeItems, hitems, admitScope, bind_assoc]
  rfl

theorem admitScope_eq_ok {u : Unit} : admitScope envelope expectedItemKeys = .ok u ↔
    isBlank envelope.batchId = false ∧ isBlank envelope.manifestId = false ∧
      0 ≤ envelope.shardPlanVersion ∧ expectedItemKeys ≠ [] ∧ expectedItemKeys.Nodup := by
  simp only [admitScope, then_eq_ok, requireNonemptyString_eq_ok, requireNonnegativeVersion_eq_ok,
    invalidIf_eq_ok, not_not, ne_eq]

/-- Kept items in another order come out the same. -/
theorem settle_perm (hexpected : expectedItemKeys.Nodup) (hperm : kept.Perm items) :
    settle envelope expectedItemKeys kept = settle envelope expectedItemKeys items := by
  by_cases hnodup : (kept.map (·.manifestItemKey)).Nodup
  · rw [settle, settle, Sorting.sortOn_eq_of_perm hperm hnodup]
  · have hrefused : ∀ other : List BatchCancellationScopeItem, kept.Perm other →
        settle envelope expectedItemKeys other = .error (.domainValidation
          "batch_cancellation_scope_items" "items" "manifest_coverage_mismatch") := by
      intro other hother
      have hdiffers : (Sorting.sortOn (·.manifestItemKey) other).map (·.manifestItemKey) ≠
          Sorting.sortOn id expectedItemKeys := by
        intro hsame
        have hsorted := (Sorting.sortOn_perm id expectedItemKeys).nodup_iff.mpr hexpected
        rw [← hsame] at hsorted
        have hkeys := ((hother.trans (Sorting.sortOn_perm (·.manifestItemKey) other).symm).map
          (·.manifestItemKey)).nodup_iff.mpr hsorted
        exact hnodup hkeys
      rw [settle, invalidIf, raiseIf, if_pos hdiffers]
      rfl
    rw [hrefused kept (.refl _), hrefused items hperm]

/-- Items for exactly the expected keys, all under the envelope, are taken in key order. -/
theorem settle_of_keys (hkeys : (kept.map (·.manifestItemKey)).Perm expectedItemKeys)
    (hne : expectedItemKeys ≠ []) (hexpected : expectedItemKeys.Nodup)
    (henvelope : ∀ item ∈ kept, item.envelope = envelope) :
    settle envelope expectedItemKeys kept = .ok (Sorting.sortOn (·.manifestItemKey) kept) := by
  have hsorted : (Sorting.sortOn (·.manifestItemKey) kept).map (·.manifestItemKey) =
      Sorting.sortOn id expectedItemKeys := by
    have hperm : ((Sorting.sortOn (·.manifestItemKey) kept).map (·.manifestItemKey)).Perm
        (Sorting.sortOn id expectedItemKeys) :=
      (((Sorting.sortOn_perm _ kept).map _).trans hkeys).trans (Sorting.sortOn_perm id _).symm
    have hnodup := hperm.nodup_iff.mpr ((Sorting.sortOn_perm id _).nodup_iff.mpr hexpected)
    rw [← List.map_id (List.map _ _)] at hnodup
    apply Sorting.eq_of_perm hperm hnodup
    · exact List.pairwise_map.mpr (Sorting.pairwise_sortOn (·.manifestItemKey) kept)
    · exact Sorting.pairwise_sortOn id expectedItemKeys
  have hall : ∀ item ∈ Sorting.sortOn (·.manifestItemKey) kept, item.envelope = envelope :=
    fun item hitem => henvelope item (Sorting.mem_sortOn.mp hitem)
  have hitems : Sorting.sortOn (·.manifestItemKey) kept ≠ [] := by
    intro hempty
    rw [hempty] at hsorted
    exact hne (List.Perm.eq_nil (hsorted.symm ▸ Sorting.sortOn_perm id expectedItemKeys).symm)
  obtain ⟨first, hfirst⟩ := Option.ne_none_iff_exists'.mp (mt List.head?_eq_none_iff.mp hitems)
  have hhead := hall first (List.mem_of_head? hfirst)
  simp only [settle, bind_eq_ok, exists_unit, invalidIf_eq_ok, need_eq_ok, pure_eq_ok, ne_eq,
    not_not, and_true]
  refine ⟨hsorted, first, hfirst, ?_, hhead⟩
  rintro ⟨item, hitem, hdiffers⟩
  exact hdiffers ((hall item hitem).trans hhead.symm)

/-- A canonical scope was collapsed from items that all have a digest. -/
theorem collapse_of_canonical
    (h : canonicalizeBatchCancellationScopeItems envelope expectedItemKeys items = .ok canonical) :
    admitScope envelope expectedItemKeys = .ok () ∧
      ∃ kept, collapseReplays [] items = .ok kept ∧
        settle envelope expectedItemKeys kept = .ok canonical := by
  have hne : items ≠ [] := by
    rintro rfl
    simp only [canonicalizeBatchCancellationScopeItems, bind_eq_ok, exists_unit,
      invalidIf_eq_ok] at h
    exact h.2.2.2.2.2.1 trivial
  rw [canonicalize_eq_settle hne, then_eq_ok, bind_eq_ok] at h
  exact h

theorem digestible_of_canonical
    (h : canonicalizeBatchCancellationScopeItems envelope expectedItemKeys items = .ok canonical) :
    ∀ item ∈ items, item.Digestible := by
  obtain ⟨-, kept, hkept, -⟩ := collapse_of_canonical h
  intro item hitem
  exact scopeItemDigest_ok_iff.mp (digest_of_collapse hkept item hitem)

/-- Whether items that have a digest collapse is whether they agree. -/
theorem collapse_cases (hapart : Apart items) (hdigest : ∀ item ∈ items, item.Digestible) :
    (Agree items ∧ ∃ kept, collapseReplays [] items = .ok kept ∧
      (kept.map (·.deliveryKey)).Nodup ∧ ∀ item, item ∈ kept ↔ item ∈ items) ∨
    (¬ Agree items ∧ collapseReplays [] items = .error
      (.domainValidation "batch_cancellation_scope_items" "items" "replay_conflict")) := by
  by_cases hagree : Agree items
  · exact Or.inl ⟨hagree, collapseReplays_of_agree hagree hdigest List.nodup_nil⟩
  · exact Or.inr ⟨hagree, collapseReplays_conflict hapart hdigest
      (fun a ha => absurd ha List.not_mem_nil) hagree⟩

/-- Neither the order nor the repetition of items that have a digest matters. -/
theorem canonicalize_congr (hne : items ≠ []) (hapart : Apart items)
    (hdigest : ∀ item ∈ items, item.Digestible) (hsame : ∀ item, item ∈ items' ↔ item ∈ items) :
    canonicalizeBatchCancellationScopeItems envelope expectedItemKeys items' =
      canonicalizeBatchCancellationScopeItems envelope expectedItemKeys items := by
  have hne' : items' ≠ [] := by
    rintro rfl
    obtain ⟨item, hitem⟩ := List.exists_mem_of_ne_nil items hne
    exact List.not_mem_nil ((hsame item).mpr hitem)
  have hapart' : Apart items' := by
    simp only [Apart, hsame]
    exact hapart
  have hdigest' : ∀ item ∈ items', item.Digestible := by
    simp only [hsame]
    exact hdigest
  have hagree : Agree items' ↔ Agree items := by simp only [Agree, hsame]
  rw [canonicalize_eq_settle hne, canonicalize_eq_settle hne']
  cases hadmitted : admitScope envelope expectedItemKeys with
  | error e => rfl
  | ok _ =>
    obtain ⟨-, -, -, -, hexpected⟩ := admitScope_eq_ok.mp hadmitted
    simp only [ok_bind]
    rcases collapse_cases hapart hdigest with ⟨h, kept, hkept, hnodup, hmem⟩ | ⟨h, hkept⟩
    · rcases collapse_cases hapart' hdigest' with ⟨-, kept', hkept', hnodup', hmem'⟩ | ⟨h', -⟩
      · rw [hkept, hkept']
        apply settle_perm hexpected
        apply (List.perm_ext_iff_of_nodup hnodup'.of_map hnodup.of_map).mpr
        intro item
        rw [hmem', hmem, hsame]
      · exact absurd (hagree.mpr h) h'
    · rcases collapse_cases hapart' hdigest' with ⟨h', -⟩ | ⟨-, hkept'⟩
      · exact absurd (hagree.mp h') h
      · rw [hkept, hkept']

/-- An item was checked for what its envelope is checked for. -/
theorem admitScope_of_item (henvelope : a.envelope = envelope) (hne : expectedItemKeys ≠ [])
    (hexpected : expectedItemKeys.Nodup) : admitScope envelope expectedItemKeys = .ok () := by
  have h := a.accepted
  simp only [Fields.postInit, then_eq_ok, requireNonemptyString_eq_ok,
    requireNonnegativeVersion_eq_ok] at h
  obtain ⟨hbatch, hmanifest, -, hversion, -⟩ := h
  subst henvelope
  exact admitScope_eq_ok.mpr ⟨hbatch, hmanifest, hversion, hne, hexpected⟩

/-- There is a canonical form when the items carry the envelope, agree, cover exactly the expected
items, none of them expected twice, and have digests. -/
theorem canonicalize_ok_iff (hne : items ≠ []) (hapart : Apart items) :
    (∃ canonical,
      canonicalizeBatchCancellationScopeItems envelope expectedItemKeys items = .ok canonical) ↔
    (∀ item ∈ items, item.envelope = envelope) ∧ Agree items ∧ expectedItemKeys.Nodup ∧
      (∀ key, key ∈ expectedItemKeys ↔ ∃ item ∈ items, item.manifestItemKey = key) ∧
      ∀ item ∈ items, item.Digestible := by
  constructor
  · rintro ⟨canonical, h⟩
    have hdigest := digestible_of_canonical h
    obtain ⟨hadmitted, kept, hkept, hsettle⟩ := collapse_of_canonical h
    obtain ⟨-, -, -, -, hexpected⟩ := admitScope_eq_ok.mp hadmitted
    obtain ⟨hkeys, hfirst, henvelope⟩ := canonicalizeBatchCancellationScopeItems_eq h
    rcases collapse_cases hapart hdigest with ⟨hagree, -⟩ | ⟨-, hconflict⟩
    · have hcanonical : ∀ item, item ∈ canonical ↔ item ∈ items := by
        intro item
        rw [hfirst]
        constructor
        · exact List.mem_of_find?_eq_some
        · intro hitem
          have hsome : (items.find? fun i => i.deliveryKey = item.deliveryKey).isSome :=
            List.find?_isSome.mpr ⟨item, hitem, decide_eq_true rfl⟩
          obtain ⟨other, hother⟩ := Option.isSome_iff_exists.mp hsome
          have hkey : other.deliveryKey = item.deliveryKey := by simpa using List.find?_some hother
          rw [hother, hagree other (List.mem_of_find?_eq_some hother) item hitem hkey]
      refine ⟨fun item hitem => henvelope item ((hcanonical item).mpr hitem), hagree, hexpected,
        fun key => ?_, hdigest⟩
      calc key ∈ expectedItemKeys
          ↔ key ∈ Sorting.sortOn id expectedItemKeys := Sorting.mem_sortOn.symm
        _ ↔ ∃ item ∈ items, item.manifestItemKey = key := by
          rw [← hkeys, List.mem_map]
          simp only [hcanonical]
    · rw [hconflict] at hkept
      cases hkept
  · rintro ⟨henvelope, hagree, hexpected, hkeys, hdigest⟩
    obtain ⟨first, hfirst⟩ := List.exists_mem_of_ne_nil items hne
    have hexpectedNe : expectedItemKeys ≠ [] :=
      List.ne_nil_of_mem ((hkeys _).mpr ⟨first, hfirst, rfl⟩)
    rcases collapse_cases hapart hdigest with ⟨-, kept, hkept, hnodup, hmem⟩ | ⟨hno, -⟩
    · have hkeptEnvelope : ∀ item ∈ kept, item.envelope = envelope :=
        fun item hitem => henvelope item ((hmem item).mp hitem)
      have hkeptKeys : (kept.map (·.manifestItemKey)).Nodup := by
        apply List.Nodup.map_on _ hnodup.of_map
        intro x hx y hy hkey
        have hintent := congrArg ScopeEnvelope.batchCancellationIntentDigest
          ((hkeptEnvelope x hx).trans (hkeptEnvelope y hy).symm)
        exact hagree x ((hmem x).mp hx) y ((hmem y).mp hy) (Prod.ext hintent hkey)
      have hperm : (kept.map (·.manifestItemKey)).Perm expectedItemKeys := by
        apply (List.perm_ext_iff_of_nodup hkeptKeys hexpected).mpr
        intro key
        rw [hkeys, List.mem_map]
        simp only [hmem]
      rw [canonicalize_eq_settle hne,
        admitScope_of_item (henvelope first hfirst) hexpectedNe hexpected, ok_bind, hkept]
      exact ⟨_, settle_of_keys hperm hexpectedNe hexpected hkeptEnvelope⟩
    · exact absurd hagree hno

/-- The canonical form of scope items depends on which items there are alone, is its own canonical
form, has one item for each expected key in order, and exists when the items fit together. -/
theorem scope_items_normal_form (envelope : ScopeEnvelope) (expectedItemKeys : List RunItemKey)
    (items : List BatchCancellationScopeItem) (hne : items ≠ []) (hapart : Apart items) :
    (∀ items', (∀ item, item ∈ items' ↔ item ∈ items) →
      (∀ canonical,
        canonicalizeBatchCancellationScopeItems envelope expectedItemKeys items' = .ok canonical ↔
        canonicalizeBatchCancellationScopeItems envelope expectedItemKeys items = .ok canonical) ∧
      ((∀ item ∈ items, item.Digestible) →
        canonicalizeBatchCancellationScopeItems envelope expectedItemKeys items' =
          canonicalizeBatchCancellationScopeItems envelope expectedItemKeys items)) ∧
    (∀ canonical,
      canonicalizeBatchCancellationScopeItems envelope expectedItemKeys items = .ok canonical →
      canonicalizeBatchCancellationScopeItems envelope expectedItemKeys canonical =
        .ok canonical ∧
      canonical.map (·.manifestItemKey) = Sorting.sortOn id expectedItemKeys ∧
      ∀ item, item ∈ canonical → item ∈ items) ∧
    ((∃ canonical,
      canonicalizeBatchCancellationScopeItems envelope expectedItemKeys items = .ok canonical) ↔
      (∀ item ∈ items, item.envelope = envelope) ∧ Agree items ∧ expectedItemKeys.Nodup ∧
        (∀ key, key ∈ expectedItemKeys ↔ ∃ item ∈ items, item.manifestItemKey = key) ∧
        ∀ item ∈ items, item.Digestible) := by
  refine ⟨fun items' hsame => ⟨fun canonical => ?_, fun hdigest => ?_⟩, fun canonical h => ?_,
    canonicalize_ok_iff hne hapart⟩
  · constructor
    · intro h
      have hdigest : ∀ item ∈ items, item.Digestible :=
        fun item hitem => digestible_of_canonical h item ((hsame item).mpr hitem)
      rw [← canonicalize_congr hne hapart hdigest hsame]
      exact h
    · intro h
      rw [canonicalize_congr hne hapart (digestible_of_canonical h) hsame]
      exact h
  · exact canonicalize_congr hne hapart hdigest hsame
  · obtain ⟨hkeys, hfirst, henvelope⟩ := canonicalizeBatchCancellationScopeItems_eq h
    refine ⟨canonicalize_of_canonical h rfl henvelope (digest_of_canonical h), hkeys, ?_⟩
    intro item hitem
    exact List.mem_of_find?_eq_some ((hfirst item).mp hitem)

end

def plannedItem (index : ℕ) : RunItemKey where
  manifestId := "manifest-1"
  itemIndex := index
  accepted := by
    simp only [RunItemKey.Fields.postInit, then_eq_ok, invalidIf_eq_ok, not_lt]
    exact ⟨by decide, Int.natCast_nonneg index⟩

def skippedFirst : BatchCancellationScopeItem where
  batchId := "batch-1"
  batchCancellationIntentDigest := .zero
  manifestId := "manifest-1"
  manifestDigest := .zero
  manifestItemKey := plannedItem 0
  shardPlanVersion := 1
  shardPlanDigest := .zero
  resolutionKind := .notExecuted
  runId := none
  sourceRunVersion := none
  recordedAt := ⟨1000000, some 0⟩
  accepted := by decide

def skippedSecond : BatchCancellationScopeItem :=
  { skippedFirst with
    manifestItemKey := plannedItem 1
    accepted := by decide }

theorem skipped_apart : Apart [skippedSecond, skippedFirst, skippedSecond] := by
  have hdiffer :
      contentDigest "qep.batch-cancellation-scope-item.v1" skippedFirst.canonicalPayload ≠
        contentDigest "qep.batch-cancellation-scope-item.v1" skippedSecond.canonicalPayload := by
    decide +kernel
  intro a ha b hb h
  simp only [List.mem_cons, List.not_mem_nil, or_false] at ha hb
  rcases ha with rfl | rfl | rfl <;> rcases hb with rfl | rfl | rfl
  all_goals first
    | rfl
    | exact absurd h hdiffer
    | exact absurd h.symm hdiffer

theorem scope_items_normal_form_skipped :
    canonicalizeBatchCancellationScopeItems skippedFirst.envelope [plannedItem 0, plannedItem 1]
        [skippedFirst, skippedSecond] =
      canonicalizeBatchCancellationScopeItems skippedFirst.envelope
        [plannedItem 0, plannedItem 1] [skippedSecond, skippedFirst, skippedSecond] ∧
    ∃ canonical, canonicalizeBatchCancellationScopeItems skippedFirst.envelope
      [plannedItem 0, plannedItem 1] [skippedSecond, skippedFirst, skippedSecond] =
        .ok canonical := by
  have hdigest : ∀ item ∈ [skippedSecond, skippedFirst, skippedSecond], item.Digestible := by
    intro item hitem
    simp only [List.mem_cons, List.not_mem_nil, or_false] at hitem
    rcases hitem with rfl | rfl | rfl
    all_goals exact ⟨rfl, rfl, by decide, by decide, fun _ h => absurd h (Option.not_mem_none _),
      fun _ h => absurd h (Option.not_mem_none _)⟩
  obtain ⟨hsame, -, hexists⟩ := scope_items_normal_form skippedFirst.envelope
    [plannedItem 0, plannedItem 1] [skippedSecond, skippedFirst, skippedSecond]
    (List.cons_ne_nil _ _) skipped_apart
  refine ⟨(hsame [skippedFirst, skippedSecond] ?_).2 hdigest, hexists.mpr ?_⟩
  · intro item
    simp only [List.mem_cons, List.not_mem_nil, or_false]
    tauto
  · refine ⟨?_, ?_, by decide, ?_, hdigest⟩
    · decide
    · unfold Agree
      decide
    · intro key
      simp only [List.mem_cons, List.not_mem_nil, or_false, exists_eq_or_imp, exists_eq_left]
      constructor
      · rintro (rfl | rfl)
        · exact Or.inr (Or.inl rfl)
        · exact Or.inl rfl
      · rintro (rfl | rfl | rfl)
        · exact Or.inr rfl
        · exact Or.inl rfl
        · exact Or.inr rfl

/-- An item under a plan version past the safe integers. -/
def oversizedItem : BatchCancellationScopeItem :=
  { skippedFirst with
    shardPlanVersion := 9007199254740992
    accepted := by decide }

/-- Items may fit together and have no canonical form, as one of them has no digest. -/
theorem oversized_scope_refused :
    ¬ ∀ (envelope : ScopeEnvelope) (expectedItemKeys : List RunItemKey)
      (items : List BatchCancellationScopeItem), items ≠ [] → Apart items →
      ((∃ canonical, canonicalizeBatchCancellationScopeItems envelope expectedItemKeys items =
          .ok canonical) ↔
        (∀ item ∈ items, item.envelope = envelope) ∧ Agree items ∧ expectedItemKeys.Nodup ∧
          ∀ key, key ∈ expectedItemKeys ↔ ∃ item ∈ items, item.manifestItemKey = key) := by
  intro hall
  have hapart : Apart [oversizedItem] := by
    intro a ha b hb _
    rw [List.mem_singleton.mp ha, List.mem_singleton.mp hb]
  obtain ⟨canonical, h⟩ := (hall oversizedItem.envelope [plannedItem 0] [oversizedItem]
    (List.cons_ne_nil _ _) hapart).mpr (by
      simp only [Agree, List.mem_singleton, forall_eq, List.nodup_singleton, exists_eq_left]
      exact ⟨trivial, fun _ => trivial, trivial, fun key => eq_comm⟩)
  have hsafe := (digestible_of_canonical h oversizedItem List.mem_cons_self).plan_version
  exact absurd hsafe (by decide)

end BatchCancellationScopeItem
end QaRunner
