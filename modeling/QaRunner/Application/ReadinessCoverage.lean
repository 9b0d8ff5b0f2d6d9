import QaRunner.Application.BatchReadiness

/-! The closures of an accepted readiness snapshot cover the frozen plan exactly. -/
namespace QaRunner
open Guarded Manifest

namespace BoundShardPlan

theorem bindings_valid (b : BoundShardPlan) : validateRunBindings b.plan b.bindings = .ok () := by
  have h := b.accepted
  simp only [Fields.postInit, then_eq_ok] at h
  exact h.2

theorem runIds_nodup (b : BoundShardPlan) : (b.bindings.map (·.runId)).Nodup := by
  have h := b.bindings_valid
  simp only [validateRunBindings, then_eq_ok, invalidIf_eq_ok, not_not] at h
  exact h.1

/-- Every planned shard is bound once, and nothing else is. -/
theorem shardIndices_perm (b : BoundShardPlan) :
    (b.bindings.map (·.shardIndex)).Perm (b.plan.shards.map (·.shardIndex)) := by
  have h := b.bindings_valid
  simp only [validateRunBindings, then_eq_ok] at h
  exact (requireExactCover_eq_ok (candidate_of_ok b.plan.candidate_valid).distinct).mp h.2

theorem shardIndices_nodup (b : BoundShardPlan) : (b.bindings.map (·.shardIndex)).Nodup :=
  b.shardIndices_perm.nodup_iff.mpr (candidate_of_ok b.plan.candidate_valid).distinct

end BoundShardPlan

theorem RunItemKey.new_eq_ok {f : RunItemKey.Fields} {k : RunItemKey} (h : new f = .ok k) :
    k.toFields = f := by
  rw [new, construct_eq_ok] at h
  obtain ⟨_, rfl⟩ := h
  rfl

theorem RunItemKey.toFields_injective : Function.Injective RunItemKey.toFields := by
  rintro ⟨k, _⟩ ⟨l, _⟩ h
  cases h
  rfl

namespace BatchFinalizationReadinessSnapshot

variable {s : BatchFinalizationReadinessSnapshot} {c d : BatchRunClosure}
  {shard shard' : PlannedShard}

def plan (s : BatchFinalizationReadinessSnapshot) : ShardPlan := s.bound.plan

/-- The Run of the closure is bound to the shard. -/
def BoundTo (s : BatchFinalizationReadinessSnapshot) (c : BatchRunClosure)
    (shard : PlannedShard) : Prop :=
  shard ∈ s.plan.shards ∧
    ∃ b ∈ s.bound.bindings, b.runId = c.runId ∧ b.shardIndex = shard.shardIndex

/-- What an accepted snapshot has been checked for. -/
structure Checked (s : BatchFinalizationReadinessSnapshot) : Prop where
  manifest : s.plan.manifest.id = s.manifestId
  runs : Sorting.sortOn id (s.bound.bindings.map (·.runId)) = s.canonicalRunIds
  closures : s.runClosures.map (·.runId) = s.canonicalRunIds
  bases : ∀ c ∈ s.runClosures, c.basis.batchId = s.batchId ∧
    c.basis.manifestDigest = s.manifestDigest ∧ c.basis.shardPlanDigest = s.shardPlanDigest
  owns : ∀ c ∈ s.runClosures, s.validateOwnership c = .ok ()

theorem checked (s : BatchFinalizationReadinessSnapshot) : s.Checked := by
  have h := s.accepted
  simp only [Fields.postInit, bind_eq_ok, exists_unit, Fields.validateFrozenPlan,
    Port.invalidIf_eq_ok, each_eq_ok, not_or, not_exists, not_and, not_not, ne_eq] at h
  obtain ⟨-, -, -, -, ⟨-, -, -, hmanifest, -, -, hruns⟩, _, -, -, ⟨hclosures, hbases⟩, howns,
    -⟩ := h
  exact ⟨hmanifest, hruns, hclosures, hbases, howns⟩

theorem closure_runIds_perm (s : BatchFinalizationReadinessSnapshot) :
    (s.runClosures.map (·.runId)).Perm (s.bound.bindings.map (·.runId)) := by
  rw [s.checked.closures, ← s.checked.runs]
  exact Sorting.sortOn_perm id _

theorem closure_runIds_nodup (s : BatchFinalizationReadinessSnapshot) :
    (s.runClosures.map (·.runId)).Nodup :=
  s.closure_runIds_perm.nodup_iff.mpr s.bound.runIds_nodup

theorem exists_shard (hc : c ∈ s.runClosures) : ∃ shard, s.BoundTo c shard := by
  have hrun := s.closure_runIds_perm.mem_iff.mp (List.mem_map_of_mem hc)
  obtain ⟨b, hb, hsame⟩ := List.mem_map.mp hrun
  have hindex := s.bound.shardIndices_perm.mem_iff.mp (List.mem_map_of_mem hb)
  obtain ⟨shard, hshard, hshardIndex⟩ := List.mem_map.mp hindex
  exact ⟨shard, hshard, b, hb, hsame, hshardIndex.symm⟩

theorem exists_closure (hshard : shard ∈ s.plan.shards) :
    ∃ c ∈ s.runClosures, s.BoundTo c shard := by
  have hindex := s.bound.shardIndices_perm.mem_iff.mpr (List.mem_map_of_mem hshard)
  obtain ⟨b, hb, hsame⟩ := List.mem_map.mp hindex
  have hrun := s.closure_runIds_perm.mem_iff.mpr (List.mem_map_of_mem hb)
  obtain ⟨c, hc, hrunId⟩ := List.mem_map.mp hrun
  exact ⟨c, hc, hshard, b, hb, hrunId.symm, hsame⟩

theorem BoundTo.shard_eq (h : s.BoundTo c shard) (h' : s.BoundTo c shard') : shard = shard' := by
  obtain ⟨hshard, b, hb, hrun, hindex⟩ := h
  obtain ⟨hshard', b', hb', hrun', hindex'⟩ := h'
  have hbinding : b = b' :=
    Keyed.eq_of_key s.bound.runIds_nodup hb hb' (hrun.trans hrun'.symm)
  subst hbinding
  exact (candidate_of_ok s.plan.candidate_valid).eq_of_shardIndex hshard hshard'
    (hindex.symm.trans hindex')

theorem BoundTo.closure_eq (h : s.BoundTo c shard) (h' : s.BoundTo d shard)
    (hc : c ∈ s.runClosures) (hd : d ∈ s.runClosures) : c = d := by
  obtain ⟨-, b, hb, hrun, hindex⟩ := h
  obtain ⟨-, b', hb', hrun', hindex'⟩ := h'
  have hbinding : b = b' :=
    Keyed.eq_of_key s.bound.shardIndices_nodup hb hb' (hindex.trans hindex'.symm)
  subst hbinding
  exact Keyed.eq_of_key s.closure_runIds_nodup hc hd (hrun.symm.trans hrun')

/-- A closure holds the items of the shard its Run is bound to, in their order. -/
theorem itemKeys_eq (hc : c ∈ s.runClosures) (h : s.BoundTo c shard) :
    c.itemKeys.map (·.toFields) = shard.manifestItemIndices.map (⟨s.manifestId, ·⟩) := by
  have howns := s.checked.owns c hc
  simp only [Fields.validateOwnership, bind_eq_ok, need_eq_ok, Port.lift_eq_ok,
    Port.invalidIf_eq_ok, not_not, ne_eq, collect_eq_ok] at howns
  obtain ⟨b, hb, owner, howner, keys, hkeys, hactual⟩ := howns
  obtain ⟨hb, hrun⟩ := Keyed.find_reverse_some hb
  obtain ⟨howner, hindex⟩ := Keyed.find_reverse_some howner
  have hbound : s.BoundTo c owner := ⟨howner, b, hb, hrun, hindex.symm⟩
  rw [h.shard_eq hbound, hactual]
  symm
  rw [← List.forall₂_eq_eq_eq, List.forall₂_map_left_iff, List.forall₂_map_right_iff]
  exact hkeys.imp fun index key hkey => (RunItemKey.new_eq_ok hkey).symm

theorem mem_itemKeys (hc : c ∈ s.runClosures) (h : s.BoundTo c shard) {key : RunItemKey} :
    key ∈ c.itemKeys ↔
      ∃ index ∈ shard.manifestItemIndices, key.toFields = ⟨s.manifestId, index⟩ := by
  rw [← List.mem_map_of_injective RunItemKey.toFields_injective, itemKeys_eq hc h, List.mem_map]
  exact exists_congr fun index => and_congr_right fun _ => eq_comm

/-- Each item of the frozen manifest is resolved in the closure of the one Run that is bound to its
shard, and all closures are of this Batch, manifest and plan. -/
structure CoversPlan (s : BatchFinalizationReadinessSnapshot) : Prop where
  disjoint : s.runClosures.Pairwise fun c d => c.itemKeys.Disjoint d.itemKeys
  union : ∀ key : RunItemKey, (∃ c ∈ s.runClosures, key ∈ c.itemKeys) ↔
    ∃ item ∈ s.plan.manifest.items, key.toFields = ⟨s.plan.manifest.id, item.itemIndex⟩
  bound : ∀ c ∈ s.runClosures, ∃! shard, s.BoundTo c shard
  owns : ∀ c ∈ s.runClosures, ∀ shard, s.BoundTo c shard →
    c.itemKeys.map (·.toFields) = shard.manifestItemIndices.map (⟨s.plan.manifest.id, ·⟩)
  one : ∀ shard ∈ s.plan.shards, ∃! c, c ∈ s.runClosures ∧ s.BoundTo c shard
  bases : ∀ c ∈ s.runClosures, c.basis.batchId = s.batchId ∧
    c.basis.manifestDigest = s.manifestDigest ∧ c.basis.shardPlanDigest = s.shardPlanDigest

theorem closures_disjoint (s : BatchFinalizationReadinessSnapshot) :
    s.runClosures.Pairwise fun c d => c.itemKeys.Disjoint d.itemKeys := by
  have hpairs := List.pairwise_map.mp s.closure_runIds_nodup
  refine hpairs.imp_of_mem fun {c d} hc hd hne key hkey hkey' => hne ?_
  obtain ⟨shard, hbound⟩ := exists_shard hc
  obtain ⟨shard', hbound'⟩ := exists_shard hd
  obtain ⟨index, hindex, hfields⟩ := (mem_itemKeys hc hbound).mp hkey
  obtain ⟨index', hindex', hfields'⟩ := (mem_itemKeys hd hbound').mp hkey'
  have hsame : index = index' := congrArg RunItemKey.Fields.itemIndex (hfields.symm.trans hfields')
  subst hsame
  have hshard : shard = shard' :=
    (candidate_of_ok s.plan.candidate_valid).eq_of_index hbound.1 hbound'.1 hindex hindex'
  subst hshard
  rw [hbound.closure_eq hbound' hc hd]

theorem closures_union (s : BatchFinalizationReadinessSnapshot) (key : RunItemKey) :
    (∃ c ∈ s.runClosures, key ∈ c.itemKeys) ↔
      ∃ item ∈ s.plan.manifest.items, key.toFields = ⟨s.plan.manifest.id, item.itemIndex⟩ := by
  have hcandidate := candidate_of_ok s.plan.candidate_valid
  rw [s.checked.manifest]
  constructor
  · rintro ⟨c, hc, hkey⟩
    obtain ⟨shard, hbound⟩ := exists_shard hc
    obtain ⟨index, hindex, hfields⟩ := (mem_itemKeys hc hbound).mp hkey
    have hmem := hcandidate.covers.mem_iff.mp (List.mem_flatMap.mpr ⟨shard, hbound.1, hindex⟩)
    obtain ⟨item, hitem, rfl⟩ := List.mem_map.mp hmem
    exact ⟨item, hitem, hfields⟩
  · rintro ⟨item, hitem, hfields⟩
    obtain ⟨shard, hshard, hindex⟩ := hcandidate.exists_shard hitem
    obtain ⟨c, hc, hbound⟩ := exists_closure hshard
    exact ⟨c, hc, (mem_itemKeys hc hbound).mpr ⟨_, hindex, hfields⟩⟩

/-- Every accepted snapshot covers its frozen plan: a Batch starts to finalize with each item of
its manifest exactly once. -/
theorem covers_plan (s : BatchFinalizationReadinessSnapshot) : s.CoversPlan where
  disjoint := s.closures_disjoint
  union := s.closures_union
  bound := fun c hc => by
    obtain ⟨shard, hbound⟩ := exists_shard hc
    exact ⟨shard, hbound, fun shard' hbound' => hbound'.shard_eq hbound⟩
  owns := fun c hc shard hbound => by
    rw [s.checked.manifest]
    exact itemKeys_eq hc hbound
  one := fun shard hshard => by
    obtain ⟨c, hc, hbound⟩ := exists_closure hshard
    exact ⟨c, ⟨hc, hbound⟩, fun d hd => hd.2.closure_eq hbound hd.1 hc⟩
  bases := s.checked.bases

end BatchFinalizationReadinessSnapshot

end QaRunner
