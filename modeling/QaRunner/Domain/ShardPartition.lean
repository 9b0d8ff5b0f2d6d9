import QaRunner.Domain.ShardPlan
import Mathlib.Algebra.BigOperators.Group.List.Basic

/-! A shard plan is an exact partition of its manifest that keeps every constraint together. -/
namespace QaRunner
open Guarded Manifest

/-- The items a shard names. -/
def CaseManifest.itemsOf (m : CaseManifest) (s : PlannedShard) : List ManifestItem :=
  m.items.filter (·.itemIndex ∈ s.manifestItemIndices)

variable {m : CaseManifest} {shards : List PlannedShard} {s t : PlannedShard}
  {item : ManifestItem} {index : ℤ}

theorem CaseManifest.mem_itemsOf :
    item ∈ m.itemsOf s ↔ item ∈ m.items ∧ item.itemIndex ∈ s.manifestItemIndices := by
  simp [itemsOf]

theorem CaseManifest.itemAt_eq_ok :
    m.itemAt index = .ok item ↔ item ∈ m.items ∧ item.itemIndex = index := by
  rw [itemAt, need_eq_ok]
  constructor
  · exact Keyed.find_reverse_some
  · rintro ⟨hitem, rfl⟩
    apply Keyed.find_of_mem
    · rw [List.map_reverse, List.nodup_reverse]
      exact m.indices_nodup
    · exact List.mem_reverse.mpr hitem

theorem PlannedShard.indices_nodup (s : PlannedShard) : s.manifestItemIndices.Nodup := by
  have h := s.accepted
  simp only [Fields.postInit, then_eq_ok, invalidIf_eq_ok, not_not] at h
  exact h.2.2.2.2.1

@[simp] theorem mem_canonicalUnion {values : List String} {v : String} :
    v ∈ canonicalUnion values ↔ v ∈ values := by
  rw [canonicalUnion, Sorting.mem_sortOn, List.mem_dedup]

theorem shardByItem_eq_ok (h : shardByItem shards index = .ok s) :
    s ∈ shards ∧ index ∈ s.manifestItemIndices := by
  rw [shardByItem, need_eq_ok] at h
  exact ⟨List.mem_reverse.mp (List.mem_of_find?_eq_some h), by simpa using List.find?_some h⟩

/-- A list without two different elements. -/
theorem eq_of_dedup_length {α : Type} [DecidableEq α] {values : List α} {a b : α}
    (h : ¬ 1 < values.dedup.length) (ha : a ∈ values) (hb : b ∈ values) : a = b := by
  rw [← List.mem_dedup] at ha hb
  rcases hvalues : values.dedup with _ | ⟨c, _ | ⟨d, rest⟩⟩
  · rw [hvalues] at ha
    cases ha
  · rw [hvalues, List.mem_singleton] at ha hb
    rw [ha, hb]
  · rw [hvalues] at h
    simp at h

/-- When no group is split, owners of one group name one shard. -/
theorem eq_of_splitGroups {owners : List (String × ℤ)} (h : splitGroups owners = [])
    {group : String} {i j : ℤ} (hi : (group, i) ∈ owners) (hj : (group, j) ∈ owners) : i = j := by
  rw [splitGroups, sortOn_filter_eq_nil] at h
  have hgroup : group ∈ (owners.map Prod.fst).dedup :=
    List.mem_dedup.mpr (List.mem_map_of_mem hi)
  have hmem : ∀ {k : ℤ}, (group, k) ∈ owners →
      k ∈ (owners.filter (·.1 = group)).map Prod.snd := by
    intro k hk
    exact List.mem_map.mpr ⟨_, List.mem_filter.mpr ⟨hk, decide_eq_true rfl⟩, rfl⟩
  exact eq_of_dedup_length (h group hgroup) (hmem hi) (hmem hj)

/-- What a candidate that passes has been checked for. -/
structure Candidate (m : CaseManifest) (shards : List PlannedShard) : Prop where
  numbered : shards.map (·.shardIndex) = (List.range shards.length).map Int.ofNat
  distinct : (shards.map (·.shardIndex)).Nodup
  covers : (shards.flatMap (·.manifestItemIndices)).Perm (m.items.map (·.itemIndex))
  together : ∃ owners, splitGroups owners = [] ∧ List.Forall₂ (fun item owner => ∃ s,
    shardByItem shards item.itemIndex = .ok s ∧ owner = (item.atomicGroupId, s.shardIndex))
    m.items owners
  each : ∀ s ∈ shards, validateShard m s = .ok ()

theorem candidate_of_ok (h : validatePlanCandidate m shards = .ok ()) : Candidate m shards := by
  simp only [validatePlanCandidate, bind_eq_ok, exists_unit, invalidIf_eq_ok, not_not, ne_eq,
    requireExactCover_eq_ok m.indices_nodup, rejectFirst_eq_ok, each_eq_ok, collect_eq_ok,
    pure_eq_ok] at h
  obtain ⟨-, hdistinct, hnumbered, hcovers, owners, howners, hsplit, heach, -⟩ := h
  refine ⟨hnumbered, hdistinct, hcovers, ⟨owners, hsplit, ?_⟩, heach⟩
  apply howners.imp
  rintro item owner ⟨s, hs, howner⟩
  exact ⟨s, hs, howner.symm⟩

namespace Candidate

/-- Two shards that name one item are one shard. -/
theorem eq_of_index (h : Candidate m shards) (hs : s ∈ shards) (ht : t ∈ shards)
    (hindex : index ∈ s.manifestItemIndices) (hindex' : index ∈ t.manifestItemIndices) : s = t :=
  Keyed.owner_eq (h.covers.nodup_iff.mpr m.indices_nodup) hs ht hindex hindex'

theorem eq_of_shardIndex (h : Candidate m shards) (hs : s ∈ shards) (ht : t ∈ shards)
    (hindex : s.shardIndex = t.shardIndex) : s = t := Keyed.eq_of_key h.distinct hs ht hindex

/-- Every item is in a shard. -/
theorem exists_shard (h : Candidate m shards) (hitem : item ∈ m.items) :
    ∃ s ∈ shards, item.itemIndex ∈ s.manifestItemIndices := by
  have hindex := h.covers.mem_iff.mpr (List.mem_map_of_mem hitem)
  exact List.mem_flatMap.mp hindex

theorem eq_of_group (h : Candidate m shards) (hs : s ∈ shards) (ht : t ∈ shards)
    {i j : ManifestItem} (hi : i ∈ m.itemsOf s) (hj : j ∈ m.itemsOf t)
    (hgroup : i.atomicGroupId = j.atomicGroupId) : s = t := by
  obtain ⟨owners, hsplit, howners⟩ := h.together
  have howner : ∀ {u : PlannedShard} {k : ManifestItem}, u ∈ shards → k ∈ m.itemsOf u →
      (k.atomicGroupId, u.shardIndex) ∈ owners := by
    intro u k hu hk
    rw [CaseManifest.mem_itemsOf] at hk
    obtain ⟨owner, hmem, v, hv, rfl⟩ := exists_of_mem_left howners k hk.1
    obtain ⟨hv, hindex⟩ := shardByItem_eq_ok hv
    rwa [h.eq_of_index hu hv hk.2 hindex]
  have hj' := howner ht hj
  rw [← hgroup] at hj'
  exact h.eq_of_shardIndex hs ht (eq_of_splitGroups hsplit (howner hs hi) hj')

end Candidate

/-- The requirements of a shard are the union of those of its items. -/
structure CarriesRequirements (items : List ManifestItem) (r : ShardRequirements) : Prop where
  serial : ∀ v, v ∈ r.serialGroups ↔ ∃ i ∈ items, i.constraints.serialGroup = some v
  environment : ∀ v, v ∈ r.environmentRequirements ↔
    ∃ i ∈ items, v ∈ i.constraints.environmentRequirements
  account : ∀ v, v ∈ r.accountRequirements ↔ ∃ i ∈ items, v ∈ i.constraints.accountRequirements
  dataLease : ∀ v, v ∈ r.dataLeaseRequirements ↔
    ∃ i ∈ items, v ∈ i.constraints.dataLeaseRequirements

theorem aggregate_carries {items : List ManifestItem} {r : ShardRequirements}
    (h : aggregateShardRequirements items = .ok r) : CarriesRequirements items r := by
  rw [aggregateShardRequirements, ShardRequirements.new, construct_eq_ok] at h
  obtain ⟨_, rfl⟩ := h
  constructor <;> intro v <;> simp

theorem CarriesRequirements.of_perm {items others : List ManifestItem} {r : ShardRequirements}
    (h : CarriesRequirements items r) (hperm : items.Perm others) :
    CarriesRequirements others r := by
  constructor <;> intro v <;> simp only [← hperm.mem_iff]
  · exact h.serial v
  · exact h.environment v
  · exact h.account v
  · exact h.dataLease v

/-- The items looked up for the indices of a shard are the items it names. -/
theorem collect_itemAt_perm {items : List ManifestItem}
    (h : List.Forall₂ (fun index item => m.itemAt index = .ok item) s.manifestItemIndices items) :
    items.Perm (m.itemsOf s) := by
  have hindices : s.manifestItemIndices = items.map (·.itemIndex) := by
    rw [← List.forall₂_eq_eq_eq, List.forall₂_map_right_iff]
    exact h.imp fun index item hitem => (CaseManifest.itemAt_eq_ok.mp hitem).2.symm
  have hnodup : items.Nodup := by
    have hdistinct := s.indices_nodup
    rw [hindices] at hdistinct
    exact hdistinct.of_map _
  have hmanifest : (m.itemsOf s).Nodup := (m.indices_nodup.of_map _).filter _
  rw [List.perm_ext_iff_of_nodup hnodup hmanifest]
  intro item
  rw [CaseManifest.mem_itemsOf]
  constructor
  · intro hitem
    obtain ⟨index, hindex, hat⟩ := exists_of_mem_right h item hitem
    obtain ⟨hmem, rfl⟩ := CaseManifest.itemAt_eq_ok.mp hat
    exact ⟨hmem, hindex⟩
  · rintro ⟨hmem, hindex⟩
    obtain ⟨found, hfound, hat⟩ := exists_of_mem_left h _ hindex
    rw [CaseManifest.itemAt_eq_ok.mpr ⟨hmem, rfl⟩] at hat
    cases hat
    exact hfound

/-- What a shard that passes has been checked for. -/
theorem validateShard_eq_ok (h : validateShard m s = .ok ()) :
    CarriesRequirements (m.itemsOf s) s.requirements ∧
      (∀ i ∈ m.itemsOf s, i.resourceProfileId = s.resourceProfileId) ∧
      s.estimatedDurationMs = ((m.itemsOf s).map (·.estimate.durationMs)).sum := by
  simp only [validateShard, bind_eq_ok, exists_unit, invalidIf_eq_ok, not_not, ne_eq, each_eq_ok,
    collect_eq_ok] at h
  obtain ⟨items, hitems, expected, hexpected, hrequirements, hprofile, hduration⟩ := h
  have hperm := collect_itemAt_perm hitems
  rw [hrequirements]
  refine ⟨(aggregate_carries hexpected).of_perm hperm, fun i hi => ?_, ?_⟩
  · exact hprofile i (hperm.mem_iff.mpr hi)
  · rw [hduration]
    exact (hperm.map _).sum_eq

/-- The shards partition the manifest: every item is in one shard, and what must stay together is
not split. -/
structure ExactPartition (m : CaseManifest) (shards : List PlannedShard) : Prop where
  numbered : shards.map (·.shardIndex) = (List.range shards.length).map Int.ofNat
  covers : (shards.flatMap (·.manifestItemIndices)).Perm (m.items.map (·.itemIndex))
  one : ∀ i ∈ m.items, ∃! s, s ∈ shards ∧ i ∈ m.itemsOf s
  groups : ∀ s ∈ shards, ∀ t ∈ shards, ∀ i ∈ m.itemsOf s, ∀ j ∈ m.itemsOf t,
    i.atomicGroupId = j.atomicGroupId → s = t
  serial : ∀ s ∈ shards, ∀ t ∈ shards, ∀ v ∈ s.requirements.serialGroups,
    v ∈ t.requirements.serialGroups → s = t
  account : ∀ s ∈ shards, ∀ t ∈ shards, ∀ v ∈ s.requirements.accountRequirements,
    v ∈ t.requirements.accountRequirements → s = t
  dataLease : ∀ s ∈ shards, ∀ t ∈ shards, ∀ v ∈ s.requirements.dataLeaseRequirements,
    v ∈ t.requirements.dataLeaseRequirements → s = t
  profile : ∀ s ∈ shards, ∀ i ∈ m.itemsOf s, i.resourceProfileId = s.resourceProfileId
  duration : ∀ s ∈ shards,
    s.estimatedDurationMs = ((m.itemsOf s).map (·.estimate.durationMs)).sum
  requirements : ∀ s ∈ shards, CarriesRequirements (m.itemsOf s) s.requirements

theorem Candidate.one_shard (h : Candidate m shards) (hitem : item ∈ m.items) :
    ∃! s, s ∈ shards ∧ item ∈ m.itemsOf s := by
  obtain ⟨s, hs, hindex⟩ := h.exists_shard hitem
  refine ⟨s, ⟨hs, CaseManifest.mem_itemsOf.mpr ⟨hitem, hindex⟩⟩, ?_⟩
  rintro t ⟨ht, hmem⟩
  exact h.eq_of_index ht hs (CaseManifest.mem_itemsOf.mp hmem).2 hindex

/-- Items that share a token are in one atomic group, and so in one shard. -/
theorem Candidate.eq_of_token (h : Candidate m shards) (hs : s ∈ shards) (ht : t ∈ shards)
    {i j : ManifestItem} {token : String × String} (hi : i ∈ m.itemsOf s) (hj : j ∈ m.itemsOf t)
    (hti : token ∈ i.constraintTokens) (htj : token ∈ j.constraintTokens) : s = t :=
  h.eq_of_group hs ht hi hj (m.group_eq_of_token (CaseManifest.mem_itemsOf.mp hi).1
    (CaseManifest.mem_itemsOf.mp hj).1 hti htj)

/-- Every accepted plan is an exact partition of its manifest that respects its constraints. -/
theorem ShardPlan.exact_partition (p : ShardPlan) : ExactPartition p.manifest p.shards := by
  have h := candidate_of_ok p.candidate_valid
  have hshard := fun s hs => validateShard_eq_ok (h.each s hs)
  refine ⟨h.numbered, h.covers, fun i => h.one_shard, fun s hs t ht i hi j hj => ?_,
    fun s hs t ht v hv hv' => ?_, fun s hs t ht v hv hv' => ?_, fun s hs t ht v hv hv' => ?_,
    fun s hs => (hshard s hs).2.1, fun s hs => (hshard s hs).2.2, fun s hs => (hshard s hs).1⟩
  · exact h.eq_of_group hs ht hi hj
  · obtain ⟨i, hi, hvi⟩ := ((hshard s hs).1.serial v).mp hv
    obtain ⟨j, hj, hvj⟩ := ((hshard t ht).1.serial v).mp hv'
    exact h.eq_of_token hs ht hi hj (ManifestItem.serial_mem hvi) (ManifestItem.serial_mem hvj)
  · obtain ⟨i, hi, hvi⟩ := ((hshard s hs).1.account v).mp hv
    obtain ⟨j, hj, hvj⟩ := ((hshard t ht).1.account v).mp hv'
    exact h.eq_of_token hs ht hi hj (ManifestItem.account_mem hvi) (ManifestItem.account_mem hvj)
  · obtain ⟨i, hi, hvi⟩ := ((hshard s hs).1.dataLease v).mp hv
    obtain ⟨j, hj, hvj⟩ := ((hshard t ht).1.dataLease v).mp hv'
    exact h.eq_of_token hs ht hi hj (ManifestItem.dataLease_mem hvi)
      (ManifestItem.dataLease_mem hvj)

end QaRunner
