import QaRunner.Domain.ShardPlanner
import Mathlib.Algebra.Order.BigOperators.Group.List

/-! How the planner splits the items of one profile: nothing is lost, no atomic group is divided,
and which of the shards stay empty. -/
namespace QaRunner
open Guarded Manifest

/-- Items in the order of a manifest. -/
def InOrder (items : List ManifestItem) : Prop :=
  items.Pairwise fun i j => i.itemIndex < j.itemIndex

/-- The items of each shard that `lptSplitGroup` plans. -/
def lptParts (items : List ManifestItem) (effective : ℕ) : List (List ManifestItem) :=
  (shardIndices items effective).map fun held => items.filter (·.itemIndex ∈ held)

/-- The items of each shard that `planGroup` plans. -/
def profileParts (items : List ManifestItem) (allowed : ℤ) : List (List ManifestItem) :=
  if allowed = 1 ∨ items.length ≤ 1 then [items]
  else lptParts items (min allowed (atomicGroups items).length).toNat

/-- The atomic groups whose items take time. -/
def positiveGroups (items : List ManifestItem) : ℕ :=
  (atomicGroups items).countP (0 < groupDuration items ·)

/-- A division of items that keeps their order and their atomic groups. -/
structure Splits (items : List ManifestItem) (parts : List (List ManifestItem)) : Prop where
  perm : parts.flatten.Perm items
  sublist : ∀ part ∈ parts, part.Sublist items
  together : ∀ i ∈ items, ∃ part ∈ parts, ∀ j ∈ items, j.atomicGroupId = i.atomicGroupId → j ∈ part

variable {items : List ManifestItem} {i : ManifestItem} {group : String} {n : ℕ} {allowed : ℤ}

theorem InOrder.nodup (h : InOrder items) : (items.map (·.itemIndex)).Nodup :=
  List.pairwise_map.mpr (h.imp fun hlt => hlt.ne)

theorem InOrder.sublist {part : List ManifestItem} (h : InOrder items)
    (hpart : part.Sublist items) : InOrder part := List.Pairwise.sublist hpart h

theorem ManifestItem.duration_nonneg (i : ManifestItem) : 0 ≤ i.estimate.durationMs :=
  (Manifest.requireNonnegativeInt_eq_ok.mp i.estimate.accepted).1

theorem duration_sum_nonneg (items : List ManifestItem) :
    0 ≤ (items.map (·.estimate.durationMs)).sum := by
  apply List.sum_nonneg
  rw [List.forall_mem_map]
  intro i _
  exact i.duration_nonneg

theorem mem_atomicGroups : group ∈ atomicGroups items ↔ ∃ i ∈ items, i.atomicGroupId = group := by
  rw [atomicGroups, List.mem_dedup, List.mem_map]

theorem sortedGroups_perm : (sortedGroups items).Perm (atomicGroups items) :=
  Sorting.sortOn_perm _ _

theorem length_sortedGroups : (sortedGroups items).length = (atomicGroups items).length :=
  sortedGroups_perm.length_eq

theorem mem_sortedGroups : group ∈ sortedGroups items ↔ ∃ i ∈ items, i.atomicGroupId = group := by
  rw [sortedGroups_perm.mem_iff, mem_atomicGroups]

theorem groups_pos (h : items ≠ []) : 0 < (atomicGroups items).length := by
  obtain ⟨i, hi⟩ := List.exists_mem_of_ne_nil items h
  exact List.length_pos_of_mem (mem_atomicGroups.mpr ⟨i, hi, rfl⟩)

theorem groups_le (items : List ManifestItem) : (atomicGroups items).length ≤ items.length := by
  have h := (List.dedup_sublist (items.map (·.atomicGroupId))).length_le
  rwa [List.length_map] at h

theorem mem_groupIndices (hi : i ∈ items) : i.itemIndex ∈ groupIndices items i.atomicGroupId :=
  List.mem_map_of_mem (List.mem_filter.mpr ⟨hi, decide_eq_true rfl⟩)

/-- The groups hold the indices of all items. -/
theorem groupIndices_perm :
    ((sortedGroups items).flatMap (groupIndices items)).Perm (items.map (·.itemIndex)) := by
  have hnodup : (sortedGroups items).Nodup := sortedGroups_perm.nodup_iff.mpr (List.nodup_dedup _)
  have hgroups := Keyed.flatMap_filter_perm (fun i : ManifestItem => i.atomicGroupId) hnodup
    fun i hi => mem_sortedGroups.mpr ⟨i, hi, rfl⟩
  have hindices := hgroups.map (·.itemIndex)
  rwa [List.map_flatMap] at hindices

theorem sortedGroups_descending :
    (sortedGroups items).Pairwise fun a b => groupDuration items b ≤ groupDuration items a := by
  have h := Sorting.pairwise_sortOn
    (fun group => toLex (-groupDuration items group, group)) (atomicGroups items)
  apply h.imp
  intro a b hle
  have hfirst := Prod.Lex.monotone_fst _ _ hle
  exact neg_le_neg_iff.mp hfirst

section
variable (hn : 0 < n)
include hn

/-- The shards together get every index once. -/
theorem shardIndices_perm :
    (shardIndices items n).flatten.Perm (items.map (·.itemIndex)) := by
  have hheld := @ListScheduling.held_schedule_empty String ℤ (groupDuration items)
    (groupIndices items) (sortedGroups items) n hn
  exact hheld.trans groupIndices_perm

theorem shardIndices_together (hi : i ∈ items) :
    ∃ held ∈ shardIndices items n, ∀ index ∈ groupIndices items i.atomicGroupId, index ∈ held := by
  have hgroup := mem_sortedGroups.mpr ⟨i, hi, rfl⟩
  obtain ⟨b, hb, hheld⟩ := @ListScheduling.together_schedule String ℤ (groupDuration items)
    (groupIndices items) _ _ _ (ListScheduling.bins_ne_nil hn) hgroup
  exact ⟨b.held, List.mem_map_of_mem hb, hheld⟩

end

/-- The indices of a shard in ascending order are those of its items. -/
theorem sortOn_held (horder : InOrder items) {held : List ℤ} (hnodup : held.Nodup)
    (hheld : ∀ index ∈ held, index ∈ items.map (·.itemIndex)) :
    Sorting.sortOn id held = (items.filter (·.itemIndex ∈ held)).map (·.itemIndex) := by
  have hpart := horder.sublist (List.filter_sublist (p := fun i => decide (i.itemIndex ∈ held)))
  have hperm : (Sorting.sortOn id held).Perm
      ((items.filter (·.itemIndex ∈ held)).map (·.itemIndex)) := by
    refine (Sorting.sortOn_perm id held).trans ?_
    rw [List.perm_ext_iff_of_nodup hnodup hpart.nodup]
    intro index
    rw [List.mem_map]
    constructor
    · intro hindex
      obtain ⟨i, hi, rfl⟩ := List.mem_map.mp (hheld index hindex)
      exact ⟨i, List.mem_filter.mpr ⟨hi, decide_eq_true hindex⟩, rfl⟩
    · rintro ⟨i, hi, rfl⟩
      exact of_decide_eq_true (List.mem_filter.mp hi).2
  apply @Sorting.eq_of_perm ℤ ℤ _ id _ _ hperm
  · rw [List.map_id, (Sorting.sortOn_perm id held).nodup_iff]
    exact hnodup
  · exact Sorting.pairwise_sortOn id held
  · exact List.pairwise_map.mpr (hpart.imp fun hlt => hlt.le)

theorem mem_held (hn : 0 < n) {held : List ℤ} (hheld : held ∈ shardIndices items n) :
    ∀ index ∈ held, index ∈ items.map (·.itemIndex) := by
  intro index hindex
  exact (shardIndices_perm hn).mem_iff.mp (List.mem_flatten.mpr ⟨held, hheld, hindex⟩)

theorem held_nodup (horder : InOrder items) (hn : 0 < n) {held : List ℤ}
    (hheld : held ∈ shardIndices items n) : held.Nodup := by
  have hall := (shardIndices_perm hn).nodup_iff.mpr horder.nodup
  exact (List.nodup_flatten.mp hall).1 held hheld

theorem length_lptParts : (lptParts items n).length = n := by
  rw [lptParts, List.length_map, shardIndices, List.length_map, ListScheduling.length_schedule,
    List.length_replicate]

/-- Each shard of the split carries a part of the items, and together they carry all. -/
theorem splits_lptParts (horder : InOrder items) (hn : 0 < n) :
    Splits items (lptParts items n) := by
  constructor
  · refine Keyed.perm_of_keys ?_ horder.nodup ?_
    · intro i hi
      obtain ⟨part, hpart, hi⟩ := List.mem_flatten.mp hi
      obtain ⟨held, -, rfl⟩ := List.mem_map.mp hpart
      exact (List.mem_filter.mp hi).1
    · have hsorted : ∀ held ∈ shardIndices items n,
          ((items.filter (·.itemIndex ∈ held)).map (·.itemIndex)).Perm held := by
        intro held hheld
        rw [← sortOn_held horder (held_nodup horder hn hheld) (mem_held hn hheld)]
        exact Sorting.sortOn_perm id held
      rw [List.map_flatten, lptParts, List.map_map]
      have hflat := List.Perm.flatMap_left (shardIndices items n) hsorted
      rw [List.flatMap_id'] at hflat
      exact hflat.trans (shardIndices_perm hn)
  · intro part hpart
    obtain ⟨held, -, rfl⟩ := List.mem_map.mp hpart
    exact List.filter_sublist
  · intro i hi
    obtain ⟨held, hheld, hgroup⟩ := shardIndices_together hn hi
    refine ⟨_, List.mem_map_of_mem hheld, ?_⟩
    intro j hj hsame
    refine List.mem_filter.mpr ⟨hj, decide_eq_true (hgroup _ ?_)⟩
    rw [← hsame]
    exact mem_groupIndices hj

/-- No shard stays empty exactly when there are enough groups that take time. -/
theorem lptParts_filled_iff (hn : 0 < n) (hle : n ≤ (atomicGroups items).length) :
    (∀ part ∈ lptParts items n, part ≠ []) ↔ n ≤ 1 + positiveGroups items := by
  have hfilled : (∀ part ∈ lptParts items n, part ≠ []) ↔
      ∀ held ∈ shardIndices items n, held ≠ [] := by
    rw [lptParts, List.forall_mem_map]
    apply forall₂_congr
    intro held hheld
    rw [not_iff_not, List.filter_eq_nil_iff]
    constructor
    · intro hempty
      rw [List.eq_nil_iff_forall_not_mem]
      intro index hindex
      obtain ⟨i, hi, rfl⟩ := List.mem_map.mp (mem_held hn hheld index hindex)
      exact hempty i hi (decide_eq_true hindex)
    · rintro rfl i _ hi
      exact List.not_mem_nil (of_decide_eq_true hi)
  rw [hfilled, shardIndices, List.forall_mem_map, positiveGroups]
  rw [← length_sortedGroups] at hle
  rw [ListScheduling.all_held_iff hn hle sortedGroups_descending]
  · rw [sortedGroups_perm.countP_eq]
  · intro group _
    exact duration_sum_nonneg _
  · intro group hgroup
    obtain ⟨i, hi, rfl⟩ := mem_sortedGroups.mp hgroup
    exact List.ne_nil_of_mem (mem_groupIndices hi)

section
variable (horder : InOrder items) (hitems : items ≠ []) (hallowed : 1 ≤ allowed)
include hitems hallowed

theorem effective_pos : 0 < (min allowed (atomicGroups items).length).toNat := by
  have hgroups := groups_pos hitems
  omega

theorem length_profileParts :
    ((profileParts items allowed).length : ℤ) = min allowed (atomicGroups items).length := by
  have hgroups := groups_pos hitems
  have hle := groups_le items
  unfold profileParts
  split
  · rw [List.length_singleton]
    omega
  · rw [length_lptParts]
    omega

theorem profileParts_filled_iff : (∀ part ∈ profileParts items allowed, part ≠ []) ↔
    min allowed (atomicGroups items).length ≤ 1 + (positiveGroups items : ℤ) := by
  have hgroups := groups_pos hitems
  have hle := groups_le items
  unfold profileParts
  split
  · rw [List.forall_mem_singleton]
    constructor
    · intro _
      omega
    · intro _
      exact hitems
  · rw [lptParts_filled_iff (effective_pos hitems hallowed) (by omega)]
    omega

include horder in
theorem splits_profileParts : Splits items (profileParts items allowed) := by
  unfold profileParts
  split
  · refine ⟨?_, ?_, ?_⟩
    · rw [List.flatten_singleton]
    · rw [List.forall_mem_singleton]
    · intro i _
      exact ⟨items, List.mem_singleton.mpr rfl, fun j hj _ => hj⟩
  · exact splits_lptParts horder (effective_pos hitems hallowed)

end

end QaRunner
