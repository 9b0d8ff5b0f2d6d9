import QaRunner.Domain.ShardSplit

/-! What makes planned shards a plan: a manifest divided into parts that keep profiles and atomic
groups together, one shard for each part, and the shards numbered from zero. -/
namespace QaRunner
open Guarded Manifest

/-- A shard that carries the items of a part, all of one profile. -/
structure Carries (part : String × List ManifestItem) (s : PlannedShard) : Prop where
  indices : s.manifestItemIndices = part.2.map (·.itemIndex)
  profile : s.resourceProfileId = part.1
  duration : s.estimatedDurationMs = (part.2.map (·.estimate.durationMs)).sum
  requirements : aggregateShardRequirements part.2 = .ok s.requirements
  flags : s.flags = []

/-- Shards numbered from an offset on. -/
def Consecutive : ℕ → List PlannedShard → Prop
  | _, [] => True
  | offset, s :: shards => s.shardIndex = offset ∧ Consecutive (offset + 1) shards

/-- A manifest divided into parts that may become shards. -/
structure Division (m : CaseManifest) (parts : List (String × List ManifestItem)) : Prop where
  perm : (parts.flatMap Prod.snd).Perm m.items
  inOrder : ∀ part ∈ parts, InOrder part.2
  profile : ∀ part ∈ parts, ∀ i ∈ part.2, i.resourceProfileId = part.1
  together : ∀ i ∈ m.items, ∃ part ∈ parts,
    ∀ j ∈ m.items, j.atomicGroupId = i.atomicGroupId → j ∈ part.2

variable {m : CaseManifest} {parts : List (String × List ManifestItem)}
  {part : String × List ManifestItem} {shards others : List PlannedShard} {s : PlannedShard}
  {items : List ManifestItem} {offset : ℕ}

theorem CaseManifest.inOrder (m : CaseManifest) : InOrder m.items := by
  have h : (m.items.map (·.itemIndex)).Pairwise (· < ·) := by
    rw [m.indices_eq, List.pairwise_map]
    exact List.pairwise_lt_range.imp fun hlt => Int.ofNat_lt.mpr hlt
  exact List.pairwise_map.mp h

namespace Consecutive

theorem append : Consecutive offset (shards ++ others) ↔
    Consecutive offset shards ∧ Consecutive (offset + shards.length) others := by
  induction shards generalizing offset with
  | nil => simp [Consecutive]
  | cons s shards ih =>
    simp only [List.cons_append, Consecutive, ih, List.length_cons, and_assoc]
    rw [Nat.add_right_comm, Nat.add_assoc offset]

theorem indices_eq (h : Consecutive offset shards) :
    shards.map (·.shardIndex) = (List.range' offset shards.length).map Int.ofNat := by
  induction shards generalizing offset with
  | nil => rfl
  | cons s shards ih =>
    rw [List.map_cons, h.1, ih h.2, List.length_cons, List.range'_succ, List.map_cons]
    rfl

theorem pairwise (h : Consecutive offset shards) :
    shards.Pairwise fun s t => s.shardIndex < t.shardIndex := by
  have hlt : (shards.map (·.shardIndex)).Pairwise (· < ·) := by
    rw [h.indices_eq, List.pairwise_map]
    exact (List.pairwise_lt_range' 1 Nat.one_pos).imp fun hlt => Int.ofNat_lt.mpr hlt
  exact List.pairwise_map.mp hlt

end Consecutive

/-- A canonical union of nonblank values is a canonical set. -/
theorem canonicalUnion_accepted {entity field : String} {values : List String}
    (h : ∀ v ∈ values, isBlank v = false) :
    requireCanonicalStringSet entity field (canonicalUnion values) = .ok () := by
  simp only [requireCanonicalStringSet, then_eq_ok, invalidIf_eq_ok, not_not, ne_eq]
  refine ⟨?_, ?_, ?_⟩
  · rintro ⟨v, hv, hblank⟩
    rw [h v (mem_canonicalUnion.mp hv)] at hblank
    cases hblank
  · exact (Sorting.sortOn_perm _ _).nodup_iff.mpr (List.nodup_dedup _)
  · exact (Sorting.sortOn_eq_self (Sorting.pairwise_sortOn id _)).symm

/-- The requirements of an item are nonblank. -/
theorem ManifestConstraints.not_blank (c : ManifestConstraints) :
    (∀ v, c.serialGroup = some v → isBlank v = false) ∧
      (∀ v ∈ c.environmentRequirements, isBlank v = false) ∧
      (∀ v ∈ c.accountRequirements, isBlank v = false) ∧
      ∀ v ∈ c.dataLeaseRequirements, isBlank v = false := by
  have h := c.accepted
  simp only [Fields.postInit, then_eq_ok, whenSome_eq_ok, each_eq_ok, List.forall_mem_cons,
    requireCanonicalStringSet, Manifest.requireNonemptyString, invalidIf_eq_ok, Bool.not_eq_true,
    not_exists, not_and] at h
  exact ⟨h.1, h.2.1.1, h.2.2.1.1, h.2.2.2.1.1⟩

theorem aggregateShardRequirements_ok (items : List ManifestItem) :
    ∃ r, aggregateShardRequirements items = .ok r := by
  refine ⟨_, construct_of_ok ?_⟩
  simp only [ShardRequirements.Fields.postInit, each_eq_ok, List.forall_mem_cons]
  refine ⟨canonicalUnion_accepted ?_, canonicalUnion_accepted ?_, canonicalUnion_accepted ?_,
    canonicalUnion_accepted ?_, fun f hf => absurd hf List.not_mem_nil⟩
  · intro v hv
    obtain ⟨i, -, hi⟩ := List.mem_filterMap.mp hv
    exact i.constraints.not_blank.1 v hi
  · intro v hv
    obtain ⟨i, -, hi⟩ := List.mem_flatMap.mp hv
    exact i.constraints.not_blank.2.1 v hi
  · intro v hv
    obtain ⟨i, -, hi⟩ := List.mem_flatMap.mp hv
    exact i.constraints.not_blank.2.2.1 v hi
  · intro v hv
    obtain ⟨i, -, hi⟩ := List.mem_flatMap.mp hv
    exact i.constraints.not_blank.2.2.2 v hi

theorem shardOf_eq_ok (part : String × List ManifestItem) {k : ℤ} :
    shardOf k (part.2.map (·.itemIndex)) part.1 part.2 = .ok s ↔
      Carries part s ∧ s.shardIndex = k := by
  simp only [shardOf, bind_eq_ok, PlannedShard.new, construct_eq_ok]
  constructor
  · rintro ⟨r, hr, haccepted, rfl⟩
    exact ⟨⟨rfl, rfl, rfl, hr, rfl⟩, rfl⟩
  · rintro ⟨h, rfl⟩
    obtain ⟨⟨shardIndex, indices, profile, duration, requirements, flags⟩, haccepted⟩ := s
    obtain ⟨hindices, hprofile, hduration, hrequirements, hflags⟩ := h
    dsimp only at hindices hprofile hduration hrequirements hflags
    subst hindices hprofile hduration hflags
    exact ⟨requirements, hrequirements, haccepted, rfl⟩

theorem ManifestItem.index_safe (i : ManifestItem) :
    0 ≤ i.itemIndex ∧ i.itemIndex ≤ 9007199254740991 := by
  have h := i.accepted
  simp only [Fields.postInit, then_eq_ok, Manifest.requireNonnegativeInt_eq_ok] at h
  exact h.1

theorem ManifestItem.profile_not_blank (i : ManifestItem) :
    isBlank i.resourceProfileId = false := by
  have h := i.accepted
  simp only [Fields.postInit, then_eq_ok, Manifest.requireNonemptyString, invalidIf_eq_ok,
    Bool.not_eq_true] at h
  exact h.2.2.2.1

theorem PlannedShard.indices_ne_nil (s : PlannedShard) : s.manifestItemIndices ≠ [] := by
  have h := s.accepted
  simp only [Fields.postInit, then_eq_ok, invalidIf_eq_ok] at h
  exact h.2.1

theorem Carries.part_ne_nil (h : Carries part s) : part.2 ≠ [] := by
  intro hempty
  apply s.indices_ne_nil
  rw [h.indices, hempty, List.map_nil]

/-- A part with items can be carried, under any number in the safe range. -/
theorem exists_carries {k : ℕ} (hne : part.2 ≠ []) (horder : InOrder part.2)
    (hprofile : ∀ i ∈ part.2, i.resourceProfileId = part.1)
    (hsafe : (part.2.map (·.estimate.durationMs)).sum ≤ 9007199254740991)
    (hk : k ≤ 9007199254740991) : ∃ s, Carries part s ∧ s.shardIndex = k := by
  obtain ⟨r, hr⟩ := aggregateShardRequirements_ok part.2
  have hexists : ∃ s, shardOf k (part.2.map (·.itemIndex)) part.1 part.2 = .ok s := by
    simp only [shardOf, hr, ok_bind]
    refine ⟨_, construct_of_ok ?_⟩
    simp only [PlannedShard.Fields.postInit, then_eq_ok, invalidIf_eq_ok, each_eq_ok,
      Manifest.requireNonnegativeInt_eq_ok, not_not, ne_eq, List.forall_mem_map,
      Manifest.requireNonemptyString, Bool.not_eq_true]
    refine ⟨⟨by omega, by omega⟩, ?_, fun i _ => i.index_safe, ?_, horder.nodup, ?_,
      ⟨duration_sum_nonneg _, hsafe⟩, rfl⟩
    · rwa [List.map_eq_nil_iff]
    · exact Sorting.sortOn_eq_self (List.pairwise_map.mpr (horder.imp fun hlt => hlt.le))
    · obtain ⟨i, hi⟩ := List.exists_mem_of_ne_nil _ hne
      rw [← hprofile i hi]
      exact i.profile_not_blank
  obtain ⟨s, hs⟩ := hexists
  exact ⟨s, (shardOf_eq_ok part).mp hs⟩

/-- Parts with items can all be carried, by shards numbered from an offset on. -/
theorem exists_shards (offset : ℕ) (hne : ∀ part ∈ parts, part.2 ≠ [])
    (horder : ∀ part ∈ parts, InOrder part.2)
    (hprofile : ∀ part ∈ parts, ∀ i ∈ part.2, i.resourceProfileId = part.1)
    (hsafe : ((parts.flatMap Prod.snd).map (·.estimate.durationMs)).sum ≤ 9007199254740991)
    (hcount : offset + parts.length ≤ 9007199254740992) :
    ∃ shards, List.Forall₂ Carries parts shards ∧ Consecutive offset shards := by
  induction parts generalizing offset with
  | nil => exact ⟨[], .nil, trivial⟩
  | cons part parts ih =>
    rw [List.forall_mem_cons] at hne horder hprofile
    rw [List.flatMap_cons, List.map_append, List.sum_append] at hsafe
    rw [List.length_cons] at hcount
    have hpart := duration_sum_nonneg part.2
    have hparts := duration_sum_nonneg (parts.flatMap Prod.snd)
    obtain ⟨s, hs, hindex⟩ :=
      @exists_carries part offset hne.1 horder.1 hprofile.1 (by omega) (by omega)
    obtain ⟨shards, hshards, hnumbered⟩ :=
      ih (offset + 1) hne.2 horder.2 hprofile.2 (by omega) (by omega)
    exact ⟨s :: shards, .cons hs hshards, hindex, hnumbered⟩

/-- What the shards of a list of parts name and take in total. -/
theorem indices_of_carried (h : List.Forall₂ Carries parts shards) :
    shards.flatMap (·.manifestItemIndices) = (parts.flatMap Prod.snd).map (·.itemIndex) := by
  induction h with
  | nil => rfl
  | cons hcarries _ ih =>
    rw [List.flatMap_cons, List.flatMap_cons, List.map_append, ih, hcarries.indices]

theorem duration_of_carried (h : List.Forall₂ Carries parts shards) :
    (shards.map (·.estimatedDurationMs)).sum =
      ((parts.flatMap Prod.snd).map (·.estimate.durationMs)).sum := by
  induction h with
  | nil => rfl
  | cons hcarries _ ih =>
    rw [List.map_cons, List.sum_cons, List.flatMap_cons, List.map_append, List.sum_append, ih,
      hcarries.duration]

/-- A list all of whose elements are equal. -/
theorem dedup_length_of_eq {α : Type} [DecidableEq α] {values : List α}
    (h : ∀ a ∈ values, ∀ b ∈ values, a = b) : ¬ 1 < values.dedup.length := by
  have hnodup := List.nodup_dedup values
  have hmem : ∀ a ∈ values.dedup, a ∈ values := fun a ha => List.mem_dedup.mp ha
  generalize values.dedup = kept at hnodup hmem ⊢
  rcases kept with _ | ⟨a, _ | ⟨b, rest⟩⟩
  · exact Nat.not_lt_zero 1
  · exact Nat.lt_irrefl 1
  · have heq := h a (hmem a List.mem_cons_self) b
      (hmem b (List.mem_cons_of_mem _ List.mem_cons_self))
    have hnot := (List.nodup_cons.mp hnodup).1
    rw [heq] at hnot
    exact absurd List.mem_cons_self hnot

section
variable (hdivision : Division m parts) (hcarried : List.Forall₂ Carries parts shards)
include hdivision hcarried

theorem carried_covers :
    (shards.flatMap (·.manifestItemIndices)).Perm (m.items.map (·.itemIndex)) := by
  rw [indices_of_carried hcarried]
  exact hdivision.perm.map _

/-- Items of one atomic group are found in one shard. -/
theorem carried_together {i j : ManifestItem} {t : PlannedShard} (hi : i ∈ m.items)
    (hj : j ∈ m.items) (hgroup : i.atomicGroupId = j.atomicGroupId)
    (hs : shardByItem shards i.itemIndex = .ok s) (ht : shardByItem shards j.itemIndex = .ok t) :
    s = t := by
  obtain ⟨hs, hsi⟩ := shardByItem_eq_ok hs
  obtain ⟨ht, htj⟩ := shardByItem_eq_ok ht
  obtain ⟨part, hpart, hall⟩ := hdivision.together i hi
  obtain ⟨u, hu, hcarries⟩ := exists_of_mem_left hcarried part hpart
  have hnodup := (carried_covers hdivision hcarried).nodup_iff.mpr m.indices_nodup
  have hheld : ∀ k ∈ part.2, k.itemIndex ∈ u.manifestItemIndices := by
    intro k hk
    rw [hcarries.indices]
    exact List.mem_map_of_mem hk
  have hsu : s = u := Keyed.owner_eq hnodup hs hu hsi (hheld i (hall i hi rfl))
  have htu : t = u := Keyed.owner_eq hnodup ht hu htj (hheld j (hall j hj hgroup.symm))
  rw [hsu, htu]

theorem shardByItem_carried {i : ManifestItem} (hi : i ∈ m.items) :
    ∃ s, shardByItem shards i.itemIndex = .ok s := by
  have hindex := (carried_covers hdivision hcarried).mem_iff.mpr (List.mem_map_of_mem hi)
  obtain ⟨s, hs, hmem⟩ := List.mem_flatMap.mp hindex
  have hfound : (shards.reverse.find? (i.itemIndex ∈ ·.manifestItemIndices)).isSome :=
    List.find?_isSome.mpr ⟨s, List.mem_reverse.mpr hs, decide_eq_true hmem⟩
  obtain ⟨t, ht⟩ := Option.isSome_iff_exists.mp hfound
  exact ⟨t, need_eq_ok.mpr ht⟩

theorem validateShard_carried (hs : s ∈ shards) : validateShard m s = .ok () := by
  obtain ⟨part, hpart, hcarries⟩ := exists_of_mem_right hcarried s hs
  have hitems : collect s.manifestItemIndices m.itemAt = .ok part.2 := by
    rw [hcarries.indices, collect_eq_ok, List.forall₂_map_left_iff, List.forall₂_same]
    intro i hi
    apply CaseManifest.itemAt_eq_ok.mpr
    exact ⟨hdivision.perm.mem_iff.mp (List.mem_flatMap.mpr ⟨part, hpart, hi⟩), rfl⟩
  simp only [validateShard, hitems, hcarries.requirements, ok_bind, then_eq_ok, invalidIf_eq_ok,
    not_not, ne_eq, each_eq_ok]
  refine ⟨trivial, ?_, hcarries.duration⟩
  intro i hi
  rw [hcarries.profile]
  exact hdivision.profile part hpart i hi

/-- A division that fits the safe range passes every check of a candidate. -/
theorem validatePlanCandidate_carried (hnumbered : Consecutive 0 shards) (hne : shards ≠ [])
    (hsafe : (m.items.map (·.estimate.durationMs)).sum ≤ 9007199254740991) :
    validatePlanCandidate m shards = .ok () := by
  have howners : ∃ owners, List.Forall₂ (fun (item : ManifestItem) owner => ∃ s,
      shardByItem shards item.itemIndex = .ok s ∧ (item.atomicGroupId, s.shardIndex) = owner)
      m.items owners := by
    apply exists_forall₂
    intro i hi
    obtain ⟨s, hs⟩ := shardByItem_carried hdivision hcarried hi
    exact ⟨_, s, hs, rfl⟩
  obtain ⟨owners, howners⟩ := howners
  have hsplit : splitGroups owners = [] := by
    rw [splitGroups, sortOn_filter_eq_nil]
    intro group _
    apply dedup_length_of_eq
    intro a ha b hb
    obtain ⟨first, hfirst, rfl⟩ := List.mem_map.mp ha
    obtain ⟨second, hsecond, rfl⟩ := List.mem_map.mp hb
    rw [List.mem_filter, decide_eq_true_eq] at hfirst hsecond
    obtain ⟨i, hi, s, hs, rfl⟩ := exists_of_mem_right howners _ hfirst.1
    obtain ⟨j, hj, t, ht, rfl⟩ := exists_of_mem_right howners _ hsecond.1
    have hgroup : i.atomicGroupId = j.atomicGroupId := hfirst.2.trans hsecond.2.symm
    rw [carried_together hdivision hcarried hi hj hgroup hs ht]
  have hindices := hnumbered.indices_eq
  rw [← List.range_eq_range'] at hindices
  have hdistinct : (shards.map (·.shardIndex)).Nodup :=
    List.pairwise_map.mpr (hnumbered.pairwise.imp fun hlt => hlt.ne)
  have hduration : (shards.map (·.estimatedDurationMs)).sum ≤ 9007199254740991 := by
    rw [duration_of_carried hcarried, (hdivision.perm.map _).sum_eq]
    exact hsafe
  simp only [validatePlanCandidate, bind_eq_ok, exists_unit, invalidIf_eq_ok, not_not, ne_eq,
    requireExactCover_eq_ok m.indices_nodup, rejectFirst_eq_ok, each_eq_ok, collect_eq_ok,
    pure_eq_ok, not_lt]
  exact ⟨hne, hdistinct, hindices, carried_covers hdivision hcarried, owners, howners, hsplit,
    fun s hs => validateShard_carried hdivision hcarried hs, hduration⟩

end

end QaRunner
