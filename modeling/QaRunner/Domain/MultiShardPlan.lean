import QaRunner.Domain.ShardCandidate
import Mathlib.Algebra.BigOperators.Ring.Finset

/-! When the planner returns a plan that splits every profile as far as the budget allows. -/
namespace QaRunner
open Guarded Manifest

namespace CaseManifest

/-- The resource profiles of the items, in ascending order. -/
def profileIds (m : CaseManifest) : List String :=
  Sorting.sortOn id (m.items.map (·.resourceProfileId)).dedup

def profileItems (m : CaseManifest) (profile : String) : List ManifestItem :=
  m.items.filter (·.resourceProfileId = profile)

/-- The parts of a manifest, profile by profile, when each may have so many shards. -/
def planParts (m : CaseManifest) (allowed : String → ℤ) : List (String × List ManifestItem) :=
  m.profileIds.flatMap fun profile =>
    (profileParts (m.profileItems profile) (allowed profile)).map (profile, ·)

/-- How many shards the budget allows for a profile; none when the planner cannot tell. -/
def allowedShards (m : CaseManifest) (budget : ShardPlanningBudget) (profile : String) : ℤ :=
  (allowedShardCountForProfile profile (m.profileItems profile) (some budget)).toOption.getD 0

/-- The number of shards of a profile: as many as allowed, and no more than atomic groups. -/
def shardCount (m : CaseManifest) (budget : ShardPlanningBudget) (profile : String) : ℤ :=
  min (m.allowedShards budget profile) (atomicGroups (m.profileItems profile)).length

/-- Durations in the safe range, one profile for each atomic group, and room for one shard of each
profile. -/
structure Plannable (m : CaseManifest) (budget : ShardPlanningBudget) : Prop where
  duration : (m.items.map (·.estimate.durationMs)).sum ≤ 9007199254740991
  profile : ∀ i ∈ m.items, ∀ j ∈ m.items, i.atomicGroupId = j.atomicGroupId →
    i.resourceProfileId = j.resourceProfileId
  fits : ∀ i ∈ m.items, ∃ p ∈ budget.profiles, p.profileId = i.resourceProfileId ∧
    ∃ cost, p.concurrentReservation = .ok cost ∧ cost.fitsWithin budget.hostCapacity

end CaseManifest

/-- The plan splits every profile of the manifest into as many shards as the budget allows and its
atomic groups permit, none of them empty. -/
structure ShardPlan.SplitsProfiles (plan : ShardPlan) (m : CaseManifest)
    (budget : ShardPlanningBudget) : Prop where
  manifest : plan.manifest = m
  profiles : ∀ s ∈ plan.shards, s.resourceProfileId ∈ m.profileIds
  filled : ∀ s ∈ plan.shards, s.manifestItemIndices ≠ []
  count : ∀ profile ∈ m.profileIds, ∃ allowed,
    allowedShardCountForProfile profile (m.profileItems profile) (some budget) = .ok allowed ∧
      ((plan.shards.filter (·.resourceProfileId = profile)).length : ℤ) =
        min allowed (atomicGroups (m.profileItems profile)).length
  items : ∀ profile ∈ m.profileIds,
    ((plan.shards.filter (·.resourceProfileId = profile)).flatMap (·.manifestItemIndices)).Perm
      ((m.profileItems profile).map (·.itemIndex))

section
variable {m : CaseManifest} {s : PlannedShard} {shards : List PlannedShard} {profile : String}
  {allowed : String → ℤ} {offset : ℕ} {items : List ManifestItem} {planId : Str}
  {algorithmVersion : String}

theorem PlannedShard.validate_payload (s : PlannedShard) (path : Str) :
    validateJsonValue path s.payload = .ok () := by
  have h := s.accepted
  simp only [Fields.postInit, then_eq_ok, each_eq_ok, Manifest.requireNonnegativeInt_eq_ok] at h
  obtain ⟨hindex, -, hindices, -, -, -, hduration, -⟩ := h
  simp only [payload, validateJsonValue_dict, validateJsonFields_cons, validateJsonFields_nil,
    validateJsonValue_int, validateJsonValue_text, SafeInt, and_true, true_and]
  refine ⟨by omega, ?_, by omega, ⟨?_, ?_, ?_, ?_⟩, ?_⟩
  · refine validateJsonValue_map fun index hmem path => ?_
    have hsafe := hindices index hmem
    rw [validateJsonValue_int, SafeInt]
    omega
  all_goals exact validateJsonValue_map fun value _ path => validateJsonValue_text value

/-- Only the number of shards and the total duration can keep a plan from its digest. -/
theorem planPayload_valid_iff {digest : Digest} {path : Str} :
    validateJsonValue path (planPayload digest algorithmVersion shards) = .ok () ↔
      SafeInt shards.length ∧ SafeInt (shards.map (·.estimatedDurationMs)).sum := by
  have hshards : ∀ path, validateJsonValue path (.list (shards.map (·.payload))) = .ok () :=
    fun path => validateJsonValue_map fun s _ path => s.validate_payload path
  simp only [planPayload, validateJsonValue_dict, validateJsonFields_cons, validateJsonFields_nil,
    validateJsonValue_int, validateJsonValue_text, hshards, and_true, true_and]

/-- A candidate of at most so many shards becomes a plan. -/
theorem ShardPlan.create_ok (hplan : isBlank planId = false)
    (halgorithm : isBlank algorithmVersion = false) (hnumbered : Consecutive 0 shards)
    (hvalid : validatePlanCandidate m shards = .ok ())
    (hcount : shards.length ≤ 9007199254740991)
    (hsafe : SafeInt (shards.map (·.estimatedDurationMs)).sum) :
    ∃ plan, create planId m.batchId m algorithmVersion shards = .ok plan ∧ plan.manifest = m ∧
      plan.shards = shards := by
  have hsorted : Sorting.sortOn (·.shardIndex) shards = shards :=
    Sorting.sortOn_eq_self (hnumbered.pairwise.imp fun hlt => hlt.le)
  have hlength : SafeInt shards.length := by
    rw [SafeInt]
    omega
  have hdigest :
      canonicalDigest "qep.shard-plan.v1" (planPayload m.digest algorithmVersion shards) =
        .ok (contentDigest "qep.shard-plan.v1" (planPayload m.digest algorithmVersion shards)) :=
    canonicalDigest_eq_ok.mpr ⟨planPayload_valid_iff.mpr ⟨hlength, hsafe⟩, rfl⟩
  have hbatch : isBlank m.batchId = false := by
    have h := m.accepted
    simp only [CaseManifest.Fields.postInit, then_eq_ok, Manifest.requireNonemptyString,
      invalidIf_eq_ok, Bool.not_eq_true] at h
    exact h.2.1
  have haccepted : Fields.postInit {
      id := planId
      batchId := m.batchId
      schemaVersion := "qep.shard-plan.v1"
      manifest := m
      algorithmVersion, shards
      digest := contentDigest "qep.shard-plan.v1"
        (planPayload m.digest algorithmVersion shards) } = .ok () := by
    simp only [Fields.postInit, bind_eq_ok, exists_unit, Manifest.requireNonemptyString,
      invalidIf_eq_ok, Bool.not_eq_true, not_not]
    exact ⟨hplan, hbatch, trivial, trivial, halgorithm, hvalid, _, hdigest, rfl⟩
  simp only [create, hsorted, hvalid, ok_bind, hdigest]
  exact ⟨_, construct_of_ok haccepted, rfl, rfl⟩

theorem ShardPlan.count_of_create {plan : ShardPlan}
    (h : create planId m.batchId m algorithmVersion shards = .ok plan) :
    shards.length ≤ 9007199254740991 := by
  simp only [create, bind_eq_ok, exists_unit, canonicalDigest_eq_ok, planPayload_valid_iff] at h
  obtain ⟨-, digest, ⟨⟨hcount, -⟩, -⟩, -⟩ := h
  rw [(Sorting.sortOn_perm _ shards).length_eq, SafeInt] at hcount
  omega

theorem lptSplitGroup_eq_ok {effective : ℕ} {k : ℤ} (horder : InOrder items)
    (heffective : (min k (atomicGroups items).length).toNat = effective) (hpos : 0 < effective) :
    lptSplitGroup items profile k offset = .ok shards ↔
      List.Forall₂ Carries ((lptParts items effective).map (profile, ·)) shards ∧
        Consecutive offset shards := by
  have hpart : ∀ held ∈ shardIndices items effective, ∀ index s,
      shardOf index (Sorting.sortOn id held) profile
        (items.filter (·.itemIndex ∈ Sorting.sortOn id held)) = .ok s ↔
      Carries (profile, items.filter (·.itemIndex ∈ held)) s ∧ s.shardIndex = index := by
    intro held hheld index s
    simp only [Sorting.mem_sortOn]
    rw [sortOn_held horder (held_nodup horder hpos hheld) (mem_held hpos hheld)]
    exact shardOf_eq_ok (profile, _)
  rw [lptSplitGroup, collect_eq_ok, lptParts, List.map_map, heffective]
  generalize shardIndices items effective = all at hpart
  have hcollect : ∀ start, List.Forall₂ (fun x s => shardOf (offset + x.2)
      (Sorting.sortOn id x.1) profile (items.filter (·.itemIndex ∈ Sorting.sortOn id x.1)) = .ok s)
      (all.zipIdx start) shards ↔
      List.Forall₂ Carries
        (all.map ((profile, ·) ∘ fun held => items.filter (·.itemIndex ∈ held))) shards ∧
        Consecutive (offset + start) shards := by
    induction all generalizing shards with
    | nil => cases shards <;> simp [Consecutive]
    | cons held all ih =>
      rw [List.forall_mem_cons] at hpart
      intro start
      cases shards with
      | nil => simp
      | cons s shards =>
        rw [List.zipIdx_cons, List.forall₂_cons, hpart.1, ih hpart.2, List.map_cons,
          List.forall₂_cons, Consecutive, ← Nat.add_assoc, Nat.cast_add]
        simp only [Function.comp_apply]
        constructor
        · rintro ⟨⟨hcarries, hindex⟩, hrest, hnumbered⟩
          exact ⟨⟨hcarries, hrest⟩, hindex, hnumbered⟩
        · rintro ⟨⟨hcarries, hrest⟩, hindex, hnumbered⟩
          exact ⟨⟨hcarries, hindex⟩, hrest, hnumbered⟩
  exact hcollect 0

theorem singleShardForGroup_eq_ok :
    singleShardForGroup items profile offset = .ok shards ↔
      List.Forall₂ Carries [(profile, items)] shards ∧ Consecutive offset shards := by
  simp only [singleShardForGroup, bind_eq_ok, pure_eq_ok, List.forall₂_cons_left_iff,
    List.forall₂_nil_left_iff]
  constructor
  · rintro ⟨s, hs, rfl⟩
    obtain ⟨hcarries, hindex⟩ := (shardOf_eq_ok (profile, items)).mp hs
    exact ⟨⟨s, [], hcarries, rfl, rfl⟩, hindex, trivial⟩
  · rintro ⟨⟨s, rest, hcarries, rfl, rfl⟩, hindex, -⟩
    exact ⟨s, (shardOf_eq_ok (profile, items)).mpr ⟨hcarries, hindex⟩, rfl⟩

namespace CaseManifest

theorem items_ne_nil (m : CaseManifest) : m.items ≠ [] := by
  have h := m.items_valid
  simp only [validateManifestItems, then_eq_ok, invalidIf_eq_ok] at h
  exact h.1

theorem profileIds_nodup (m : CaseManifest) : m.profileIds.Nodup :=
  (Sorting.sortOn_perm _ _).nodup_iff.mpr (List.nodup_dedup _)

theorem mem_profileIds :
    profile ∈ m.profileIds ↔ ∃ i ∈ m.items, i.resourceProfileId = profile := by
  rw [profileIds, Sorting.mem_sortOn, List.mem_dedup, List.mem_map]

theorem profileItems_ne_nil (h : profile ∈ m.profileIds) : m.profileItems profile ≠ [] := by
  obtain ⟨i, hi, rfl⟩ := mem_profileIds.mp h
  exact List.ne_nil_of_mem (List.mem_filter.mpr ⟨hi, decide_eq_true rfl⟩)

theorem profileItems_inOrder (m : CaseManifest) (profile : String) :
    InOrder (m.profileItems profile) := m.inOrder.sublist List.filter_sublist

/-- The items found for the indices of a profile are those of the profile. -/
theorem collect_profileItems (m : CaseManifest) (profile : String) :
    collect (Sorting.sortOn id ((m.profileItems profile).map (·.itemIndex))) m.itemAt =
      .ok (m.profileItems profile) := by
  have hsorted : Sorting.sortOn id ((m.profileItems profile).map (·.itemIndex)) =
      (m.profileItems profile).map (·.itemIndex) :=
    Sorting.sortOn_eq_self
      (List.pairwise_map.mpr ((m.profileItems_inOrder profile).imp fun hlt => hlt.le))
  rw [hsorted, collect_eq_ok, List.forall₂_map_left_iff, List.forall₂_same]
  intro i hi
  exact itemAt_eq_ok.mpr ⟨(List.mem_filter.mp hi).1, rfl⟩

end CaseManifest

/-- What the planner plans for one profile: one shard for each of its parts. -/
theorem planGroup_eq_ok {budget : Option ShardPlanningBudget} {k : ℤ}
    (hprofile : profile ∈ m.profileIds)
    (hk : allowedShardCountForProfile profile (m.profileItems profile) budget = .ok k)
    (hpos : 1 ≤ k) :
    planGroup m budget profile ((m.profileItems profile).map (·.itemIndex)) offset = .ok shards ↔
      List.Forall₂ Carries ((profileParts (m.profileItems profile) k).map (profile, ·)) shards ∧
        Consecutive offset shards := by
  simp only [planGroup, m.collect_profileItems, ok_bind, hk, bind_eq_ok, exists_unit,
    invalidIf_eq_ok, not_lt]
  rw [and_iff_right hpos, profileParts]
  split
  · exact singleShardForGroup_eq_ok
  · exact lptSplitGroup_eq_ok (m.profileItems_inOrder profile) rfl
      (effective_pos (CaseManifest.profileItems_ne_nil hprofile) hpos)

/-- One shard for each of the parts, numbered from those planned before. -/
theorem planGroups_eq_ok (allowed : String → ℤ) {budget : Option ShardPlanningBudget}
    {profiles : List String} {planned all : List PlannedShard}
    (hallowed : ∀ profile ∈ profiles, profile ∈ m.profileIds ∧ 1 ≤ allowed profile ∧
      allowedShardCountForProfile profile (m.profileItems profile) budget =
        .ok (allowed profile)) :
    planGroups m budget planned (profiles.map fun profile =>
      (profile, (m.profileItems profile).map (·.itemIndex))) = .ok all ↔
      ∃ shards, all = planned ++ shards ∧ Consecutive planned.length shards ∧
        List.Forall₂ Carries (profiles.flatMap fun profile =>
          (profileParts (m.profileItems profile) (allowed profile)).map (profile, ·)) shards := by
  induction profiles generalizing planned with
  | nil =>
    simp only [List.map_nil, planGroups, List.flatMap_nil, List.forall₂_nil_left_iff]
    constructor
    · intro h
      cases h
      exact ⟨[], (List.append_nil _).symm, trivial, rfl⟩
    · rintro ⟨_, rfl, -, rfl⟩
      rw [List.append_nil]
  | cons profile profiles ih =>
    rw [List.forall_mem_cons] at hallowed
    obtain ⟨⟨hprofile, hpos, hk⟩, hrest⟩ := hallowed
    simp only [List.map_cons, planGroups, bind_eq_ok, planGroup_eq_ok hprofile hk hpos, ih hrest,
      List.flatMap_cons]
    constructor
    · rintro ⟨first, ⟨hfirst, hnumbered⟩, shards, rfl, hnumbered', hshards⟩
      rw [List.length_append] at hnumbered'
      exact ⟨first ++ shards, List.append_assoc _ _ _,
        Consecutive.append.mpr ⟨hnumbered, hnumbered'⟩, List.rel_append hfirst hshards⟩
    · rintro ⟨shards, rfl, hnumbered, hshards⟩
      obtain ⟨first, second, hfirst, hsecond, rfl⟩ := forall₂_append_left hshards
      obtain ⟨hnumbered, hnumbered'⟩ := Consecutive.append.mp hnumbered
      rw [← List.length_append] at hnumbered'
      exact ⟨first, ⟨hfirst, hnumbered⟩, second, (List.append_assoc _ _ _).symm, hnumbered',
        hsecond⟩

namespace CaseManifest

section
variable (hallowed : ∀ profile ∈ m.profileIds, 1 ≤ allowed profile)
include hallowed

theorem splits_profileItems (hprofile : profile ∈ m.profileIds) :
    Splits (m.profileItems profile) (profileParts (m.profileItems profile) (allowed profile)) :=
  splits_profileParts (m.profileItems_inOrder profile) (profileItems_ne_nil hprofile)
    (hallowed profile hprofile)

/-- The parts of all profiles divide the manifest when no atomic group has two profiles. -/
theorem division_planParts (hshare : ∀ i ∈ m.items, ∀ j ∈ m.items,
    i.atomicGroupId = j.atomicGroupId → i.resourceProfileId = j.resourceProfileId) :
    Division m (m.planParts allowed) := by
  have hmem : ∀ part ∈ m.planParts allowed, ∃ profile ∈ m.profileIds,
      part.1 = profile ∧ part.2 ∈ profileParts (m.profileItems profile) (allowed profile) := by
    intro part hpart
    obtain ⟨profile, hprofile, hpart⟩ := List.mem_flatMap.mp hpart
    obtain ⟨items, hitems, rfl⟩ := List.mem_map.mp hpart
    exact ⟨profile, hprofile, rfl, hitems⟩
  constructor
  · rw [planParts, List.flatMap_assoc]
    have hparts : ∀ profile ∈ m.profileIds,
        (((profileParts (m.profileItems profile) (allowed profile)).map (profile, ·)).flatMap
          Prod.snd).Perm (m.profileItems profile) := by
      intro profile hprofile
      rw [List.flatMap_map, List.flatMap_id']
      exact (splits_profileItems hallowed hprofile).perm
    refine (List.Perm.flatMap_left m.profileIds hparts).trans ?_
    exact Keyed.flatMap_filter_perm _ m.profileIds_nodup fun i hi => mem_profileIds.mpr ⟨i, hi, rfl⟩
  · intro part hpart
    obtain ⟨profile, hprofile, -, hitems⟩ := hmem part hpart
    exact (m.profileItems_inOrder profile).sublist
      ((splits_profileItems hallowed hprofile).sublist _ hitems)
  · intro part hpart i hi
    obtain ⟨profile, hprofile, hfst, hitems⟩ := hmem part hpart
    have hin := ((splits_profileItems hallowed hprofile).sublist _ hitems).subset hi
    rw [hfst]
    exact of_decide_eq_true (List.mem_filter.mp hin).2
  · intro i hi
    have hprofile : i.resourceProfileId ∈ m.profileIds := mem_profileIds.mpr ⟨i, hi, rfl⟩
    have hmine : ∀ j ∈ m.items, j.atomicGroupId = i.atomicGroupId →
        j ∈ m.profileItems i.resourceProfileId := by
      intro j hj hgroup
      exact List.mem_filter.mpr ⟨hj, decide_eq_true (hshare j hj i hi hgroup)⟩
    obtain ⟨items, hitems, htogether⟩ :=
      (splits_profileItems hallowed hprofile).together i (hmine i hi rfl)
    refine ⟨(i.resourceProfileId, items), ?_, ?_⟩
    · exact List.mem_flatMap.mpr ⟨_, hprofile, List.mem_map_of_mem hitems⟩
    · intro j hj hgroup
      exact htogether j (hmine j hj hgroup) hgroup

/-- No part is empty exactly when each profile has enough atomic groups that take time. -/
theorem planParts_filled_iff : (∀ part ∈ m.planParts allowed, part.2 ≠ []) ↔
    ∀ profile ∈ m.profileIds,
      min (allowed profile) (atomicGroups (m.profileItems profile)).length ≤
        1 + (positiveGroups (m.profileItems profile) : ℤ) := by
  simp only [planParts, List.forall_mem_flatMap, List.forall_mem_map]
  apply forall₂_congr
  intro profile hprofile
  exact profileParts_filled_iff (profileItems_ne_nil hprofile) (hallowed profile hprofile)

theorem length_planParts : ((m.planParts allowed).length : ℤ) =
    (m.profileIds.map fun profile =>
      min (allowed profile) ((atomicGroups (m.profileItems profile)).length : ℤ)).sum := by
  rw [planParts, List.length_flatMap, Nat.cast_list_sum, List.map_map]
  apply congrArg List.sum
  apply List.map_congr_left
  intro profile hprofile
  rw [Function.comp_apply, List.length_map]
  exact length_profileParts (profileItems_ne_nil hprofile) (hallowed profile hprofile)

end

theorem planParts_of_profile (hprofile : profile ∈ m.profileIds) :
    (m.planParts allowed).filter (·.1 = profile) =
      (profileParts (m.profileItems profile) (allowed profile)).map (profile, ·) := by
  apply Keyed.filter_flatMap m.profileIds_nodup _ hprofile
  intro other _ part hpart
  obtain ⟨items, -, rfl⟩ := List.mem_map.mp hpart
  rfl

/-- A profile of a plannable manifest may have at least one shard. -/
theorem Plannable.allows {budget : ShardPlanningBudget} (h : m.Plannable budget)
    (hprofile : profile ∈ m.profileIds) :
    1 ≤ m.allowedShards budget profile ∧
      allowedShardCountForProfile profile (m.profileItems profile) (some budget) =
        .ok (m.allowedShards budget profile) := by
  obtain ⟨i, hi, rfl⟩ := mem_profileIds.mp hprofile
  obtain ⟨p, hp, hid, cost, hcost, hfits⟩ := h.fits i hi
  have hsplit := (List.filter_append_perm
    (fun j : ManifestItem => decide (j.resourceProfileId = i.resourceProfileId)) m.items).map
    (·.estimate.durationMs) |>.sum_eq
  rw [List.map_append, List.sum_append] at hsplit
  have hmine := duration_sum_nonneg (m.profileItems i.resourceProfileId)
  have hothers := duration_sum_nonneg
    (m.items.filter fun j => !decide (j.resourceProfileId = i.resourceProfileId))
  have hsafe : ((m.profileItems i.resourceProfileId).map (·.estimate.durationMs)).sum ≤
      9007199254740991 := by
    have htotal := h.duration
    rw [profileItems]
    omega
  obtain ⟨decision, hdecision, hkind, hcount⟩ :=
    planShardCountUnderBudget_ok hp hcost hfits hmine hsafe
  rw [hid] at hdecision
  have hallowed : allowedShardCountForProfile i.resourceProfileId
      (m.profileItems i.resourceProfileId) (some budget) = .ok decision.allowedShardCount := by
    simp only [allowedShardCountForProfile, hdecision, ok_bind, if_neg hkind]
    rfl
  rw [allowedShards, hallowed]
  exact ⟨hcount, rfl⟩

end CaseManifest

/-- The shards that carry the parts of a manifest split it by profile. -/
theorem splitsProfiles_of_carried {budget : ShardPlanningBudget} {plan : ShardPlan}
    (h : m.Plannable budget) (hmanifest : plan.manifest = m)
    (hcarried : List.Forall₂ Carries (m.planParts (m.allowedShards budget)) plan.shards) :
    plan.SplitsProfiles m budget := by
  have hallowed : ∀ profile ∈ m.profileIds, 1 ≤ m.allowedShards budget profile :=
    fun profile hprofile => (h.allows hprofile).1
  have hfilter : ∀ profile ∈ m.profileIds, List.Forall₂ Carries
      ((profileParts (m.profileItems profile) (m.allowedShards budget profile)).map (profile, ·))
      (plan.shards.filter (·.resourceProfileId = profile)) := by
    intro profile hprofile
    rw [← CaseManifest.planParts_of_profile hprofile]
    apply List.rel_filter _ hcarried
    intro part s hcarries
    simp only [decide_eq_true_eq, hcarries.profile]
  refine ⟨hmanifest, ?_, fun s _ => s.indices_ne_nil, ?_, ?_⟩
  · intro s hs
    obtain ⟨part, hpart, hcarries⟩ := exists_of_mem_right hcarried s hs
    obtain ⟨profile, hprofile, hpart⟩ := List.mem_flatMap.mp hpart
    obtain ⟨items, -, rfl⟩ := List.mem_map.mp hpart
    rw [hcarries.profile]
    exact hprofile
  · intro profile hprofile
    refine ⟨_, (h.allows hprofile).2, ?_⟩
    rw [← (hfilter profile hprofile).length_eq, List.length_map]
    exact length_profileParts (CaseManifest.profileItems_ne_nil hprofile)
      (hallowed profile hprofile)
  · intro profile hprofile
    rw [indices_of_carried (hfilter profile hprofile), List.flatMap_map, List.flatMap_id']
    exact (CaseManifest.splits_profileItems hallowed hprofile).perm.map _

/-- The planner returns a plan that splits every profile as far as allowed exactly when, in each
profile, all but one of the shards can get an atomic group that takes time: groups that take none
all go to one shard, and the shards left empty are refused. -/
theorem plan_multi_shard_iff {budget : ShardPlanningBudget} (h : m.Plannable budget)
    (hplan : isBlank planId = false) (halgorithm : isBlank algorithmVersion = false) :
    (∃ plan, planMultiShard planId m algorithmVersion (some budget) = .ok plan ∧
      plan.SplitsProfiles m budget) ↔
      (∀ profile ∈ m.profileIds,
        m.shardCount budget profile ≤ 1 + (positiveGroups (m.profileItems profile) : ℤ)) ∧
      (m.profileIds.map (m.shardCount budget)).sum ≤ 9007199254740991 := by
  have hallowed : ∀ profile ∈ m.profileIds, 1 ≤ m.allowedShards budget profile :=
    fun profile hprofile => (h.allows hprofile).1
  have hgroups : ∀ all, planGroups m (some budget) [] (profileGroups m.items) = .ok all ↔
      Consecutive 0 all ∧ List.Forall₂ Carries (m.planParts (m.allowedShards budget)) all := by
    intro all
    refine (planGroups_eq_ok (m.allowedShards budget) fun profile hprofile =>
      ⟨hprofile, h.allows hprofile⟩).trans ?_
    simp only [List.nil_append, List.length_nil]
    constructor
    · rintro ⟨shards, rfl, hshards⟩
      exact hshards
    · intro hall
      exact ⟨all, rfl, hall⟩
  have hlength := CaseManifest.length_planParts hallowed
  have hfilled := CaseManifest.planParts_filled_iff hallowed
  constructor
  · rintro ⟨plan, hplanned, -⟩
    obtain ⟨shards, hshards, hcreate⟩ := bind_eq_ok.mp hplanned
    obtain ⟨-, hcarried⟩ := (hgroups shards).mp hshards
    constructor
    · apply hfilled.mp
      intro part hpart
      obtain ⟨s, -, hcarries⟩ := exists_of_mem_left hcarried part hpart
      exact hcarries.part_ne_nil
    · have hcount := ShardPlan.count_of_create hcreate
      rw [← hcarried.length_eq] at hcount
      show (m.profileIds.map fun profile => _).sum ≤ _
      unfold CaseManifest.shardCount
      omega
  · rintro ⟨henough, hcount⟩
    have hdivision := CaseManifest.division_planParts hallowed h.profile
    have hsum := (hdivision.perm.map (·.estimate.durationMs)).sum_eq
    have hcount' : (m.planParts (m.allowedShards budget)).length ≤ 9007199254740991 := by
      have hcount : (m.profileIds.map fun profile => m.shardCount budget profile).sum ≤
        9007199254740991 := hcount
      unfold CaseManifest.shardCount at hcount
      omega
    obtain ⟨shards, hcarried, hnumbered⟩ := exists_shards 0 (hfilled.mpr henough)
      hdivision.inOrder hdivision.profile (by rw [hsum]; exact h.duration) (by omega)
    have hne : shards ≠ [] := by
      rintro rfl
      have hcovers := carried_covers hdivision hcarried
      exact m.items_ne_nil (List.map_eq_nil_iff.mp (List.nil_perm.mp hcovers))
    have hduration : SafeInt (shards.map (·.estimatedDurationMs)).sum := by
      have hnonneg := duration_sum_nonneg m.items
      have hsafe := h.duration
      rw [duration_of_carried hcarried, hsum, SafeInt]
      omega
    have hvalid := validatePlanCandidate_carried hdivision hcarried hnumbered hne h.duration
    obtain ⟨plan, hcreate, hmanifest, hshards⟩ := ShardPlan.create_ok hplan halgorithm hnumbered
      hvalid (by rw [← hcarried.length_eq]; exact hcount') hduration
    refine ⟨plan, ?_, ?_⟩
    · rw [planMultiShard, (hgroups shards).mpr ⟨hnumbered, hcarried⟩]
      exact hcreate
    · apply splitsProfiles_of_carried h hmanifest
      rw [hshards]
      exact hcarried

end

namespace IdleGroups

def locator : FrameworkLocator := ⟨⟨"qep.pytest.v1", "pytest", [("nodeid", "test_a")]⟩, rfl⟩

def noConstraints : ManifestConstraints := ⟨⟨none, [], [], []⟩, rfl⟩

def noDuration : WorkEstimate := ⟨⟨0, .low⟩, rfl⟩

def firstItem : ManifestItem :=
  ⟨⟨0, "case-a", locator, "group-a", "profile-1", noConstraints, noDuration, [], .zero⟩, rfl⟩

def secondItem : ManifestItem :=
  ⟨⟨1, "case-b", locator, "group-b", "profile-1", noConstraints, noDuration, [], .zero⟩, rfl⟩

def inputs : ManifestInputs := ⟨⟨.zero, .zero, .zero, .zero, .zero, "v1"⟩, rfl⟩

def content : Json := manifestPayload inputs [firstItem, secondItem]

theorem items_accepted : validateManifestItems [firstItem, secondItem] = .ok () := by
  rfl

theorem content_valid : validateJsonValue "$.payload" content = .ok () := by rfl

def fields : CaseManifest.Fields where
  id := "manifest-1"
  batchId := "batch-1"
  schemaVersion := "qep.case-manifest.v1"
  inputs := inputs
  items := [firstItem, secondItem]
  digest := contentDigest "qep.case-manifest.v1" content

theorem fields_accepted : fields.postInit = .ok () := by
  simp only [CaseManifest.Fields.postInit, bind_eq_ok, exists_unit]
  exact ⟨rfl, rfl, rfl, items_accepted, _, canonicalDigest_eq_ok.mpr ⟨content_valid, rfl⟩,
    invalidIf_eq_ok.mpr (not_not.mpr rfl)⟩

/-- Two atomic groups of one profile that take no time. -/
def manifest : CaseManifest := ⟨fields, fields_accepted⟩

def unitVector : ResourceVector := ⟨⟨1, 1, 1, 1, 1⟩, rfl⟩

def hostVector : ResourceVector := ⟨⟨4, 4, 4, 4, 4⟩, rfl⟩

theorem profile_accepted : ResourceProfileSpec.Fields.postInit
    ⟨"profile-1", "small", 1, "pytest", unitVector, unitVector, 1, "security-1"⟩ = .ok () := by
  rfl

def profile : ResourceProfileSpec := ⟨_, profile_accepted⟩

theorem pair_accepted :
    ShardPlanningBudget.Fields.postInit ⟨1000, 2, 4, hostVector, [profile]⟩ = .ok () := by
  rfl

/-- A budget that asks for two shards of a profile. -/
def pairBudget : ShardPlanningBudget := ⟨_, pair_accepted⟩

theorem reservation : profile.concurrentReservation = .ok unitVector := by rfl

theorem plannable {m : CaseManifest}
    (hprofile : ∀ i ∈ m.items, i.resourceProfileId = "profile-1")
    (hduration : (m.items.map (·.estimate.durationMs)).sum ≤ 9007199254740991) :
    m.Plannable pairBudget := by
  constructor
  · exact hduration
  · intro i hi j hj _
    rw [hprofile i hi, hprofile j hj]
  · intro i hi
    rw [hprofile i hi]
    exact ⟨profile, List.mem_singleton.mpr rfl, rfl, unitVector, reservation, by decide⟩

end IdleGroups

namespace BusyGroups
open IdleGroups

def longest : ManifestItem :=
  ⟨⟨0, "case-a", locator, "group-a", "profile-1", noConstraints, ⟨⟨500, .low⟩, rfl⟩, [], .zero⟩,
    rfl⟩

def middle : ManifestItem :=
  ⟨⟨1, "case-b", locator, "group-b", "profile-1", noConstraints, ⟨⟨400, .low⟩, rfl⟩, [], .zero⟩,
    rfl⟩

def shortest : ManifestItem :=
  ⟨⟨2, "case-c", locator, "group-c", "profile-1", noConstraints, ⟨⟨300, .low⟩, rfl⟩, [], .zero⟩,
    rfl⟩

def content : Json := manifestPayload inputs [longest, middle, shortest]

theorem items_accepted : validateManifestItems [longest, middle, shortest] = .ok () := by
  rfl

theorem content_valid : validateJsonValue "$.payload" content = .ok () := by rfl

def fields : CaseManifest.Fields where
  id := "manifest-2"
  batchId := "batch-1"
  schemaVersion := "qep.case-manifest.v1"
  inputs := inputs
  items := [longest, middle, shortest]
  digest := contentDigest "qep.case-manifest.v1" content

theorem fields_accepted : fields.postInit = .ok () := by
  simp only [CaseManifest.Fields.postInit, bind_eq_ok, exists_unit]
  exact ⟨rfl, rfl, rfl, items_accepted, _, canonicalDigest_eq_ok.mpr ⟨content_valid, rfl⟩,
    invalidIf_eq_ok.mpr (not_not.mpr rfl)⟩

/-- Three atomic groups of one profile, to be split into two shards. -/
def manifest : CaseManifest := ⟨fields, fields_accepted⟩

/-- The longest group goes into one shard, the others into the other. -/
example : manifest.planParts (manifest.allowedShards pairBudget) =
    [("profile-1", [longest]), ("profile-1", [middle, shortest])] := by
  decide +kernel

end BusyGroups

theorem plan_multi_shard_busy : ∃ plan,
    planMultiShard "plan-1" BusyGroups.manifest multiShardAlgorithmVersion
      (some IdleGroups.pairBudget) = .ok plan ∧
      plan.SplitsProfiles BusyGroups.manifest IdleGroups.pairBudget :=
  (plan_multi_shard_iff (IdleGroups.plannable (by decide) (by decide)) (by decide)
    (by decide)).mpr (by decide +kernel)

/-- Two groups without duration are both put into the first of two shards, and the second shard is
refused as empty. -/
theorem idle_groups_refused :
    ¬ ∀ (m : CaseManifest) (budget : ShardPlanningBudget) (planId : Str)
      (algorithmVersion : String),
      m.Plannable budget → isBlank planId = false → isBlank algorithmVersion = false →
      ∃ plan, planMultiShard planId m algorithmVersion (some budget) = .ok plan ∧
        plan.SplitsProfiles m budget := by
  intro hall
  have hrefused : planMultiShard "plan-1" IdleGroups.manifest multiShardAlgorithmVersion
      (some IdleGroups.pairBudget) =
      .error (.domainValidation "planned_shard" "manifest_item_indices" "empty") := by
    rfl
  obtain ⟨plan, hplan, -⟩ := hall IdleGroups.manifest IdleGroups.pairBudget "plan-1"
    multiShardAlgorithmVersion (IdleGroups.plannable (by decide) (by decide)) (by decide)
    (by decide)
  rw [hrefused] at hplan
  cases hplan

end QaRunner
