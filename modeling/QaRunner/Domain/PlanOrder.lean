import QaRunner.Domain.MultiShardPlan
import QaRunner.Lib.KeyedFold

/-! Manifests, plans and bindings made of the same values in another order are the same, and the
planner does not see the order of its dictionaries. -/
namespace QaRunner
open Guarded Manifest

section
variable (items : List ManifestItem)

/-- The item indices of each profile, as the planner collects them. -/
def profileDictionary : KeyedFold String (List ℤ) :=
  .run (·.resourceProfileId) [] (fun indices item => indices ++ [item.itemIndex]) .empty items

/-- The duration of each atomic group, as the split of a profile adds it up. -/
def durationDictionary : KeyedFold String ℤ :=
  .run (·.atomicGroupId) 0 (fun duration item => duration + item.estimate.durationMs) .empty items

def indexDictionary : KeyedFold String (List ℤ) :=
  .run (·.atomicGroupId) [] (fun indices item => indices ++ [item.itemIndex]) .empty items

end

def ShardPlanningBudget.new : ShardPlanningBudget.Fields → Result ShardPlanningBudget :=
  construct Fields.postInit ShardPlanningBudget.mk

section
variable {items items' : List ManifestItem} {keys : List String}

theorem foldl_indices : items.foldl (fun indices item => indices ++ [item.itemIndex]) [] =
    items.map (·.itemIndex) := by
  rw [List.map_eq_flatMap, List.foldl_append_eq_append, List.nil_append]
  rfl

theorem foldl_durations :
    items.foldl (fun duration item => duration + item.estimate.durationMs) 0 =
      (items.map (·.estimate.durationMs)).sum := by
  rw [List.sum_eq_foldl, List.foldl_map]

/-- However the dictionary of the profiles is enumerated, the planner works on the same groups. -/
theorem profileGroups_of_order (h : keys.Perm (profileDictionary items).order) :
    (Sorting.sortOn id keys).map (fun profile =>
      (profile, ((profileDictionary items).entries profile).getD [])) = profileGroups items := by
  rw [profileGroups, Sorting.sortOn_id_of_perm (h.trans KeyedFold.order_run_perm)]
  apply List.map_congr_left
  intro profile _
  rw [profileDictionary, KeyedFold.getD_entries_run, foldl_indices]

theorem durationDictionary_entry (group : String) :
    ((durationDictionary items).entries group).getD 0 = groupDuration items group := by
  rw [durationDictionary, KeyedFold.getD_entries_run, foldl_durations, groupDuration]

theorem indexDictionary_entry (group : String) :
    ((indexDictionary items).entries group).getD [] = groupIndices items group := by
  rw [indexDictionary, KeyedFold.getD_entries_run, foldl_indices, groupIndices]

/-- However the dictionary of the durations is enumerated, the groups are taken in one order: no two
of them tie. -/
theorem sortedGroups_of_order (h : keys.Perm (durationDictionary items).order) :
    Sorting.sortOn (fun group =>
      toLex (-((durationDictionary items).entries group).getD 0, group)) keys =
        sortedGroups items := by
  apply Sorting.sortOn_congr (h.trans KeyedFold.order_run_perm)
  · intro group _
    rw [durationDictionary_entry]
  · intro first _ second _ hkey
    exact congrArg (fun k => (ofLex k).2) hkey

theorem validateManifestItems_duplicate (h : ¬ (items.map (·.itemIndex)).Nodup) :
    validateManifestItems items =
      .error (.domainValidation "case_manifest" "item_index" "duplicate") := by
  have hsome : items ≠ [] := by
    rintro rfl
    exact h List.nodup_nil
  rw [validateManifestItems, invalidIf_eq_ok (u := ()) |>.mpr hsome, ok_bind]
  simp only [invalidIf_of h, error_bind]

/-- Items under one index are refused before anything looks at their order. -/
theorem CaseManifest.create_of_perm (h : items.Perm items') (manifestId batchId : Str)
    (inputs : ManifestInputs) :
    create manifestId batchId inputs items = create manifestId batchId inputs items' := by
  have hrefused : ∀ given : List ManifestItem, ¬ (given.map (·.itemIndex)).Nodup → (do
      validateManifestItems given
      let digest ← canonicalDigest "qep.case-manifest.v1" (manifestPayload inputs given)
      new ⟨manifestId, batchId, "qep.case-manifest.v1", inputs, given, digest⟩) =
        .error (.domainValidation "case_manifest" "item_index" "duplicate") := by
    intro given hgiven
    rw [validateManifestItems_duplicate hgiven, error_bind]
  exact Sorting.apply_sortOn_of_perm (·.itemIndex) hrefused h

end

section
variable {shards shards' : List PlannedShard} {manifest : CaseManifest}

theorem validatePlanCandidate_duplicate (h : ¬ (shards.map (·.shardIndex)).Nodup) :
    validatePlanCandidate manifest shards =
      .error (.domainValidation "shard_plan" "shard_index" "duplicate") := by
  have hsome : shards ≠ [] := by
    rintro rfl
    exact h List.nodup_nil
  rw [validatePlanCandidate, invalidIf_eq_ok (u := ()) |>.mpr hsome, ok_bind]
  simp only [invalidIf_of h, error_bind]

theorem ShardPlan.create_of_perm (h : shards.Perm shards') (planId batchId : Str)
    (manifest : CaseManifest) (algorithmVersion : String) :
    create planId batchId manifest algorithmVersion shards =
      create planId batchId manifest algorithmVersion shards' := by
  have hrefused : ∀ given : List PlannedShard, ¬ (given.map (·.shardIndex)).Nodup → (do
      validatePlanCandidate manifest given
      let digest ← canonicalDigest "qep.shard-plan.v1"
        (planPayload manifest.digest algorithmVersion given)
      new ⟨planId, batchId, "qep.shard-plan.v1", manifest, algorithmVersion, given, digest⟩) =
        .error (.domainValidation "shard_plan" "shard_index" "duplicate") := by
    intro given hgiven
    rw [validatePlanCandidate_duplicate hgiven, error_bind]
  exact Sorting.apply_sortOn_of_perm (·.shardIndex) hrefused h

end

section
variable {plan : ShardPlan} {bindings bindings' : List RunBinding}

theorem requireExactCover_of_perm {entity field : String} {expected actual actual' : List ℤ}
    (h : actual.Perm actual') :
    requireExactCover entity field expected actual =
      requireExactCover entity field expected actual' := by
  have hsorted : ∀ p : ℤ → Bool,
      Sorting.sortOn id (actual.dedup.filter p) = Sorting.sortOn id (actual'.dedup.filter p) :=
    fun p => Sorting.sortOn_id_of_perm (h.dedup.filter p)
  simp only [requireExactCover, hsorted, h.count_eq, h.mem_iff]

theorem validateRunBindings_of_perm (h : bindings.Perm bindings') :
    validateRunBindings plan bindings = validateRunBindings plan bindings' := by
  simp only [validateRunBindings, (h.map (·.runId)).nodup_iff,
    requireExactCover_of_perm (h.map (·.shardIndex))]

theorem ShardPlan.shardIndices_nodup (plan : ShardPlan) :
    (plan.shards.map (·.shardIndex)).Nodup := by
  have h := plan.candidate_valid
  simp only [validatePlanCandidate, then_eq_ok, invalidIf_eq_ok, not_not] at h
  exact h.2.1

/-- Sorted bindings are in order, so only what they bind is left to check. -/
theorem BoundShardPlan.postInit_sorted (plan : ShardPlan) (bindings : List RunBinding) :
    Fields.postInit ⟨plan, Sorting.sortOn (·.shardIndex) bindings⟩ =
      validateRunBindings plan bindings := by
  have hsorted : Sorting.sortOn (·.shardIndex) (Sorting.sortOn (·.shardIndex) bindings) =
      Sorting.sortOn (·.shardIndex) bindings :=
    Sorting.sortOn_eq_self (Sorting.pairwise_sortOn _ _)
  rw [Fields.postInit, invalidIf_eq_ok (u := ()) |>.mpr (not_not.mpr hsorted.symm), ok_bind]
  exact validateRunBindings_of_perm (Sorting.sortOn_perm _ _)

theorem BoundShardPlan.create_of_perm (h : bindings.Perm bindings') (plan : ShardPlan) :
    create plan bindings = create plan bindings' := by
  cases hvalid : validateRunBindings plan bindings with
  | error e =>
    have hvalid' : validateRunBindings plan bindings' = .error e :=
      (validateRunBindings_of_perm h).symm.trans hvalid
    rw [create, create, new, construct_of_error ((postInit_sorted plan bindings).trans hvalid),
      construct_of_error ((postInit_sorted plan bindings').trans hvalid')]
  | ok _ =>
    -- accepted bindings have the distinct indices of the shards
    have hnodup : (bindings.map (·.shardIndex)).Nodup := by
      simp only [validateRunBindings, then_eq_ok,
        requireExactCover_eq_ok plan.shardIndices_nodup] at hvalid
      exact hvalid.2.nodup_iff.mpr plan.shardIndices_nodup
    rw [create, create, Sorting.sortOn_eq_of_perm h hnodup]

end

section
variable {budget budget' : ShardPlanningBudget} {fields : ShardPlanningBudget.Fields}
  {profiles profiles' : List ResourceProfileSpec}

/-- Budgets that differ in the order of their profiles only. -/
structure ShardPlanningBudget.Reordered (budget budget' : ShardPlanningBudget) : Prop where
  target : budget.targetShardDurationMs = budget'.targetShardDurationMs
  minShards : budget.minShards = budget'.minShards
  maxShards : budget.maxShards = budget'.maxShards
  capacity : budget.hostCapacity = budget'.hostCapacity
  profiles : budget.profiles.Perm budget'.profiles

namespace ShardPlanningBudget.Reordered
variable (h : budget.Reordered budget')
include h

theorem profile_eq (profileId : String) : budget.profile profileId = budget'.profile profileId := by
  have hfound : ∀ b : ShardPlanningBudget, ∀ p,
      b.profiles.find? (·.profileId = profileId) = some p ↔
        p ∈ b.profiles ∧ p.profileId = profileId :=
    fun b p => need_eq_ok.symm.trans profile_eq_ok
  have hsame : budget.profiles.find? (·.profileId = profileId) =
      budget'.profiles.find? (·.profileId = profileId) := by
    apply Option.ext
    intro p
    rw [hfound, hfound, h.profiles.mem_iff]
  rw [profile, profile, hsame]

theorem planShardCount_eq (total : ℤ) (profileId : String) :
    planShardCountUnderBudget total profileId budget =
      planShardCountUnderBudget total profileId budget' := by
  simp only [planShardCountUnderBudget, h.profile_eq, h.target, h.minShards, h.maxShards,
    h.capacity]

theorem planGroup_eq (manifest : CaseManifest) (profileId : String) (indices : List ℤ)
    (offset : ℤ) :
    planGroup manifest (some budget) profileId indices offset =
      planGroup manifest (some budget') profileId indices offset := by
  simp only [planGroup, allowedShardCountForProfile, h.planShardCount_eq]

theorem planGroups_eq (manifest : CaseManifest) (groups : List (String × List ℤ))
    (shards : List PlannedShard) :
    planGroups manifest (some budget) shards groups =
      planGroups manifest (some budget') shards groups := by
  induction groups generalizing shards with
  | nil => rfl
  | cons group groups ih => simp only [planGroups, h.planGroup_eq, ih]

theorem planMultiShard_eq (planId : Str) (manifest : CaseManifest) (algorithmVersion : String) :
    planMultiShard planId manifest algorithmVersion (some budget) =
      planMultiShard planId manifest algorithmVersion (some budget') := by
  rw [planMultiShard, planMultiShard, h.planGroups_eq]

end ShardPlanningBudget.Reordered

theorem ShardPlanningBudget.postInit_of_perm (h : profiles.Perm profiles')
    (fields : ShardPlanningBudget.Fields) :
    Fields.postInit { fields with profiles } =
      Fields.postInit { fields with profiles := profiles' } := by
  have hnil : profiles = [] ↔ profiles' = [] := by
    rw [← List.length_eq_zero_iff, h.length_eq, List.length_eq_zero_iff]
  simp only [Fields.postInit, hnil, (h.map (·.profileId)).nodup_iff]

/-- Both budgets fail with one error, or both are built and plan every manifest alike. -/
theorem ShardPlanningBudget.new_of_perm (h : profiles.Perm profiles')
    (fields : ShardPlanningBudget.Fields) :
    (∃ e, new { fields with profiles } = .error e ∧
      new { fields with profiles := profiles' } = .error e) ∨
    ∃ budget budget', new { fields with profiles } = .ok budget ∧
      new { fields with profiles := profiles' } = .ok budget' ∧ budget.Reordered budget' := by
  cases hvalid : Fields.postInit { fields with profiles } with
  | error e =>
    have hvalid' := (postInit_of_perm h fields).symm.trans hvalid
    exact Or.inl ⟨e, construct_of_error hvalid, construct_of_error hvalid'⟩
  | ok _ =>
    have hvalid' := (postInit_of_perm h fields).symm.trans hvalid
    exact Or.inr ⟨_, _, construct_of_ok hvalid, construct_of_ok hvalid', rfl, rfl, rfl, rfl, h⟩

end

/-- Whatever the order of the items, profiles, shards and bindings, what is built of them and what
is planned, and whether it is, stays the same. -/
theorem plans_ignore_order {items items' : List ManifestItem}
    {profiles profiles' : List ResourceProfileSpec} {shards shards' : List PlannedShard}
    {bindings bindings' : List RunBinding} (hitems : items.Perm items')
    (hprofiles : profiles.Perm profiles') (hshards : shards.Perm shards')
    (hbindings : bindings.Perm bindings') :
    (∀ manifestId batchId inputs, CaseManifest.create manifestId batchId inputs items =
      CaseManifest.create manifestId batchId inputs items') ∧
    (∀ fields : ShardPlanningBudget.Fields,
      (∃ e, ShardPlanningBudget.new { fields with profiles } = .error e ∧
        ShardPlanningBudget.new { fields with profiles := profiles' } = .error e) ∨
      ∃ budget budget', ShardPlanningBudget.new { fields with profiles } = .ok budget ∧
        ShardPlanningBudget.new { fields with profiles := profiles' } = .ok budget' ∧
        ∀ planId manifest algorithmVersion,
          planMultiShard planId manifest algorithmVersion (some budget) =
            planMultiShard planId manifest algorithmVersion (some budget')) ∧
    (∀ manifestId batchId inputs (fields : ShardPlanningBudget.Fields) planId algorithmVersion, (do
        let manifest ← CaseManifest.create manifestId batchId inputs items
        let budget ← ShardPlanningBudget.new { fields with profiles }
        planMultiShard planId manifest algorithmVersion (some budget)) = do
        let manifest ← CaseManifest.create manifestId batchId inputs items'
        let budget ← ShardPlanningBudget.new { fields with profiles := profiles' }
        planMultiShard planId manifest algorithmVersion (some budget)) ∧
    (∀ planId batchId manifest algorithmVersion,
      ShardPlan.create planId batchId manifest algorithmVersion shards =
        ShardPlan.create planId batchId manifest algorithmVersion shards') ∧
    ∀ plan, BoundShardPlan.create plan bindings = BoundShardPlan.create plan bindings' := by
  have hmanifest := CaseManifest.create_of_perm hitems
  have hbudget := ShardPlanningBudget.new_of_perm hprofiles
  refine ⟨hmanifest, ?_, ?_, ShardPlan.create_of_perm hshards,
    BoundShardPlan.create_of_perm hbindings⟩
  · intro fields
    rcases hbudget fields with herror | ⟨budget, budget', hb, hb', hsame⟩
    · exact Or.inl herror
    · exact Or.inr ⟨budget, budget', hb, hb', hsame.planMultiShard_eq⟩
  · intro manifestId batchId inputs fields planId algorithmVersion
    rw [hmanifest]
    refine congrArg _ (funext fun manifest => ?_)
    rcases hbudget fields with ⟨e, he, he'⟩ | ⟨budget, budget', hb, hb', hsame⟩
    · rw [he, he', error_bind]
    · rw [hb, hb', ok_bind, ok_bind, hsame.planMultiShard_eq]

namespace IdleGroups

theorem large_accepted : ResourceProfileSpec.Fields.postInit
    ⟨"profile-2", "large", 1, "pytest", unitVector, hostVector, 1, "security-1"⟩ = .ok () := by
  rfl

def largeProfile : ResourceProfileSpec := ⟨_, large_accepted⟩

def noRequirements : ShardRequirements := ⟨⟨[], [], [], []⟩, rfl⟩

def firstShard : PlannedShard := ⟨⟨0, [0], "profile-1", 0, noRequirements, []⟩, rfl⟩

def secondShard : PlannedShard := ⟨⟨1, [1], "profile-1", 0, noRequirements, []⟩, rfl⟩

def firstBinding : RunBinding := ⟨⟨"run-1", 0⟩, rfl⟩

def secondBinding : RunBinding := ⟨⟨"run-2", 1⟩, rfl⟩

theorem manifest_created :
    CaseManifest.create "manifest-1" "batch-1" inputs [firstItem, secondItem] = .ok manifest := by
  have hsorted : Sorting.sortOn (·.itemIndex) [firstItem, secondItem] = [firstItem, secondItem] :=
    Sorting.sortOn_eq_self (by decide)
  have hdigest : canonicalDigest "qep.case-manifest.v1"
      (manifestPayload inputs [firstItem, secondItem]) =
        .ok (contentDigest "qep.case-manifest.v1" content) :=
    canonicalDigest_eq_ok.mpr ⟨content_valid, rfl⟩
  rw [CaseManifest.create, hsorted, items_accepted, ok_bind, hdigest, ok_bind]
  exact construct_of_ok fields_accepted

end IdleGroups

theorem swapped_plan_same :
    CaseManifest.create "manifest-1" "batch-1" IdleGroups.inputs
      [IdleGroups.secondItem, IdleGroups.firstItem] = .ok IdleGroups.manifest ∧
    ShardPlan.create "plan-1" "batch-1" IdleGroups.manifest multiShardAlgorithmVersion
      [IdleGroups.secondShard, IdleGroups.firstShard] =
    ShardPlan.create "plan-1" "batch-1" IdleGroups.manifest multiShardAlgorithmVersion
      [IdleGroups.firstShard, IdleGroups.secondShard] := by
  have hsame := plans_ignore_order (.swap IdleGroups.firstItem IdleGroups.secondItem [])
    (.swap IdleGroups.profile IdleGroups.largeProfile [])
    (.swap IdleGroups.firstShard IdleGroups.secondShard [])
    (.swap IdleGroups.firstBinding IdleGroups.secondBinding [])
  constructor
  · rw [hsame.1]
    exact IdleGroups.manifest_created
  · exact hsame.2.2.2.1 _ _ _ _

end QaRunner
