import QaRunner.Domain.MultiShardPlan

/-! Admission of a set of shards under the budget of a host, and its agreement with planning. -/
namespace QaRunner
open Guarded

namespace ResourceVector

def Fields.plus (v w : ResourceVector.Fields) : ResourceVector.Fields where
  cpuMillis := v.cpuMillis + w.cpuMillis
  memoryBytes := v.memoryBytes + w.memoryBytes
  pidSlots := v.pidSlots + w.pidSlots
  ephemeralStorageBytes := v.ephemeralStorageBytes + w.ephemeralStorageBytes
  browserSlots := v.browserSlots + w.browserSlots

def added (v other : ResourceVector) : Result ResourceVector := new (v.plus other.toFields)

theorem zero_accepted : Fields.postInit ⟨0, 0, 0, 0, 0⟩ = .ok () := by decide

def zero : ResourceVector := ⟨_, zero_accepted⟩

end ResourceVector

/-- Add up what the shards of the listed profiles reserve. -/
def totalReservation (budget : ShardPlanningBudget) (total : ResourceVector) :
    List String → Result ResourceVector
  | [] => .ok total
  | profileId :: rest => do
    let profile ← budget.profile profileId
    let reservation ← profile.concurrentReservation
    let sum ← total.added reservation
    totalReservation budget sum rest

/-- Fail-closed concurrent admission of a proposed set of shards: all of them or none. -/
def admitConcurrentShards (shardProfileIds : List String) (budget : ShardPlanningBudget) :
    Result ShardBudgetDecision := do
  invalidIf (shardProfileIds = []) "shard_planning_budget" "shard_profile_ids" "empty"
  invalidIf (∃ profileId ∈ shardProfileIds, isBlank profileId = true) "shard_planning_budget"
    "shard_profile_ids" "invalid_entry"
  let total ← totalReservation budget .zero shardProfileIds
  if total.fitsWithin budget.hostCapacity then
    ShardBudgetDecision.new {
      kind := .admitted
      desiredShardCount := shardProfileIds.length
      allowedShardCount := shardProfileIds.length
      limitingDimension := none
      reason := none }
  else
    ShardBudgetDecision.new {
      kind := .infeasible
      desiredShardCount := shardProfileIds.length
      allowedShardCount := 0
      limitingDimension :=
        (total.firstExceedingDimension budget.hostCapacity).map ResourceDimension.name
      reason := some "oversell" }

namespace ShardPlanningBudget

/-- What a shard of a profile reserves in a dimension. -/
def reserved (b : ShardPlanningBudget) (d : ResourceDimension) (profileId : String) : ℤ :=
  match b.profiles.find? (·.profileId = profileId) with
  | some p => p.requests.get d * p.internalWorkers
  | none => 0

/-- Every one of the profiles is in the budget. -/
def Knows (b : ShardPlanningBudget) (profileIds : List String) : Prop :=
  ∀ profileId ∈ profileIds, ∃ p ∈ b.profiles, p.profileId = profileId

/-- The shards of the listed profiles fit the host together. -/
def Holds (b : ShardPlanningBudget) (profileIds : List String) : Prop :=
  ∀ d, (profileIds.map (b.reserved d)).sum ≤ b.hostCapacity.get d

end ShardPlanningBudget

/-- So many reservations fit a capacity together. -/
def ResourceVector.CopiesFit (cost capacity : ResourceVector) (n : ℤ) : Prop :=
  ∀ d, cost.get d * n ≤ capacity.get d

/-- The decision is the clamped quotient, cut down to what fits, with a dimension that is short. -/
structure ShardBudgetDecision.Exact (decision : ShardBudgetDecision) (b : ShardPlanningBudget)
    (cost : ResourceVector) (total : ℤ) : Prop where
  desired : decision.desiredShardCount =
    max b.minShards (min b.maxShards ⌈(total / b.targetShardDurationMs : ℚ)⌉)
  infeasible : decision.kind = .infeasible ↔ ¬ cost.fitsWithin b.hostCapacity
  allowed : decision.kind ≠ .infeasible → IsGreatest
    {n | n ≤ decision.desiredShardCount ∧ cost.CopiesFit b.hostCapacity n}
    decision.allowedShardCount
  clamped : decision.kind = .clamped → ∃ d : ResourceDimension,
    decision.limitingDimension = some d.name ∧
      b.hostCapacity.get d < cost.get d * (decision.allowedShardCount + 1)

/-- Planning for a profile is exact, and admission agrees with it on copies of the profile. -/
structure ShardPlanningBudget.Agrees (b : ShardPlanningBudget) (p : ResourceProfileSpec)
    (total : ℤ) : Prop where
  plan : ∃ cost decision, p.concurrentReservation = .ok cost ∧
    (∀ d, cost.get d = p.requests.get d * p.internalWorkers) ∧
    planShardCountUnderBudget total p.profileId b = .ok decision ∧ decision.Exact b cost total ∧
    ∀ n : ℕ, 0 < n → ∃ admission,
      admitConcurrentShards (List.replicate n p.profileId) b = .ok admission ∧
        (admission.kind = .admitted ↔ cost.CopiesFit b.hostCapacity n)
  order : ∀ profileIds others, profileIds.Perm others →
    admitConcurrentShards profileIds b = admitConcurrentShards others b
  removal : ∀ profileIds others admission, others.Sublist profileIds → others ≠ [] →
    admitConcurrentShards profileIds b = .ok admission → admission.kind = .admitted →
    ∃ admission', admitConcurrentShards others b = .ok admission' ∧ admission'.kind = .admitted

variable {b : ShardPlanningBudget} {p : ResourceProfileSpec} {v w total : ResourceVector}
  {profileIds others : List String} {profileId : String} {cost : ResourceVector}

namespace ResourceVector

theorem get_plus (v w : ResourceVector.Fields) (d : ResourceDimension) :
    (v.plus w).get d = v.get d + w.get d := by
  cases d <;> rfl

theorem added_ok (v w : ResourceVector) : ∃ sum, v.added w = .ok sum ∧
    ∀ d, sum.get d = v.get d + w.get d := by
  have haccepted : (v.plus w.toFields).postInit = .ok () := by
    simp only [Fields.postInit, each_eq_ok, invalidIf_eq_ok, not_lt, get_plus]
    intro d _
    exact Int.add_nonneg (v.get_nonneg d) (w.get_nonneg d)
  exact ⟨⟨_, haccepted⟩, construct_of_ok haccepted, get_plus v.toFields w.toFields⟩

theorem get_zero (d : ResourceDimension) : zero.get d = 0 := by
  cases d <;> rfl

/-- Vectors that agree in every dimension are equal. -/
theorem eq_of_get (h : ∀ d, v.get d = w.get d) : v = w := by
  obtain ⟨⟨cpu, memory, pids, storage, browsers⟩, hv⟩ := v
  obtain ⟨⟨cpu', memory', pids', storage', browsers'⟩, hw⟩ := w
  obtain rfl : cpu = cpu' := h .cpuMillis
  obtain rfl : memory = memory' := h .memoryBytes
  obtain rfl : pids = pids' := h .pidSlots
  obtain rfl : storage = storage' := h .ephemeralStorageBytes
  obtain rfl : browsers = browsers' := h .browserSlots
  rfl

end ResourceVector

namespace ShardPlanningBudget

theorem reserved_eq (hp : p ∈ b.profiles) (d : ResourceDimension) :
    b.reserved d p.profileId = p.requests.get d * p.internalWorkers := by
  have h := profile_eq_ok.mpr ⟨hp, rfl⟩
  rw [profile, need_eq_ok] at h
  rw [reserved, h]

theorem reserved_nonneg (b : ShardPlanningBudget) (d : ResourceDimension) (profileId : String) :
    0 ≤ b.reserved d profileId := by
  rw [reserved]
  split
  · next p _ =>
    obtain ⟨cost, -, -, hget⟩ := p.concurrentReservation_ok
    rw [← hget d]
    exact cost.get_nonneg d
  · exact Int.le_refl 0

/-- The total of known profiles is the sum of what each reserves. -/
theorem totalReservation_ok (h : b.Knows profileIds) : ∃ sum,
    totalReservation b total profileIds = .ok sum ∧
      ∀ d, sum.get d = total.get d + (profileIds.map (b.reserved d)).sum := by
  induction profileIds generalizing total with
  | nil => exact ⟨total, rfl, fun d => (Int.add_zero _).symm⟩
  | cons profileId rest ih =>
    obtain ⟨⟨p, hp, rfl⟩, hrest⟩ := List.forall_mem_cons.mp h
    obtain ⟨cost, hcost, -, hget⟩ := p.concurrentReservation_ok
    obtain ⟨next, hnext, hadded⟩ := total.added_ok cost
    obtain ⟨sum, hsum, hsums⟩ := @ih next hrest
    refine ⟨sum, ?_, ?_⟩
    · rw [totalReservation, profile_eq_ok.mpr ⟨hp, rfl⟩, ok_bind, hcost, ok_bind, hnext, ok_bind,
        hsum]
    · intro d
      rw [hsums, hadded, hget, List.map_cons, List.sum_cons, reserved_eq hp, Int.add_assoc]

/-- An unknown profile fails the whole set, wherever it stands. -/
theorem totalReservation_unknown (h : ¬ b.Knows profileIds) :
    totalReservation b total profileIds = .error
      (.domainValidation "shard_planning_budget" "resource_profile_id" "unknown_profile") := by
  induction profileIds generalizing total with
  | nil => exact absurd (fun _ hmem => absurd hmem List.not_mem_nil) h
  | cons profileId rest ih =>
    rw [totalReservation]
    by_cases hknown : ∃ p ∈ b.profiles, p.profileId = profileId
    · obtain ⟨p, hp, rfl⟩ := hknown
      obtain ⟨cost, hcost, -, -⟩ := p.concurrentReservation_ok
      obtain ⟨next, hnext, -⟩ := total.added_ok cost
      have hrest : ¬ b.Knows rest := fun hrest =>
        h (List.forall_mem_cons.mpr ⟨⟨p, hp, rfl⟩, hrest⟩)
      rw [profile_eq_ok.mpr ⟨hp, rfl⟩, ok_bind, hcost, ok_bind, hnext, ok_bind, ih hrest]
    · have hnone : b.profiles.find? (·.profileId = profileId) = none := by
        rw [List.find?_eq_none]
        intro p hp hid
        exact hknown ⟨p, hp, of_decide_eq_true hid⟩
      rw [profile, hnone]
      rfl

theorem knows_perm (h : profileIds.Perm others) : b.Knows profileIds ↔ b.Knows others :=
  forall_congr' fun _ => imp_congr_left h.mem_iff

theorem Knows.sublist (h : b.Knows profileIds) (hsub : others.Sublist profileIds) :
    b.Knows others := fun profileId hmem => h profileId (hsub.subset hmem)

theorem Knows.not_blank (h : b.Knows profileIds) :
    ¬ ∃ profileId ∈ profileIds, isBlank profileId = true := by
  rintro ⟨profileId, hmem, hblank⟩
  obtain ⟨p, -, rfl⟩ := h profileId hmem
  have haccepted := p.accepted
  simp only [ResourceProfileSpec.Fields.postInit, then_eq_ok, each_eq_ok, List.forall_mem_cons,
    invalidIf_eq_ok] at haccepted
  exact haccepted.1.1 hblank

/-- A set of known profiles is admitted exactly when it fits the host together. -/
theorem admit_known (h : b.Knows profileIds) (hne : profileIds ≠ []) : ∃ admission,
    admitConcurrentShards profileIds b = .ok admission ∧
      (admission.kind = .admitted ↔ b.Holds profileIds) := by
  obtain ⟨sum, hsum, hsums⟩ := @totalReservation_ok b .zero profileIds h
  have hfits : sum.fitsWithin b.hostCapacity ↔ b.Holds profileIds := by
    apply forall_congr'
    intro d
    rw [imp_iff_right d.mem_all, hsums, ResourceVector.get_zero, Int.zero_add]
  have hempty : invalidIf (profileIds = []) "shard_planning_budget" "shard_profile_ids" "empty" =
      .ok () := invalidIf_eq_ok.mpr hne
  have hblank : invalidIf (∃ profileId ∈ profileIds, isBlank profileId = true)
      "shard_planning_budget" "shard_profile_ids" "invalid_entry" = .ok () :=
    invalidIf_eq_ok.mpr h.not_blank
  simp only [admitConcurrentShards, hempty, hblank, hsum, ok_bind]
  split
  · next hin =>
    refine ⟨_, construct_of_ok (ShardBudgetDecision.accepted_of ?_ ?_ ?_ ?_), ?_⟩
    · exact Int.natCast_nonneg _
    · exact Int.natCast_nonneg _
    · intro dimension hdimension
      cases hdimension
    · intro reason hreason
      cases hreason
    · exact ⟨fun _ => hfits.mp hin, fun _ => rfl⟩
  · next hout =>
    refine ⟨_, construct_of_ok (ShardBudgetDecision.accepted_of ?_ (Int.le_refl 0) ?_ ?_), ?_⟩
    · exact Int.natCast_nonneg _
    · intro dimension hdimension
      obtain ⟨d, -, rfl⟩ := Option.map_eq_some_iff.mp hdimension
      exact d.name_not_blank
    · rintro _ ⟨⟩
      decide
    · constructor
      · intro hkind
        cases hkind
      · intro hholds
        exact absurd (hfits.mpr hholds) hout

theorem knows_of_admit {admission : ShardBudgetDecision}
    (h : admitConcurrentShards profileIds b = .ok admission) : b.Knows profileIds := by
  by_contra hunknown
  simp only [admitConcurrentShards, totalReservation_unknown hunknown, bind_eq_ok] at h
  obtain ⟨-, -, -, -, total, htotal, -⟩ := h
  cases htotal

/-- The order of the set does not matter, neither to the decision nor to the failure. -/
theorem admit_perm (h : profileIds.Perm others) :
    admitConcurrentShards profileIds b = admitConcurrentShards others b := by
  have htotal : totalReservation b .zero profileIds = totalReservation b .zero others := by
    by_cases hknows : b.Knows profileIds
    · obtain ⟨sum, hsum, hsums⟩ := @totalReservation_ok b .zero profileIds hknows
      obtain ⟨sum', hsum', hsums'⟩ := @totalReservation_ok b .zero others ((knows_perm h).mp hknows)
      have heq : sum = sum' := by
        apply ResourceVector.eq_of_get
        intro d
        rw [hsums, hsums', (h.map (b.reserved d)).sum_eq]
      rw [hsum, hsum', heq]
    · have hunknown : ¬ b.Knows others := fun hothers => hknows ((knows_perm h).mpr hothers)
      rw [totalReservation_unknown hknows, totalReservation_unknown hunknown]
  have hempty : profileIds = [] ↔ others = [] := by
    rw [← List.length_eq_zero_iff, h.length_eq, List.length_eq_zero_iff]
  simp only [admitConcurrentShards, htotal, hempty, h.mem_iff, h.length_eq]

/-- Fewer shards fit where more do. -/
theorem Holds.sublist (h : b.Holds profileIds) (hsub : others.Sublist profileIds) :
    b.Holds others := by
  intro d
  refine le_trans ((hsub.map (b.reserved d)).sum_le_sum ?_) (h d)
  rw [List.forall_mem_map]
  intro profileId _
  exact b.reserved_nonneg d profileId

theorem holds_replicate {n : ℕ} (hp : p ∈ b.profiles)
    (hget : ∀ d, cost.get d = p.requests.get d * p.internalWorkers) :
    b.Holds (List.replicate n p.profileId) ↔ cost.CopiesFit b.hostCapacity n := by
  apply forall_congr'
  intro d
  rw [List.map_replicate, List.sum_replicate, reserved_eq hp, ← hget, nsmul_eq_mul, Int.mul_comm]

/-- The decision for a profile of the budget. -/
theorem plan_exact {total : ℤ} (hp : p ∈ b.profiles) (hcost : p.concurrentReservation = .ok cost)
    (hnonneg : 0 ≤ total) (hsafe : total ≤ 9007199254740991) : ∃ decision,
    planShardCountUnderBudget total p.profileId b = .ok decision ∧
      decision.Exact b cost total := by
  obtain ⟨-, hmin, -⟩ := b.counts_valid
  obtain ⟨cost', hcost', hzero, -⟩ := p.concurrentReservation_ok
  rw [hcost] at hcost'
  cases hcost'
  obtain ⟨room, short, hroom, hshort, hgreatest⟩ :=
    ResourceVector.maxConcurrentWithin_some b.hostCapacity hzero
  obtain ⟨decision, hdecision, hanswers⟩ :=
    planShardCountUnderBudget_answers hp hcost hroom hnonneg hsafe
  have hdesired := hanswers.desired
  refine ⟨decision, hdecision, hdesired, ?_, ?_, ?_⟩
  · rw [hanswers.infeasible, ← not_le, not_iff_not, ← hgreatest 1 Int.one_nonneg]
    apply forall_congr'
    intro d
    rw [Int.mul_one, imp_iff_right d.mem_all]
  · intro hkind
    rw [hanswers.allowed hkind, ← hdesired]
    have hsome : 1 ≤ room := not_lt.mp (mt hanswers.infeasible.mpr hkind)
    constructor
    · refine ⟨Int.min_le_left _ _, (hgreatest _ (by omega)).mpr (Int.min_le_right _ _)⟩
    · rintro n ⟨hle, hfits⟩
      by_cases hn : 0 ≤ n
      · exact le_min hle ((hgreatest n hn).mp hfits)
      · omega
  · intro hkind
    have hfeasible : decision.kind ≠ .infeasible := by
      rw [hkind]
      exact ShardBudgetDecisionKind.noConfusion
    have hadmitted : decision.kind ≠ .admitted := by
      rw [hkind]
      exact ShardBudgetDecisionKind.noConfusion
    have hsome : 1 ≤ room := not_lt.mp (mt hanswers.infeasible.mpr hfeasible)
    have hover := mt hanswers.admitted.mpr hadmitted
    refine ⟨short, hanswers.limiting hadmitted, ?_⟩
    have hallowed : decision.allowedShardCount = room := by
      rw [hanswers.allowed hfeasible]
      omega
    rw [hallowed]
    exact hshort

end ShardPlanningBudget

/-- Budget planning is exact and agrees with admission. -/
theorem budget_planning_agrees {total : ℤ} (hp : p ∈ b.profiles) (hnonneg : 0 ≤ total)
    (hsafe : total ≤ 9007199254740991) : b.Agrees p total := by
  obtain ⟨cost, hcost, -, hget⟩ := p.concurrentReservation_ok
  constructor
  · obtain ⟨decision, hdecision, hexact⟩ :=
      ShardPlanningBudget.plan_exact hp hcost hnonneg hsafe
    refine ⟨cost, decision, hcost, hget, hdecision, hexact, ?_⟩
    intro n hn
    rw [← ShardPlanningBudget.holds_replicate hp hget]
    apply ShardPlanningBudget.admit_known
    · intro profileId hmem
      exact ⟨p, hp, (List.eq_of_mem_replicate hmem).symm⟩
    · rw [← List.length_pos_iff, List.length_replicate]
      exact hn
  · intro profileIds others hperm
    exact ShardPlanningBudget.admit_perm hperm
  · intro profileIds others admission hsub hne hadmission hkind
    have hknows := ShardPlanningBudget.knows_of_admit hadmission
    have hfull : profileIds ≠ [] := by
      rintro rfl
      exact hne (List.sublist_nil.mp hsub)
    obtain ⟨admission', hadmission', hiff⟩ := ShardPlanningBudget.admit_known hknows hfull
    rw [hadmission] at hadmission'
    cases hadmission'
    obtain ⟨smaller, hsmaller, hiff'⟩ :=
      ShardPlanningBudget.admit_known (hknows.sublist hsub) hne
    exact ⟨smaller, hsmaller, hiff'.mpr ((hiff.mp hkind).sublist hsub)⟩

theorem budget_planning_agrees_pair : IdleGroups.pairBudget.Agrees IdleGroups.profile 2500 :=
  budget_planning_agrees (List.mem_singleton.mpr rfl) (by decide) (by decide)

end QaRunner
