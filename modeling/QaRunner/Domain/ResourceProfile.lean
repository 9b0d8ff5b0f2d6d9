import QaRunner.Domain.Digest
import QaRunner.Lib.Binary64
import QaRunner.Lib.Keyed
import Mathlib.Data.List.MinMax

/-! Resource profiles, the planning budget of a host, and how many shards of a profile it admits. -/
namespace QaRunner
open Guarded

/-- The quantities a reservation takes of a host, in their reporting order. -/
inductive ResourceDimension where
  | cpuMillis
  | memoryBytes
  | pidSlots
  | ephemeralStorageBytes
  | browserSlots
  deriving DecidableEq, Repr

namespace ResourceDimension

def all : List ResourceDimension :=
  [.cpuMillis, .memoryBytes, .pidSlots, .ephemeralStorageBytes, .browserSlots]

def name : ResourceDimension → String
  | .cpuMillis => "cpu_millis"
  | .memoryBytes => "memory_bytes"
  | .pidSlots => "pid_slots"
  | .ephemeralStorageBytes => "ephemeral_storage_bytes"
  | .browserSlots => "browser_slots"

@[simp] theorem mem_all (d : ResourceDimension) : d ∈ all := by cases d <;> decide

theorem name_not_blank (d : ResourceDimension) : isBlank d.name = false := by cases d <;> decide

end ResourceDimension

structure ResourceVector.Fields where
  cpuMillis : ℤ
  memoryBytes : ℤ
  pidSlots : ℤ
  ephemeralStorageBytes : ℤ
  browserSlots : ℤ
  deriving DecidableEq

def ResourceVector.Fields.get (v : ResourceVector.Fields) : ResourceDimension → ℤ
  | .cpuMillis => v.cpuMillis
  | .memoryBytes => v.memoryBytes
  | .pidSlots => v.pidSlots
  | .ephemeralStorageBytes => v.ephemeralStorageBytes
  | .browserSlots => v.browserSlots

def ResourceVector.Fields.postInit (v : ResourceVector.Fields) : Result Unit :=
  each ResourceDimension.all fun d =>
    invalidIf (v.get d < 0) "resource_vector" d.name "not_nonnegative"

/-- Units of each dimension, for requests, limits and capacities. -/
structure ResourceVector extends ResourceVector.Fields where
  accepted : toFields.postInit = .ok ()
  deriving DecidableEq

namespace ResourceVector

def new : ResourceVector.Fields → Result ResourceVector :=
  construct Fields.postInit ResourceVector.mk

def Fields.scaled (v : ResourceVector.Fields) (factor : ℤ) : ResourceVector.Fields where
  cpuMillis := v.cpuMillis * factor
  memoryBytes := v.memoryBytes * factor
  pidSlots := v.pidSlots * factor
  ephemeralStorageBytes := v.ephemeralStorageBytes * factor
  browserSlots := v.browserSlots * factor

/-- Amplify a reservation by a positive factor. -/
def scaledBy (v : ResourceVector) (factor : ℤ) : Result ResourceVector := do
  invalidIf (factor < 1) "resource_vector" "factor" "not_positive"
  new (v.scaled factor)

def isZero (v : ResourceVector) : Prop := ∀ d ∈ ResourceDimension.all, v.get d = 0

instance (v : ResourceVector) : Decidable v.isZero := List.decidableBAll _ _

def fitsWithin (v capacity : ResourceVector) : Prop :=
  ∀ d ∈ ResourceDimension.all, v.get d ≤ capacity.get d

instance (v capacity : ResourceVector) : Decidable (v.fitsWithin capacity) :=
  List.decidableBAll _ _

/-- The first dimension that exceeds the capacity. -/
def firstExceedingDimension (v capacity : ResourceVector) : Option ResourceDimension :=
  ResourceDimension.all.find? fun d => capacity.get d < v.get d

/-- How often a vector fits the capacity and the first dimension that says so; a vector without
cost has no such dimension. -/
def maxConcurrentWithin (v capacity : ResourceVector) : Option (ℤ × ResourceDimension) :=
  @List.argmin _ ℤ Int.instLinearOrder.toPreorder Int.decLt Prod.fst
    ((ResourceDimension.all.filter (0 < v.get ·)).map fun d => (capacity.get d / v.get d, d))

end ResourceVector

structure ResourceProfileSpec.Fields where
  profileId : String
  name : String
  profileVersion : ℤ
  framework : String
  requests : ResourceVector
  limits : ResourceVector
  internalWorkers : ℤ
  securityProfileId : String
  deriving DecidableEq

def ResourceProfileSpec.Fields.postInit (p : ResourceProfileSpec.Fields) : Result Unit := do
  each [("profile_id", p.profileId), ("name", p.name), ("framework", p.framework),
    ("security_profile_id", p.securityProfileId)] fun f =>
    invalidIf (isBlank f.2) "resource_profile_spec" f.1 "invalid"
  invalidIf (p.profileVersion < 1) "resource_profile_spec" "profile_version" "not_positive"
  invalidIf (p.internalWorkers < 1) "resource_profile_spec" "internal_workers" "not_positive"
  invalidIf p.requests.isZero "resource_profile_spec" "requests" "zero_request_oversell"
  whenSome (p.requests.firstExceedingDimension p.limits) fun exceeding =>
    .error (.domainValidation "resource_profile_spec" "limits"
      ("below_requests:" ++ exceeding.name))

/-- Approved vocabulary of a profile: what it reserves, its ceiling and its internal workers. -/
structure ResourceProfileSpec extends ResourceProfileSpec.Fields where
  accepted : toFields.postInit = .ok ()
  deriving DecidableEq

/-- What one shard reserves: the requests, once for each internal worker. -/
def ResourceProfileSpec.concurrentReservation (p : ResourceProfileSpec) : Result ResourceVector :=
  p.requests.scaledBy p.internalWorkers

structure ShardPlanningBudget.Fields where
  targetShardDurationMs : ℤ
  minShards : ℤ
  maxShards : ℤ
  hostCapacity : ResourceVector
  profiles : List ResourceProfileSpec
  deriving DecidableEq

def ShardPlanningBudget.Fields.postInit (b : ShardPlanningBudget.Fields) : Result Unit := do
  invalidIf (b.targetShardDurationMs < 1) "shard_planning_budget" "target_shard_duration_ms"
    "not_positive"
  invalidIf (b.minShards < 1) "shard_planning_budget" "min_shards" "not_positive"
  invalidIf (b.maxShards < b.minShards) "shard_planning_budget" "max_shards" "below_min_shards"
  invalidIf (b.profiles = []) "shard_planning_budget" "profiles" "empty"
  invalidIf (¬ (b.profiles.map (·.profileId)).Nodup) "shard_planning_budget" "profiles"
    "duplicate_profile_id"

/-- Host budget and profiles shared by the planning of shard counts. -/
structure ShardPlanningBudget extends ShardPlanningBudget.Fields where
  accepted : toFields.postInit = .ok ()
  deriving DecidableEq

def ShardPlanningBudget.profile (b : ShardPlanningBudget) (profileId : String) :
    Result ResourceProfileSpec :=
  need (b.profiles.find? (·.profileId = profileId))
    (.domainValidation "shard_planning_budget" "resource_profile_id" "unknown_profile")

/-- Outcome of planning against a host budget. -/
inductive ShardBudgetDecisionKind where
  | admitted
  | clamped
  | infeasible
  deriving DecidableEq, Repr

structure ShardBudgetDecision.Fields where
  kind : ShardBudgetDecisionKind
  desiredShardCount : ℤ
  allowedShardCount : ℤ
  limitingDimension : Option String
  reason : Option String
  deriving DecidableEq

def ShardBudgetDecision.Fields.postInit (d : ShardBudgetDecision.Fields) : Result Unit := do
  each [("desired_shard_count", d.desiredShardCount),
    ("allowed_shard_count", d.allowedShardCount)] fun f =>
    invalidIf (f.2 < 0) "shard_budget_decision" f.1 "not_nonnegative"
  whenSome d.limitingDimension fun dimension =>
    invalidIf (isBlank dimension) "shard_budget_decision" "limiting_dimension" "invalid"
  whenSome d.reason fun reason =>
    invalidIf (isBlank reason) "shard_budget_decision" "reason" "invalid"

structure ShardBudgetDecision extends ShardBudgetDecision.Fields where
  accepted : toFields.postInit = .ok ()
  deriving DecidableEq

def ShardBudgetDecision.new : ShardBudgetDecision.Fields → Result ShardBudgetDecision :=
  construct Fields.postInit ShardBudgetDecision.mk

/-- As many shards as the target duration asks for, between the least and the most allowed. -/
def desiredShardCount (totalEstimatedDurationMs targetShardDurationMs minShards maxShards : ℤ) :
    Result ℤ := do
  invalidIf (totalEstimatedDurationMs < 0) "shard_planning_budget" "total_estimated_duration_ms"
    "not_nonnegative"
  if totalEstimatedDurationMs = 0 then
    return max minShards (min maxShards minShards)
  else
    let quotient ← need (Binary64.trueDiv totalEstimatedDurationMs targetShardDurationMs)
      (.crash .overflowError)
    return max minShards (min maxShards ⌈quotient⌉)

/-- Clamp the desired shard count by the capacity of the host. -/
def planShardCountUnderBudget (totalEstimatedDurationMs : ℤ) (resourceProfileId : String)
    (budget : ShardPlanningBudget) : Result ShardBudgetDecision := do
  let profile ← budget.profile resourceProfileId
  let desired ← desiredShardCount totalEstimatedDurationMs budget.targetShardDurationMs
    budget.minShards budget.maxShards
  let unitCost ← profile.concurrentReservation
  -- a cost of zero is handled although no accepted profile has one
  let (maxByBudget, limiting) :=
    (unitCost.maxConcurrentWithin budget.hostCapacity).getD (0, .cpuMillis)
  if maxByBudget < 1 then
    ShardBudgetDecision.new {
      kind := .infeasible
      desiredShardCount := desired
      allowedShardCount := 0
      limitingDimension := some limiting.name
      reason := some "oversell" }
  else if min desired maxByBudget < desired then
    ShardBudgetDecision.new {
      kind := .clamped
      desiredShardCount := desired
      allowedShardCount := min desired maxByBudget
      limitingDimension := some limiting.name
      reason := some "host_budget" }
  else
    ShardBudgetDecision.new {
      kind := .admitted
      desiredShardCount := desired
      allowedShardCount := min desired maxByBudget
      limitingDimension := none
      reason := none }

namespace ResourceVector
variable {v w capacity : ResourceVector}

theorem get_nonneg (v : ResourceVector) (d : ResourceDimension) : 0 ≤ v.get d := by
  have h := v.accepted
  simp only [Fields.postInit, each_eq_ok, invalidIf_eq_ok, not_lt] at h
  exact h d d.mem_all

theorem get_scaled (v : ResourceVector.Fields) (factor : ℤ) (d : ResourceDimension) :
    (v.scaled factor).get d = v.get d * factor := by
  cases d <;> rfl

theorem scaledBy_ok {factor : ℤ} (h : 1 ≤ factor) :
    ∃ w, v.scaledBy factor = .ok w ∧ ∀ d, w.get d = v.get d * factor := by
  have haccepted : (v.scaled factor).postInit = .ok () := by
    simp only [Fields.postInit, each_eq_ok, invalidIf_eq_ok, not_lt, get_scaled]
    intro d _
    exact Int.mul_nonneg (v.get_nonneg d) (by omega)
  refine ⟨⟨v.scaled factor, haccepted⟩, ?_, get_scaled v.toFields factor⟩
  simp only [scaledBy, then_eq_ok, invalidIf_eq_ok, not_lt]
  exact ⟨h, construct_of_ok haccepted⟩

/-- The count is the greatest number of copies that fit the capacity together, and the dimension has
no room for one more. -/
theorem maxConcurrentWithin_some (capacity : ResourceVector) (h : ¬ v.isZero) :
    ∃ n d, v.maxConcurrentWithin capacity = some (n, d) ∧
      capacity.get d < v.get d * (n + 1) ∧
      ∀ k, 0 ≤ k → ((∀ d, v.get d * k ≤ capacity.get d) ↔ k ≤ n) := by
  have hcost : ∃ d, 0 < v.get d := by
    by_contra hnone
    apply h
    intro d _
    have hle := v.get_nonneg d
    have hnot : ¬ 0 < v.get d := fun hpos => hnone ⟨d, hpos⟩
    omega
  set limits := (ResourceDimension.all.filter (0 < v.get ·)).map fun d =>
    (capacity.get d / v.get d, d) with hlimits
  have hmem : ∀ d, 0 < v.get d → (capacity.get d / v.get d, d) ∈ limits := by
    intro d hd
    exact List.mem_map_of_mem (List.mem_filter.mpr ⟨d.mem_all, decide_eq_true hd⟩)
  rcases hleast : List.argmin Prod.fst limits with _ | ⟨n, least⟩
  · obtain ⟨d, hd⟩ := hcost
    have hin := hmem d hd
    rw [List.argmin_eq_none.mp hleast] at hin
    cases hin
  · have hin := List.argmin_mem hleast
    rw [hlimits, List.mem_map] at hin
    obtain ⟨d, hd, heq⟩ := hin
    have hpositive : 0 < v.get d := of_decide_eq_true (List.mem_filter.mp hd).2
    obtain ⟨rfl, rfl⟩ := Prod.mk.injEq _ _ _ _ ▸ heq
    refine ⟨_, d, hleast, ?_, ?_⟩
    · rw [Int.mul_comm]
      exact Int.lt_ediv_add_one_mul_self _ hpositive
    · intro k hk
      constructor
      · intro hfits
        rw [Int.le_ediv_iff_mul_le hpositive, Int.mul_comm]
        exact hfits d
      · intro hle other
        have hnonneg := v.get_nonneg other
        by_cases hother : 0 < v.get other
        · have hbound := List.le_of_mem_argmin (hmem other hother) hleast
          rw [Int.mul_comm, ← Int.le_ediv_iff_mul_le hother]
          exact hle.trans hbound
        · have hzero : v.get other = 0 := by omega
          rw [hzero, Int.zero_mul]
          exact capacity.get_nonneg other

end ResourceVector

namespace ResourceProfileSpec
variable (p : ResourceProfileSpec)

theorem concurrentReservation_ok :
    ∃ cost, p.concurrentReservation = .ok cost ∧ ¬ cost.isZero ∧
      ∀ d, cost.get d = p.requests.get d * p.internalWorkers := by
  have h := p.accepted
  simp only [Fields.postInit, then_eq_ok, invalidIf_eq_ok, not_lt] at h
  obtain ⟨-, -, hworkers, hrequests, -⟩ := h
  obtain ⟨cost, hcost, hget⟩ := ResourceVector.scaledBy_ok (v := p.requests) hworkers
  refine ⟨cost, hcost, ?_, hget⟩
  intro hzero
  apply hrequests
  intro d hd
  have hproduct := hzero d hd
  rw [hget, Int.mul_eq_zero] at hproduct
  rcases hproduct with hd | hworkers'
  · exact hd
  · omega

end ResourceProfileSpec

namespace ShardPlanningBudget
variable {b : ShardPlanningBudget} {p : ResourceProfileSpec}

theorem profile_eq_ok {profileId : String} :
    b.profile profileId = .ok p ↔ p ∈ b.profiles ∧ p.profileId = profileId := by
  have h := b.accepted
  simp only [Fields.postInit, then_eq_ok, invalidIf_eq_ok, not_not] at h
  rw [profile, need_eq_ok]
  constructor
  · exact Keyed.find_some
  · rintro ⟨hp, rfl⟩
    exact Keyed.find_of_mem h.2.2.2.2 hp

theorem counts_valid (b : ShardPlanningBudget) :
    0 < b.targetShardDurationMs ∧ 1 ≤ b.minShards ∧ b.minShards ≤ b.maxShards := by
  have h := b.accepted
  simp only [Fields.postInit, then_eq_ok, invalidIf_eq_ok, not_lt] at h
  exact ⟨h.1, h.2.1, h.2.2.1⟩

end ShardPlanningBudget

/-- In the safe range the desired count is the exact quotient rounded up, within the bounds of the
budget. -/
theorem desiredShardCount_eq {total target minShards maxShards : ℤ} (hnonneg : 0 ≤ total)
    (hsafe : total ≤ 9007199254740991) (htarget : 0 < target) (hmin : 1 ≤ minShards) :
    desiredShardCount total target minShards maxShards =
      .ok (max minShards (min maxShards ⌈(total / target : ℚ)⌉)) := by
  have hcheck : invalidIf (total < 0) "shard_planning_budget" "total_estimated_duration_ms"
      "not_nonnegative" = .ok () := invalidIf_eq_ok.mpr (not_lt.mpr hnonneg)
  by_cases hzero : total = 0
  · have hceil : ⌈(total / target : ℚ)⌉ = 0 := by
      rw [hzero, Int.cast_zero, zero_div, Int.ceil_zero]
    simp only [desiredShardCount, hcheck, ok_bind, if_pos hzero, hceil]
    refine congrArg Except.ok ?_
    omega
  · have hpositive : 0 < total := by omega
    have hceil := Binary64.ceil_round hpositive hsafe htarget
    simp only [desiredShardCount, hcheck, ok_bind, if_neg hzero,
      Binary64.trueDiv_safe hpositive hsafe htarget, need]
    refine congrArg Except.ok ?_
    omega

theorem ShardBudgetDecision.accepted_of {d : ShardBudgetDecision.Fields}
    (hdesired : 0 ≤ d.desiredShardCount) (hallowed : 0 ≤ d.allowedShardCount)
    (hdimension : ∀ dimension, d.limitingDimension = some dimension → isBlank dimension = false)
    (hreason : ∀ reason, d.reason = some reason → isBlank reason = false) :
    d.postInit = .ok () := by
  simp only [Fields.postInit, then_eq_ok, each_eq_ok, whenSome_eq_ok, invalidIf_eq_ok,
    List.forall_mem_cons, Bool.not_eq_true, not_lt]
  exact ⟨⟨hdesired, hallowed, fun f hf => absurd hf List.not_mem_nil⟩, hdimension, hreason⟩

/-- What is decided when a host has room for so many shards at once and is short in a dimension. -/
structure ShardBudgetDecision.Answers (d : ShardBudgetDecision) (count room : ℤ)
    (short : ResourceDimension) : Prop where
  desired : d.desiredShardCount = count
  infeasible : d.kind = .infeasible ↔ room < 1
  allowed : d.kind ≠ .infeasible → d.allowedShardCount = min count room
  none : d.kind = .infeasible → d.allowedShardCount = 0
  admitted : d.kind = .admitted ↔ 1 ≤ room ∧ count ≤ room
  limiting : d.kind ≠ .admitted → d.limitingDimension = some short.name

/-- For every profile of the budget and every duration in the safe range there is a decision. -/
theorem planShardCountUnderBudget_answers {total : ℤ} {budget : ShardPlanningBudget}
    {p : ResourceProfileSpec} {cost : ResourceVector} {room : ℤ} {short : ResourceDimension}
    (hp : p ∈ budget.profiles) (hcost : p.concurrentReservation = .ok cost)
    (hroom : cost.maxConcurrentWithin budget.hostCapacity = some (room, short))
    (hnonneg : 0 ≤ total) (hsafe : total ≤ 9007199254740991) :
    ∃ decision, planShardCountUnderBudget total p.profileId budget = .ok decision ∧
      decision.Answers (max budget.minShards
        (min budget.maxShards ⌈(total / budget.targetShardDurationMs : ℚ)⌉)) room short := by
  obtain ⟨htarget, hmin, hle⟩ := budget.counts_valid
  rw [planShardCountUnderBudget, ShardPlanningBudget.profile_eq_ok.mpr ⟨hp, rfl⟩, ok_bind,
    desiredShardCount_eq hnonneg hsafe htarget hmin, ok_bind, hcost, ok_bind, hroom]
  generalize ⌈(total / budget.targetShardDurationMs : ℚ)⌉ = count
  have hshort : ∀ dimension, some short.name = some dimension → isBlank dimension = false := by
    intro dimension hdimension
    cases hdimension
    exact short.name_not_blank
  simp only [Option.getD_some]
  split
  · next hnone =>
    refine ⟨_, construct_of_ok (ShardBudgetDecision.accepted_of ?_ (Int.le_refl 0) hshort ?_), ?_⟩
    · show 0 ≤ max budget.minShards _
      omega
    · rintro _ ⟨⟩
      decide
    · refine ⟨rfl, ⟨fun _ => hnone, fun _ => rfl⟩, fun h => absurd rfl h, fun _ => rfl,
        ⟨fun h => ?_, fun h => ?_⟩, fun _ => rfl⟩
      · cases h
      · omega
  · next hsome =>
    split
    · next hclamped =>
      refine ⟨_, construct_of_ok (ShardBudgetDecision.accepted_of ?_ ?_ hshort ?_), ?_⟩
      · show 0 ≤ max budget.minShards _
        omega
      · show 0 ≤ min (max budget.minShards _) room
        omega
      · rintro _ ⟨⟩
        decide
      · refine ⟨rfl, ⟨fun h => ?_, fun h => absurd h hsome⟩, fun _ => rfl, fun h => ?_,
          ⟨fun h => ?_, fun h => ?_⟩, fun _ => rfl⟩
        · cases h
        · cases h
        · cases h
        · omega
    · next hfits =>
      refine ⟨_, construct_of_ok (ShardBudgetDecision.accepted_of ?_ ?_ ?_ ?_), ?_⟩
      · show 0 ≤ max budget.minShards _
        omega
      · show 0 ≤ min (max budget.minShards _) room
        omega
      · intro dimension hdimension
        cases hdimension
      · intro reason hreason
        cases hreason
      · refine ⟨rfl, ⟨fun h => ?_, fun h => absurd h hsome⟩, fun _ => rfl, fun h => ?_,
          ⟨fun _ => ?_, fun _ => rfl⟩, fun h => absurd rfl h⟩
        · cases h
        · cases h
        · omega

/-- A profile one shard of which fits the host gets at least one shard. -/
theorem planShardCountUnderBudget_ok {total : ℤ} {budget : ShardPlanningBudget}
    {p : ResourceProfileSpec} {cost : ResourceVector} (hp : p ∈ budget.profiles)
    (hcost : p.concurrentReservation = .ok cost) (hfits : cost.fitsWithin budget.hostCapacity)
    (hnonneg : 0 ≤ total) (hsafe : total ≤ 9007199254740991) :
    ∃ decision, planShardCountUnderBudget total p.profileId budget = .ok decision ∧
      decision.kind ≠ .infeasible ∧ 1 ≤ decision.allowedShardCount := by
  obtain ⟨-, hmin, -⟩ := budget.counts_valid
  obtain ⟨cost', hcost', hzero, -⟩ := p.concurrentReservation_ok
  rw [hcost] at hcost'
  cases hcost'
  obtain ⟨room, short, hroom, -, hgreatest⟩ :=
    ResourceVector.maxConcurrentWithin_some budget.hostCapacity hzero
  have hone : 1 ≤ room := by
    apply (hgreatest 1 (by omega)).mp
    intro d
    rw [Int.mul_one]
    exact hfits d d.mem_all
  obtain ⟨decision, hdecision, hanswers⟩ :=
    planShardCountUnderBudget_answers hp hcost hroom hnonneg hsafe
  have hkind : decision.kind ≠ .infeasible := by
    rw [ne_eq, hanswers.infeasible]
    omega
  refine ⟨decision, hdecision, hkind, ?_⟩
  rw [hanswers.allowed hkind]
  omega

end QaRunner
