import QaRunner.Domain.RunRetryDecision
import QaRunner.Domain.Retry
import QaRunner.Lib.Sorting
import Mathlib.Data.List.Dedup
import Mathlib.Data.Prod.Lex
import Mathlib.Algebra.Ring.Int.Defs

/-! Evaluation of the versioned Run retry policies: every mismatch fails closed, and no sequence of
evaluations grants more than the budget of its policy. -/
namespace QaRunner
open Guarded

/-- A missing string is as good as an empty one. -/
def policySomeString (entity field : String) (value : Option Str) : Result Unit :=
  invalidIf (value.all isBlank = true) entity field "empty"

def policySomePositive (entity field : String) (value : Option ℤ) : Result Unit :=
  invalidIf (∀ n ∈ value, n ≤ 0) entity field "not_positive_integer"

def policyWindow (entity : String) (start finish : Datetime) : Result Unit := do
  requireUtc entity "effective_from" start
  requireUtc entity "effective_until" finish
  invalidIf (finish ≤ start) entity "effective_until" "invalid_window"

structure RetryReasonSelector.Fields where
  reasonClass : Str
  reasonCode : Str
  deriving DecidableEq

def RetryReasonSelector.Fields.postInit (s : RetryReasonSelector.Fields) : Result Unit := do
  policyString "retry_reason_selector" "reason_class" s.reasonClass
  policyString "retry_reason_selector" "reason_code" s.reasonCode

structure RetryReasonSelector extends RetryReasonSelector.Fields where
  accepted : toFields.postInit = .ok ()
  deriving DecidableEq

def RetryReasonSelector.order (s : RetryReasonSelector) : Str ×ₗ Str :=
  toLex (s.reasonClass, s.reasonCode)

/-- The terms both policy families share. -/
structure RetryPolicyTerms where
  policyId : Str
  version : ℤ
  projectId : Str
  retryableReasons : List RetryReasonSelector
  requiredApproverRole : Str
  maxRetries : ℤ
  retryScope : RetryScope
  budget : RetryBudget
  effectiveFrom : Datetime
  effectiveUntil : Datetime
  policyDigest : Digest
  deriving DecidableEq

def policyCommon (p : RetryPolicyTerms) (maxAllowed : ℤ) (entity : String) : Result Unit := do
  each [("policy_id", p.policyId), ("project_id", p.projectId)] fun f => policyString entity f.1 f.2
  policyPositive entity "version" p.version
  policyNonnegative entity "max_retries" p.maxRetries
  invalidIf (maxAllowed < p.maxRetries ∨ p.budget.maxRetries ≠ p.maxRetries) entity "max_retries"
    "outside_signed_limit"
  invalidIf (p.retryScope ≠ .fullRun) entity "retry_scope" "unsupported"
  policyString entity "required_approver_role" p.requiredApproverRole
  invalidIf (p.retryableReasons = []) entity "retryable_reasons" "invalid_selector"
  invalidIf (Sorting.sortOn RetryReasonSelector.order p.retryableReasons.dedup ≠
    p.retryableReasons) entity "retryable_reasons" "not_sorted_unique"
  policyWindow entity p.effectiveFrom p.effectiveUntil

structure SuiteRetryPolicy.Fields extends RetryPolicyTerms where
  suiteRevisionId : Str
  deriving DecidableEq

def SuiteRetryPolicy.Fields.postInit (p : SuiteRetryPolicy.Fields) : Result Unit := do
  policyCommon p.toRetryPolicyTerms 1 "suite_retry_policy"
  policyString "suite_retry_policy" "suite_revision_id" p.suiteRevisionId

structure SuiteRetryPolicy extends SuiteRetryPolicy.Fields where
  accepted : toFields.postInit = .ok ()
  deriving DecidableEq

structure PlatformRetryPolicy.Fields extends RetryPolicyTerms where
  runnerId : Str
  runnerVersion : ℤ
  requirePriorExecutionStop : Bool
  deriving DecidableEq

def PlatformRetryPolicy.Fields.postInit (p : PlatformRetryPolicy.Fields) : Result Unit := do
  policyCommon p.toRetryPolicyTerms 2 "platform_retry_policy"
  policyString "platform_retry_policy" "runner_id" p.runnerId
  policyPositive "platform_retry_policy" "runner_version" p.runnerVersion
  invalidIf (p.requirePriorExecutionStop = false) "platform_retry_policy"
    "require_prior_execution_stop" "must_be_true"

structure PlatformRetryPolicy extends PlatformRetryPolicy.Fields where
  accepted : toFields.postInit = .ok ()
  deriving DecidableEq

inductive RetryPolicy where
  | suite (policy : SuiteRetryPolicy)
  | platform (policy : PlatformRetryPolicy)
  deriving DecidableEq

theorem policyCommon_retries {p : RetryPolicyTerms} {maxAllowed : ℤ} {entity : String}
    (h : policyCommon p maxAllowed entity = .ok ()) : 0 ≤ p.maxRetries := by
  simp only [policyCommon, then_eq_ok, policyNonnegative, invalidIf_eq_ok, not_lt] at h
  exact h.2.2.1

namespace RetryPolicy

def terms : RetryPolicy → RetryPolicyTerms
  | .suite p => p.toRetryPolicyTerms
  | .platform p => p.toRetryPolicyTerms

def family : RetryPolicy → RetryPolicyFamily
  | .suite _ => .suite
  | .platform _ => .platform

theorem maxRetries_nonneg (p : RetryPolicy) : 0 ≤ p.terms.maxRetries := by
  cases p with
  | suite q =>
    have h := q.accepted
    rw [SuiteRetryPolicy.Fields.postInit, then_eq_ok] at h
    exact policyCommon_retries h.1
  | platform q =>
    have h := q.accepted
    rw [PlatformRetryPolicy.Fields.postInit, then_eq_ok] at h
    exact policyCommon_retries h.1

theorem budget_nonneg (p : RetryPolicy) : 0 ≤ p.terms.maxRetries ∧
    0 ≤ p.terms.budget.maxExecutionSeconds ∧ 0 ≤ p.terms.budget.maxResourceUnitSeconds := by
  have h := p.terms.budget.accepted
  simp only [RetryBudget.Fields.postInit, each_eq_ok, policyNonnegative, invalidIf_eq_ok, not_lt,
    List.forall_mem_cons] at h
  exact ⟨p.maxRetries_nonneg, h.2.1, h.2.2.1⟩

end RetryPolicy

structure RetryPolicyAuthority.Fields where
  schema : Str
  authorityId : Str
  version : ℤ
  family : RetryPolicyFamily
  projectId : Str
  suiteRevisionId : Option Str
  runnerId : Option Str
  runnerVersion : Option ℤ
  approverRole : Str
  approvalRecordDigest : Digest
  validFrom : Datetime
  validUntil : Datetime
  authorityDigest : Digest
  deriving DecidableEq

def RetryPolicyAuthority.Fields.postInit (a : RetryPolicyAuthority.Fields) : Result Unit := do
  each [("schema", a.schema), ("authority_id", a.authorityId), ("project_id", a.projectId),
    ("approver_role", a.approverRole)] fun f => policyString "retry_policy_authority" f.1 f.2
  policyPositive "retry_policy_authority" "version" a.version
  policyWindow "retry_policy_authority" a.validFrom a.validUntil
  match a.family with
  | .suite => do
    policySomeString "retry_policy_authority" "suite_revision_id" a.suiteRevisionId
    invalidIf (a.runnerId.isSome ∨ a.runnerVersion.isSome) "retry_policy_authority" "runner"
      "forbidden"
  | .platform => do
    policySomeString "retry_policy_authority" "runner_id" a.runnerId
    policySomePositive "retry_policy_authority" "runner_version" a.runnerVersion
    invalidIf (a.suiteRevisionId.isSome) "retry_policy_authority" "suite_revision_id" "forbidden"

structure RetryPolicyAuthority extends RetryPolicyAuthority.Fields where
  accepted : toFields.postInit = .ok ()
  deriving DecidableEq

/-- The reason of the attempt, as a policy selects it. -/
def RetrySourceFact.selector (s : RetrySourceFact) : RetryReasonSelector where
  reasonClass := s.reasonClass
  reasonCode := s.reasonCode
  accepted := by
    have h := s.accepted
    simp only [Fields.postInit, then_eq_ok, each_eq_ok, List.forall_mem_cons, policyString,
      invalidIf_eq_ok] at h
    obtain ⟨⟨-, -, hclass, hcode, -⟩, -⟩ := h
    simp only [RetryReasonSelector.Fields.postInit, then_eq_ok, policyString, invalidIf_eq_ok]
    exact ⟨hclass, hcode⟩

/-- The target the authority was approved for, and what a platform retry needs besides. -/
def RetryPolicy.bindsTarget (p : RetryPolicy) (authority : RetryPolicyAuthority)
    (source : RetrySourceFact) : Bool :=
  match p with
  | .suite q => authority.suiteRevisionId = some q.suiteRevisionId
  | .platform q => authority.runnerId = some q.runnerId ∧
      authority.runnerVersion = some q.runnerVersion ∧ source.priorExecutionStopDigest.isSome

/-- Every condition of a retry under a policy and an authority. -/
def RetryPolicy.allows (p : RetryPolicy) (authority : RetryPolicyAuthority)
    (source : RetrySourceFact) (usage : RetryBudgetUsage) (requested : RetryRequestedBudget)
    (decidedAt : Datetime) : Bool :=
  decide (source.outcome = p.family.expectedOutcome ∧
    authority.family = p.family ∧
    authority.projectId = p.terms.projectId ∧
    authority.approverRole = p.terms.requiredApproverRole ∧
    (p.terms.effectiveFrom ≤ decidedAt ∧ decidedAt < p.terms.effectiveUntil) ∧
    (authority.validFrom ≤ decidedAt ∧ decidedAt < authority.validUntil) ∧
    source.selector ∈ p.terms.retryableReasons ∧
    usage.retryCount < p.terms.maxRetries ∧
    usage.executionSeconds + requested.executionSeconds ≤ p.terms.budget.maxExecutionSeconds ∧
    usage.resourceUnitSeconds + requested.resourceUnitSeconds ≤
      p.terms.budget.maxResourceUnitSeconds) &&
    p.bindsTarget authority source

/-- Without a policy or an authority nothing is allowed. -/
def retryAllowed (policy : Option RetryPolicy) (source : RetrySourceFact)
    (authority : Option RetryPolicyAuthority) (usage : RetryBudgetUsage)
    (requested : RetryRequestedBudget) (decidedAt : Datetime) : Bool :=
  match policy, authority with
  | some p, some a => p.allows a source usage requested decidedAt
  | _, _ => false

/-- Without a policy the decision is one of the suite family. -/
def decisionSourceKind (policy : Option RetryPolicy) : RetryDecisionSourceKind :=
  match policy with
  | some (.platform _) => .platformPolicy
  | _ => .suitePolicy

/-- `RetryBudget(0, 0, 0)`. -/
def RetryBudget.none : RetryBudget := ⟨⟨0, 0, 0⟩, by decide⟩

/-- Evaluate exact policy inputs without defaults; every mismatch fails closed. -/
def evaluateRunRetry (policy : Option RetryPolicy) (source : RetrySourceFact)
    (authority : Option RetryPolicyAuthority) (usage : RetryBudgetUsage)
    (requested : RetryRequestedBudget) (retryIntentDigest : Digest) (decidedAt : Datetime) :
    Result RunRetryDecision.Record := do
  requireUtc "run_retry_evaluation" "decided_at" decidedAt
  let allowed := retryAllowed policy source authority usage requested decidedAt
  let decided ← construct RunRetryDecision.Fields.postInit RunRetryDecision.mk {
    source := source
    decision := if allowed then .retry else .closedNoRetry
    decisionSourceKind := decisionSourceKind policy
    retryIntentDigest := if allowed then some retryIntentDigest else none
    authoritySchema := authority.map (·.schema)
    authorityId := authority.map (·.authorityId)
    authorityVersion := authority.map (·.version)
    authorityDigest := authority.map (·.authorityDigest)
    policyDigest := policy.map (·.terms.policyDigest) }
  return {
    toRunRetryDecision := decided
    retryScope := .fullRun
    reasonClass := source.reasonClass
    reasonCode := source.reasonCode
    priorExecutionStopDigest := source.priorExecutionStopDigest
    budget := (policy.map (·.terms.budget)).getD RetryBudget.none
    usage := usage
    requested := requested
    decidedAt := decidedAt }

section
variable {policy : Option RetryPolicy} {source : RetrySourceFact}
  {authority : Option RetryPolicyAuthority} {usage usage' : RetryBudgetUsage}
  {requested requested' : RetryRequestedBudget} {digest : Digest} {decidedAt : Datetime}
  {p : RetryPolicy} {a : RetryPolicyAuthority} {d : RunRetryDecision.Record}

theorem retryAllowed_iff : retryAllowed policy source authority usage requested decidedAt = true ↔
    ∃ p a, policy = some p ∧ authority = some a ∧
      p.allows a source usage requested decidedAt = true := by
  cases policy with
  | none => simp [retryAllowed]
  | some p =>
    cases authority with
    | none => simp [retryAllowed]
    | some a => simp [retryAllowed]

theorem evaluateRunRetry_eq_ok
    (h : evaluateRunRetry policy source authority usage requested digest decidedAt = .ok d) :
    decidedAt.IsUtc ∧ (d.decision = .retry ↔
      retryAllowed policy source authority usage requested decidedAt = true) := by
  rw [evaluateRunRetry, then_eq_ok, requireUtc_eq_ok] at h
  obtain ⟨hutc, h⟩ := h
  refine ⟨hutc, ?_⟩
  obtain ⟨decided, hdecided, hd⟩ := bind_eq_ok.mp h
  obtain ⟨_, rfl⟩ := construct_eq_ok.mp hdecided
  have hdecision := congrArg (fun r : RunRetryDecision.Record => r.decision) (pure_eq_ok.mp hd)
  dsimp only at hdecision
  rw [← hdecision]
  cases retryAllowed policy source authority usage requested decidedAt with
  | false => simp
  | true => simp

/-- Any inputs are decided on, once the time of the decision is one on the UTC clock. -/
theorem evaluateRunRetry_total (hutc : decidedAt.IsUtc) :
    ∃ d, evaluateRunRetry policy source authority usage requested digest decidedAt = .ok d := by
  rw [evaluateRunRetry, (requireUtc_eq_ok (u := ())).mpr hutc, ok_bind]
  refine ⟨_, bind_eq_ok.mpr ⟨_, construct_of_ok ?_, rfl⟩⟩
  cases retryAllowed policy source authority usage requested decidedAt with
  | false => rfl
  | true => rfl

/-- The facts that a policy and an authority agree on before a retry, the budget apart. -/
structure RetryPolicy.Authorizes (p : RetryPolicy) (authority : RetryPolicyAuthority)
    (source : RetrySourceFact) (decidedAt : Datetime) : Prop where
  family : authority.family = p.family
  project : authority.projectId = p.terms.projectId
  approver : authority.approverRole = p.terms.requiredApproverRole
  effective : p.terms.effectiveFrom ≤ decidedAt ∧ decidedAt < p.terms.effectiveUntil
  valid : authority.validFrom ≤ decidedAt ∧ decidedAt < authority.validUntil
  outcome : source.outcome = p.family.expectedOutcome
  reason : ⟨source.reasonClass, source.reasonCode⟩ ∈ p.terms.retryableReasons.map (·.toFields)
  suite : ∀ q, p = .suite q → authority.suiteRevisionId = some q.suiteRevisionId
  runner : ∀ q, p = .platform q → authority.runnerId = some q.runnerId ∧
    authority.runnerVersion = some q.runnerVersion
  stopped : ∀ q, p = .platform q → source.priorExecutionStopDigest.isSome

/-- What is left of the budget covers the retry. -/
structure RetryPolicy.Affords (p : RetryPolicy) (usage : RetryBudgetUsage)
    (requested : RetryRequestedBudget) : Prop where
  retries : usage.retryCount < p.terms.maxRetries
  execution : usage.executionSeconds + requested.executionSeconds ≤
    p.terms.budget.maxExecutionSeconds
  resource : usage.resourceUnitSeconds + requested.resourceUnitSeconds ≤
    p.terms.budget.maxResourceUnitSeconds

theorem RetryPolicy.allows_iff : p.allows a source usage requested decidedAt = true ↔
    p.Authorizes a source decidedAt ∧ p.Affords usage requested := by
  have hreason : source.selector ∈ p.terms.retryableReasons ↔
      ⟨source.reasonClass, source.reasonCode⟩ ∈ p.terms.retryableReasons.map (·.toFields) := by
    rw [List.mem_map]
    constructor
    · intro hmem
      exact ⟨_, hmem, rfl⟩
    · rintro ⟨selector, hmem, hsame⟩
      have hselector : selector = source.selector := by
        cases selector
        cases hsame
        rfl
      rwa [← hselector]
  have htarget : p.bindsTarget a source = true ↔
      (∀ q, p = .suite q → a.suiteRevisionId = some q.suiteRevisionId) ∧
      (∀ q, p = .platform q → a.runnerId = some q.runnerId ∧
        a.runnerVersion = some q.runnerVersion) ∧
      ∀ q, p = .platform q → source.priorExecutionStopDigest.isSome := by
    cases p with
    | suite q => simp [bindsTarget]
    | platform q => simp [bindsTarget, and_assoc]
  rw [allows, Bool.and_eq_true, decide_eq_true_eq, htarget, hreason]
  constructor
  · rintro ⟨⟨houtcome, hfamily, hproject, happrover, heffective, hvalid, hreason, hretries,
      hexecution, hresource⟩, hsuite, hrunner, hstopped⟩
    exact ⟨⟨hfamily, hproject, happrover, heffective, hvalid, houtcome, hreason, hsuite, hrunner,
      hstopped⟩, hretries, hexecution, hresource⟩
  · rintro ⟨h, hbudget⟩
    exact ⟨⟨h.outcome, h.family, h.project, h.approver, h.effective, h.valid, h.reason,
      hbudget.retries, hbudget.execution, hbudget.resource⟩, h.suite, h.runner, h.stopped⟩

/-- Used or asked for no more, in any component. -/
structure RetryBudgetUsage.Within (usage usage' : RetryBudgetUsage) : Prop where
  retries : usage.retryCount ≤ usage'.retryCount
  execution : usage.executionSeconds ≤ usage'.executionSeconds
  resource : usage.resourceUnitSeconds ≤ usage'.resourceUnitSeconds

structure RetryRequestedBudget.Within (requested requested' : RetryRequestedBudget) : Prop where
  execution : requested.executionSeconds ≤ requested'.executionSeconds
  resource : requested.resourceUnitSeconds ≤ requested'.resourceUnitSeconds

theorem RetryPolicy.Affords.of_within (h : p.Affords usage' requested')
    (husage : usage.Within usage') (hrequested : requested.Within requested') :
    p.Affords usage requested := by
  have hretries := h.retries
  have hexecution := h.execution
  have hresource := h.resource
  have hcount := husage.retries
  have hused := husage.execution
  have hunits := husage.resource
  have hasked := hrequested.execution
  have haskedUnits := hrequested.resource
  exact ⟨by omega, by omega, by omega⟩

end

/-- No retry yet. -/
def RetryBudgetUsage.zero : RetryBudgetUsage := ⟨⟨0, 0, 0⟩, rfl⟩

theorem RetryBudgetUsage.nonneg (u : RetryBudgetUsage) :
    0 ≤ u.retryCount ∧ 0 ≤ u.executionSeconds ∧ 0 ≤ u.resourceUnitSeconds := by
  have h := u.accepted
  simpa [Fields.postInit, each_eq_ok, policyNonnegative, invalidIf_eq_ok] using h

theorem RetryRequestedBudget.pos (r : RetryRequestedBudget) :
    0 < r.executionSeconds ∧ 0 < r.resourceUnitSeconds := by
  have h := r.accepted
  simpa [Fields.postInit, each_eq_ok, policyPositive, invalidIf_eq_ok] using h

/-- One more retry, with the seconds it was granted. -/
def RetryBudgetUsage.charge (u : RetryBudgetUsage) (requested : RetryRequestedBudget) :
    RetryBudgetUsage where
  retryCount := u.retryCount + 1
  executionSeconds := u.executionSeconds + requested.executionSeconds
  resourceUnitSeconds := u.resourceUnitSeconds + requested.resourceUnitSeconds
  accepted := by
    have hused := u.nonneg
    have hasked := requested.pos
    simp only [Fields.postInit, each_eq_ok, policyNonnegative, invalidIf_eq_ok,
      List.forall_mem_cons]
    exact ⟨by omega, by omega, by omega, nofun⟩

/-- What one evaluation of a sequence is given, its policy and the usage apart. -/
structure RetryEvaluation where
  source : RetrySourceFact
  authority : Option RetryPolicyAuthority
  requested : RetryRequestedBudget
  retryIntentDigest : Digest
  decidedAt : Datetime

def RetryEvaluation.decide (e : RetryEvaluation) (policy : RetryPolicy)
    (usage : RetryBudgetUsage) : Result RunRetryDecision.Record :=
  evaluateRunRetry (some policy) e.source e.authority usage e.requested e.retryIntentDigest
    e.decidedAt

def RetryEvaluation.grants (e : RetryEvaluation) (policy : RetryPolicy)
    (usage : RetryBudgetUsage) : Bool :=
  match e.decide policy usage with
  | .ok d => d.decision = .retry
  | .error _ => false

/-- The budgets granted by a sequence of evaluations, each charged before the next one. -/
def granted (policy : RetryPolicy) (usage : RetryBudgetUsage) :
    List RetryEvaluation → List RetryRequestedBudget
  | [] => []
  | e :: rest =>
    if e.grants policy usage then e.requested :: granted policy (usage.charge e.requested) rest
    else granted policy usage rest

theorem RetryEvaluation.affords_of_grants {e : RetryEvaluation} {policy : RetryPolicy}
    {usage : RetryBudgetUsage} (h : e.grants policy usage = true) :
    policy.Affords usage e.requested := by
  unfold grants at h
  cases hd : e.decide policy usage with
  | error _ =>
    rw [hd] at h
    cases h
  | ok d =>
    rw [hd] at h
    have hretry := (evaluateRunRetry_eq_ok hd).2.mp (of_decide_eq_true h)
    obtain ⟨p, a, hp, -, hallows⟩ := retryAllowed_iff.mp hretry
    cases hp
    exact (RetryPolicy.allows_iff.mp hallows).2

/-- What is granted from some usage on stays inside what the budget leaves. -/
theorem granted_within (policy : RetryPolicy) (evaluations : List RetryEvaluation)
    (usage : RetryBudgetUsage) (hretries : usage.retryCount ≤ policy.terms.maxRetries)
    (hexecution : usage.executionSeconds ≤ policy.terms.budget.maxExecutionSeconds)
    (hresource : usage.resourceUnitSeconds ≤ policy.terms.budget.maxResourceUnitSeconds) :
    usage.retryCount + (granted policy usage evaluations).length ≤ policy.terms.maxRetries ∧
      usage.executionSeconds + ((granted policy usage evaluations).map (·.executionSeconds)).sum ≤
        policy.terms.budget.maxExecutionSeconds ∧
      usage.resourceUnitSeconds +
        ((granted policy usage evaluations).map (·.resourceUnitSeconds)).sum ≤
        policy.terms.budget.maxResourceUnitSeconds := by
  induction evaluations generalizing usage with
  | nil => simpa [granted] using ⟨hretries, hexecution, hresource⟩
  | cons e rest ih =>
    rw [granted]
    by_cases hgrants : e.grants policy usage = true
    · rw [if_pos hgrants]
      have haffords := RetryEvaluation.affords_of_grants hgrants
      have hcount := haffords.retries
      obtain ⟨hlength, hseconds, hunits⟩ := ih (usage.charge e.requested)
        (Int.add_one_le_of_lt hcount) haffords.execution haffords.resource
      simp only [RetryBudgetUsage.charge] at hlength hseconds hunits ⊢
      simp only [List.length_cons, List.map_cons, List.sum_cons]
      push_cast
      exact ⟨by omega, by omega, by omega⟩
    · rw [if_neg hgrants]
      exact ih usage hretries hexecution hresource

/-- A retry is decided only on a policy and an authority that agree with each other and the source;
more usage or a larger request never opens a closed decision; and no sequence of evaluations under
one policy grants more retries or seconds than the policy has. -/
theorem run_retry_safe :
    (∀ policy source authority usage requested digest decidedAt d,
      evaluateRunRetry policy source authority usage requested digest decidedAt = .ok d →
      d.decision = .retry →
      ∃ p a, policy = some p ∧ authority = some a ∧ p.Authorizes a source decidedAt) ∧
    (∀ policy source authority usage usage' requested requested' digest decidedAt d d',
      RetryBudgetUsage.Within usage usage' → RetryRequestedBudget.Within requested requested' →
      evaluateRunRetry policy source authority usage requested digest decidedAt = .ok d →
      evaluateRunRetry policy source authority usage' requested' digest decidedAt = .ok d' →
      d.decision = .closedNoRetry → d'.decision = .closedNoRetry) ∧
    ∀ (policy : RetryPolicy) evaluations,
      ((granted policy .zero evaluations).length : ℤ) ≤ policy.terms.maxRetries ∧
      ((granted policy .zero evaluations).map (·.executionSeconds)).sum ≤
        policy.terms.budget.maxExecutionSeconds ∧
      ((granted policy .zero evaluations).map (·.resourceUnitSeconds)).sum ≤
        policy.terms.budget.maxResourceUnitSeconds := by
  refine ⟨?_, ?_, ?_⟩
  · intro policy source authority usage requested digest decidedAt d h hretry
    obtain ⟨p, a, hp, ha, hallows⟩ :=
      retryAllowed_iff.mp ((evaluateRunRetry_eq_ok h).2.mp hretry)
    exact ⟨p, a, hp, ha, (RetryPolicy.allows_iff.mp hallows).1⟩
  · intro policy source authority usage usage' requested requested' digest decidedAt d d'
      husage hrequested h h' hclosed
    by_contra hopen
    have hretry : d'.decision = .retry := by
      cases hd : d'.decision with
      | retry => rfl
      | closedNoRetry => exact absurd hd hopen
    obtain ⟨p, a, hp, ha, hallows⟩ :=
      retryAllowed_iff.mp ((evaluateRunRetry_eq_ok h').2.mp hretry)
    obtain ⟨hauthorizes, haffords⟩ := RetryPolicy.allows_iff.mp hallows
    have hallowed : retryAllowed policy source authority usage requested decidedAt = true :=
      retryAllowed_iff.mpr ⟨p, a, hp, ha, RetryPolicy.allows_iff.mpr
        ⟨hauthorizes, haffords.of_within husage hrequested⟩⟩
    rw [(evaluateRunRetry_eq_ok h).2.mpr hallowed] at hclosed
    cases hclosed
  · intro policy evaluations
    have hbudget := policy.budget_nonneg
    have h := granted_within policy evaluations .zero hbudget.1 hbudget.2.1 hbudget.2.2
    simpa [RetryBudgetUsage.zero] using h

def flakySelector : RetryReasonSelector := ⟨⟨"test_failed", "assertion"⟩, rfl⟩

def oneRetryPolicy : SuiteRetryPolicy where
  policyId := "policy-1"
  version := 1
  projectId := "project-1"
  retryableReasons := [flakySelector]
  requiredApproverRole := "qa-lead"
  maxRetries := 1
  retryScope := .fullRun
  budget := ⟨⟨1, 600, 1200⟩, rfl⟩
  effectiveFrom := ⟨0, some 0⟩
  effectiveUntil := ⟨1000, some 0⟩
  policyDigest := Digest.zero
  suiteRevisionId := "suite-1"
  accepted := rfl

def suiteAuthority : RetryPolicyAuthority where
  schema := "qep.retry-policy-authority.v1"
  authorityId := "authority-1"
  version := 1
  family := .suite
  projectId := "project-1"
  suiteRevisionId := some "suite-1"
  runnerId := none
  runnerVersion := none
  approverRole := "qa-lead"
  approvalRecordDigest := Digest.zero
  validFrom := ⟨0, some 0⟩
  validUntil := ⟨1000, some 0⟩
  authorityDigest := Digest.zero
  accepted := rfl

def failedSource : RetrySourceFact where
  runId := "run-1"
  runVersion := 4
  attemptId := "attempt-1"
  attemptNo := 1
  attemptFence := 1
  outcome := .testFailed
  reasonClass := "test_failed"
  reasonCode := "assertion"
  itemResolutionSetDigest := Digest.zero
  sourceItemSetDigest := Digest.zero
  targetItemSetDigest := Digest.zero
  priorExecutionStopDigest := none
  accepted := rfl

/-- The policy retries the failure once: the second request, charged for the first, is closed. -/
theorem run_retry_once : ∃ d, evaluateRunRetry (some (.suite oneRetryPolicy)) failedSource
      (some suiteAuthority) .zero ⟨⟨300, 600⟩, rfl⟩ Digest.zero ⟨500, some 0⟩ = .ok d ∧
    d.decision = .retry ∧
    (RetryPolicy.suite oneRetryPolicy).Authorizes suiteAuthority failedSource ⟨500, some 0⟩ ∧
    (granted (.suite oneRetryPolicy) .zero (List.replicate 2
      ⟨failedSource, some suiteAuthority, ⟨⟨300, 600⟩, rfl⟩, Digest.zero, ⟨500, some 0⟩⟩)).length =
        1 := by
  have hutc : Datetime.IsUtc ⟨500, some 0⟩ := rfl
  have htotal : ∃ d, evaluateRunRetry (some (.suite oneRetryPolicy)) failedSource
      (some suiteAuthority) .zero ⟨⟨300, 600⟩, rfl⟩ Digest.zero ⟨500, some 0⟩ = .ok d :=
    evaluateRunRetry_total hutc
  obtain ⟨d, hd⟩ := htotal
  have hretry := (evaluateRunRetry_eq_ok hd).2.mpr (by decide)
  obtain ⟨p, a, hp, ha, hauthorizes⟩ := run_retry_safe.1 _ _ _ _ _ _ _ d hd hretry
  cases hp
  cases ha
  exact ⟨d, hd, hretry, hauthorizes, by decide⟩

end QaRunner
