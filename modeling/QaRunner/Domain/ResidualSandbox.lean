import QaRunner.Domain.Errors
import QaRunner.Lib.Keyed
import QaRunner.Lib.Sorting
import Mathlib.Data.Prod.Lex
import Mathlib.Data.String.Basic
import Mathlib.Algebra.Ring.Int.Defs

/-! Residual sandboxes after a restart: which containers are kept, which are removed, and which
attempts become unknown. -/
namespace QaRunner
open Guarded

inductive ResidualSandboxDisposition where
  | keep
  | orphanRemove
  | unknown
  deriving DecidableEq, Repr

def ResidualSandboxDisposition.value : ResidualSandboxDisposition → String
  | .keep => "keep"
  | .orphanRemove => "orphan_remove"
  | .unknown => "unknown"

/-- Run, assignment, attempt and fence. -/
abbrev AttemptIdentity := String × String × String × ℤ

structure ResidualSandboxObservation.Fields where
  containerId : String
  runId : String
  assignmentId : String
  attemptId : String
  fence : ℤ
  workerId : String
  workerGeneration : ℤ
  startCommitKey : String
  running : Bool
  deriving DecidableEq

def ResidualSandboxObservation.Fields.postInit (r : ResidualSandboxObservation.Fields) :
    Result Unit := do
  each [("container_id", r.containerId), ("run_id", r.runId), ("assignment_id", r.assignmentId),
    ("attempt_id", r.attemptId), ("worker_id", r.workerId),
    ("start_commit_key", r.startCommitKey)] fun f =>
    invalidIf (isBlank f.2) "residual_sandbox_observation" f.1 "invalid"
  invalidIf (r.fence < 1) "residual_sandbox_observation" "fence" "invalid"
  invalidIf (r.workerGeneration < 1) "residual_sandbox_observation" "worker_generation" "invalid"

/-- One labeled container observed on the Worker host after restart. -/
structure ResidualSandboxObservation extends ResidualSandboxObservation.Fields where
  accepted : toFields.postInit = .ok ()
  deriving DecidableEq

def ResidualSandboxObservation.identityKey (r : ResidualSandboxObservation) : AttemptIdentity :=
  (r.runId, r.assignmentId, r.attemptId, r.fence)

structure ExpectedLiveAttempt.Fields where
  runId : String
  assignmentId : String
  attemptId : String
  fence : ℤ
  startCommitKey : String
  hasTerminalFacts : Bool
  deriving DecidableEq

def ExpectedLiveAttempt.Fields.postInit (e : ExpectedLiveAttempt.Fields) : Result Unit := do
  each [("run_id", e.runId), ("assignment_id", e.assignmentId), ("attempt_id", e.attemptId),
    ("start_commit_key", e.startCommitKey)] fun f =>
    invalidIf (isBlank f.2) "expected_live_attempt" f.1 "invalid"
  invalidIf (e.fence < 1) "expected_live_attempt" "fence" "invalid"

/-- An attempt that, as far as the control plane knows, may still own a sandbox. -/
structure ExpectedLiveAttempt extends ExpectedLiveAttempt.Fields where
  accepted : toFields.postInit = .ok ()
  deriving DecidableEq

def ExpectedLiveAttempt.identityKey (e : ExpectedLiveAttempt) : AttemptIdentity :=
  (e.runId, e.assignmentId, e.attemptId, e.fence)

structure ResidualSandboxAction where
  disposition : ResidualSandboxDisposition
  runId : String
  assignmentId : String
  attemptId : String
  fence : ℤ
  containerId : Option String
  requiresUnknownObservation : Bool
  deriving DecidableEq

namespace ResidualSandboxAction

def identityKey (a : ResidualSandboxAction) : AttemptIdentity :=
  (a.runId, a.assignmentId, a.attemptId, a.fence)

/-- The key that the plan is sorted by; it leaves out the container. -/
def sortKey (a : ResidualSandboxAction) : String ×ₗ String ×ₗ String ×ₗ ℤ ×ₗ String :=
  toLex (a.runId, toLex (a.assignmentId, toLex (a.attemptId, toLex (a.fence,
    a.disposition.value))))

end ResidualSandboxAction

structure ResidualSandboxReconcilePlan.Fields where
  actions : List ResidualSandboxAction
  autoStartCount : ℤ
  inferredSuccessCount : ℤ
  deriving DecidableEq

def ResidualSandboxReconcilePlan.Fields.postInit (p : ResidualSandboxReconcilePlan.Fields) :
    Result Unit :=
  invalidIf (p.autoStartCount ≠ 0 ∨ p.inferredSuccessCount ≠ 0) "residual_sandbox_reconcile_plan"
    "red_line" "auto_start_or_inferred_success_forbidden"

/-- The plan of one sweep after a restart. -/
structure ResidualSandboxReconcilePlan extends ResidualSandboxReconcilePlan.Fields where
  accepted : toFields.postInit = .ok ()
  deriving DecidableEq

/-- The expected attempts by identity; an identity may not come twice. -/
def expectedByKey (byKey : List ExpectedLiveAttempt) :
    List ExpectedLiveAttempt → Result (List ExpectedLiveAttempt)
  | [] => .ok byKey
  | item :: rest => do
    invalidIf (item.identityKey ∈ byKey.map (·.identityKey)) "residual_sandbox_reconcile"
      "expected_live" "duplicate_identity"
    expectedByKey (byKey ++ [item]) rest

/-- A container is kept when its attempt is expected, and removed otherwise. -/
def residualAction (byKey : List ExpectedLiveAttempt) (r : ResidualSandboxObservation) :
    ResidualSandboxAction where
  disposition :=
    match byKey.find? (·.identityKey = r.identityKey) with
    | none => .orphanRemove
    | some _ => .keep
  runId := r.runId
  assignmentId := r.assignmentId
  attemptId := r.attemptId
  fence := r.fence
  containerId := some r.containerId
  requiresUnknownObservation := false

def unknownAction (e : ExpectedLiveAttempt) : ResidualSandboxAction where
  disposition := .unknown
  runId := e.runId
  assignmentId := e.assignmentId
  attemptId := e.attemptId
  fence := e.fence
  containerId := none
  requiresUnknownObservation := true

/-- No container of the attempt was observed, and no terminal fact of it is known. -/
def Silent (residuals : List ResidualSandboxObservation) (e : ExpectedLiveAttempt) : Prop :=
  e.identityKey ∉ residuals.map (·.identityKey) ∧ e.hasTerminalFacts = false

instance (residuals : List ResidualSandboxObservation) : DecidablePred (Silent residuals) :=
  fun e => inferInstanceAs (Decidable (e.identityKey ∉ _ ∧ e.hasTerminalFacts = false))

/-- The actions before they are sorted: one for each container, then those of the silent
attempts. -/
def reconcileActions (byKey : List ExpectedLiveAttempt)
    (residuals : List ResidualSandboxObservation) : List ResidualSandboxAction :=
  residuals.map (residualAction byKey) ++ (byKey.filter (Silent residuals)).map unknownAction

/-- Decide keep, remove or unknown for the sandboxes found after a restart. -/
def reconcileResidualSandboxes (expectedLive : List ExpectedLiveAttempt)
    (residuals : List ResidualSandboxObservation) : Result ResidualSandboxReconcilePlan := do
  let byKey ← expectedByKey [] expectedLive
  construct ResidualSandboxReconcilePlan.Fields.postInit ResidualSandboxReconcilePlan.mk
    ⟨Sorting.sortOn ResidualSandboxAction.sortKey (reconcileActions byKey residuals), 0, 0⟩

section
variable {byKey expectedLive expectedLive' result : List ExpectedLiveAttempt}
  {residuals residuals' : List ResidualSandboxObservation} {r r' : ResidualSandboxObservation}
  {e : ExpectedLiveAttempt} {a b : ResidualSandboxAction}

theorem expectedByKey_eq_ok (hbyKey : (byKey.map (·.identityKey)).Nodup) :
    expectedByKey byKey expectedLive = .ok result ↔
      ((byKey ++ expectedLive).map (·.identityKey)).Nodup ∧ byKey ++ expectedLive = result := by
  induction expectedLive generalizing byKey with
  | nil => simp [expectedByKey, hbyKey]
  | cons item rest ih =>
    rw [expectedByKey, then_eq_ok, invalidIf_eq_ok]
    by_cases hmem : item.identityKey ∈ byKey.map (·.identityKey)
    · constructor
      · intro h
        exact absurd hmem h.1
      · rintro ⟨hnodup, -⟩
        rw [List.map_append, List.nodup_append] at hnodup
        exact absurd rfl (hnodup.2.2 _ hmem _ (by simp))
    · have hnext : ((byKey ++ [item]).map (·.identityKey)).Nodup := by
        rw [List.map_append]
        exact List.nodup_append_comm.mp (List.nodup_cons.mpr ⟨hmem, hbyKey⟩)
      rw [ih hnext, List.append_assoc, List.singleton_append]
      exact ⟨fun h => h.2, fun h => ⟨hmem, h⟩⟩

/-- The sweep succeeds when the expected attempts are distinct, and what it answers. -/
theorem reconcileResidualSandboxes_eq_ok {plan : ResidualSandboxReconcilePlan} :
    reconcileResidualSandboxes expectedLive residuals = .ok plan ↔
      (expectedLive.map (·.identityKey)).Nodup ∧ plan.toFields =
        ⟨Sorting.sortOn ResidualSandboxAction.sortKey (reconcileActions expectedLive residuals),
          0, 0⟩ := by
  have hindex := fun result => @expectedByKey_eq_ok [] expectedLive result List.nodup_nil
  rw [reconcileResidualSandboxes, bind_eq_ok]
  simp only [hindex, List.nil_append, construct_eq_ok]
  constructor
  · rintro ⟨_, ⟨hnodup, rfl⟩, -, rfl⟩
    exact ⟨hnodup, rfl⟩
  · rintro ⟨hnodup, hfields⟩
    obtain ⟨fields, haccepted⟩ := plan
    obtain rfl : fields = _ := hfields
    exact ⟨_, ⟨hnodup, rfl⟩, haccepted, rfl⟩

theorem residualAction_disposition : (residualAction byKey r).disposition =
    if r.identityKey ∈ byKey.map (·.identityKey) then .keep else .orphanRemove := by
  rw [residualAction]
  cases hfind : byKey.find? (·.identityKey = r.identityKey) with
  | none =>
    have hnone : r.identityKey ∉ byKey.map (·.identityKey) := by
      intro hmem
      obtain ⟨e, he, hkey⟩ := List.mem_map.mp hmem
      exact Keyed.find_none hfind e he hkey
    rw [if_neg hnone]
  | some e =>
    obtain ⟨he, hkey⟩ := Keyed.find_some hfind
    rw [if_pos (hkey ▸ List.mem_map_of_mem he)]

theorem residualAction_known : (residualAction byKey r).disposition ≠ .unknown := by
  rw [residualAction_disposition]
  split <;> simp

/-- The action for a container depends on its identity, its container and who is expected. -/
theorem residualAction_congr (hkey : r.identityKey = r'.identityKey)
    (hcontainer : r.containerId = r'.containerId)
    (hexpected : r.identityKey ∈ expectedLive.map (·.identityKey) ↔
      r.identityKey ∈ expectedLive'.map (·.identityKey)) :
    residualAction expectedLive r = residualAction expectedLive' r' := by
  have hdisposition : (residualAction expectedLive r).disposition =
      (residualAction expectedLive' r').disposition := by
    rw [residualAction_disposition, residualAction_disposition, ← hkey]
    simp only [hexpected]
  simp only [ResidualSandboxObservation.identityKey, Prod.mk.injEq] at hkey
  obtain ⟨hrun, hassignment, hattempt, hfence⟩ := hkey
  simp only [residualAction] at hdisposition
  simp only [residualAction, hdisposition, hrun, hassignment, hattempt, hfence, hcontainer]

theorem ResidualSandboxDisposition.value_injective : Function.Injective value := by
  intro d d' h
  cases d <;> cases d' <;> first | rfl | exact absurd h (by decide)

theorem ResidualSandboxAction.sortKey_inj :
    a.sortKey = b.sortKey ↔ a.identityKey = b.identityKey ∧ a.disposition = b.disposition := by
  simp only [sortKey, identityKey, EmbeddingLike.apply_eq_iff_eq, Prod.mk.injEq,
    ResidualSandboxDisposition.value_injective.eq_iff, and_assoc]

theorem mem_reconcileActions : a ∈ reconcileActions expectedLive residuals ↔
    (∃ r ∈ residuals, a = residualAction expectedLive r) ∨
      ∃ e ∈ expectedLive, Silent residuals e ∧ a = unknownAction e := by
  simp only [reconcileActions, List.mem_append, List.mem_map, List.mem_filter,
    decide_eq_true_eq, and_assoc, eq_comm (a := a)]

/-- No two containers of one attempt. -/
def OneContainerEach (residuals : List ResidualSandboxObservation) : Prop :=
  ∀ r ∈ residuals, ∀ r' ∈ residuals, r.identityKey = r'.identityKey →
    r.containerId = r'.containerId

/-- With one container each, the key of an action names the action. -/
theorem reconcileActions_inj (hnodup : (expectedLive.map (·.identityKey)).Nodup)
    (hone : OneContainerEach residuals) (ha : a ∈ reconcileActions expectedLive residuals)
    (hb : b ∈ reconcileActions expectedLive residuals) (hkey : a.sortKey = b.sortKey) : a = b := by
  obtain ⟨hidentity, hdisposition⟩ := ResidualSandboxAction.sortKey_inj.mp hkey
  rcases mem_reconcileActions.mp ha with ⟨r, hr, rfl⟩ | ⟨e, he, -, rfl⟩
  · rcases mem_reconcileActions.mp hb with ⟨r', hr', rfl⟩ | ⟨e', he', -, rfl⟩
    · exact residualAction_congr hidentity (hone r hr r' hr' hidentity) Iff.rfl
    · exact absurd hdisposition residualAction_known
  · rcases mem_reconcileActions.mp hb with ⟨r', hr', rfl⟩ | ⟨e', he', -, rfl⟩
    · exact absurd hdisposition.symm residualAction_known
    · rw [Keyed.eq_of_key hnodup he he' hidentity]

theorem silent_congr (h : residuals'.Perm residuals) :
    Silent residuals' e ↔ Silent residuals e := by
  rw [Silent, Silent, (h.map _).mem_iff]

/-- The actions of rearranged lists are the same ones, rearranged. -/
theorem reconcileActions_perm (hexpected : expectedLive'.Perm expectedLive)
    (hresiduals : residuals'.Perm residuals) :
    (reconcileActions expectedLive' residuals').Perm (reconcileActions expectedLive residuals) := by
  apply List.Perm.append
  · have hsame : residualAction expectedLive' = residualAction expectedLive := by
      funext r
      exact residualAction_congr rfl rfl (hexpected.map _).mem_iff
    rw [hsame]
    exact hresiduals.map _
  · have hsame : expectedLive'.filter (fun e => decide (Silent residuals' e)) =
        expectedLive'.filter fun e => decide (Silent residuals e) := by
      apply List.filter_congr
      intro e _
      exact decide_eq_decide.mpr (silent_congr hresiduals)
    rw [hsame]
    exact (hexpected.filter _).map _

/-- The action a container calls for. -/
structure Answers (expectedLive : List ExpectedLiveAttempt) (r : ResidualSandboxObservation)
    (a : ResidualSandboxAction) : Prop where
  identity : a.identityKey = r.identityKey
  container : a.containerId = some r.containerId
  disposition : a.disposition =
    if r.identityKey ∈ expectedLive.map (·.identityKey) then .keep else .orphanRemove

/-- What a plan owes to the attempts and the containers it is made for. -/
structure SettlesSandboxes (expectedLive : List ExpectedLiveAttempt)
    (residuals : List ResidualSandboxObservation) (plan : ResidualSandboxReconcilePlan) :
    Prop where
  residual : ∃ answers others, plan.actions.Perm (answers ++ others) ∧
    List.Forall₂ (Answers expectedLive) residuals answers ∧ ∀ a ∈ others, a.disposition = .unknown
  unknown : ∀ e ∈ expectedLive, Silent residuals e →
    plan.actions.filter (fun a => a.disposition = .unknown ∧ a.identityKey = e.identityKey) =
      [unknownAction e]
  silent : ∀ a ∈ plan.actions, a.disposition = .unknown →
    ∃ e ∈ expectedLive, Silent residuals e ∧ a = unknownAction e
  single : ∀ a ∈ plan.actions, ∀ b ∈ plan.actions, a.disposition = .keep →
    b.disposition = .keep → a.identityKey = b.identityKey → a.containerId = b.containerId
  unordered : ∀ expectedLive' residuals', expectedLive'.Perm expectedLive →
    residuals'.Perm residuals → reconcileResidualSandboxes expectedLive' residuals' = .ok plan

theorem answers_residualAction : Answers expectedLive r (residualAction expectedLive r) :=
  ⟨rfl, rfl, residualAction_disposition⟩

section
variable {plan : ResidualSandboxReconcilePlan}

theorem actions_perm (h : reconcileResidualSandboxes expectedLive residuals = .ok plan) :
    plan.actions.Perm (reconcileActions expectedLive residuals) := by
  rw [(reconcileResidualSandboxes_eq_ok.mp h).2]
  exact Sorting.sortOn_perm _ _

theorem mem_actions (h : reconcileResidualSandboxes expectedLive residuals = .ok plan) :
    a ∈ plan.actions ↔ (∃ r ∈ residuals, a = residualAction expectedLive r) ∨
      ∃ e ∈ expectedLive, Silent residuals e ∧ a = unknownAction e := by
  rw [(actions_perm h).mem_iff, mem_reconcileActions]

/-- A silent attempt has one unknown action. -/
theorem filter_unknown (h : reconcileResidualSandboxes expectedLive residuals = .ok plan)
    (he : e ∈ expectedLive) (hsilent : Silent residuals e) :
    plan.actions.filter (fun a => a.disposition = .unknown ∧ a.identityKey = e.identityKey) =
      [unknownAction e] := by
  apply List.perm_singleton.mp
  refine ((actions_perm h).filter _).trans ?_
  have hcontainers : (residuals.map (residualAction expectedLive)).filter
      (fun a => a.disposition = .unknown ∧ a.identityKey = e.identityKey) = [] := by
    apply List.filter_eq_nil_iff.mpr
    intro a ha
    obtain ⟨r, -, rfl⟩ := List.mem_map.mp ha
    simp [residualAction_known]
  have hsame : ((expectedLive.filter (Silent residuals)).map unknownAction).filter
      (fun a => a.disposition = .unknown ∧ a.identityKey = e.identityKey) =
      ((expectedLive.filter (·.identityKey = e.identityKey)).filter (Silent residuals)).map
        unknownAction := by
    rw [List.filter_map, List.filter_filter, List.filter_filter]
    congr 1
    apply List.filter_congr
    intro x _
    have hidentity : (unknownAction x).identityKey = x.identityKey := rfl
    have hdisposition : (unknownAction x).disposition = .unknown := rfl
    simp [hidentity, hdisposition, Bool.and_comm]
  rw [reconcileActions, List.filter_append, hcontainers, hsame,
    Keyed.filter_of_mem (reconcileResidualSandboxes_eq_ok.mp h).1 he]
  simp [hsilent]

/-- A sweep with one container each owes nothing. -/
theorem settles_of_oneContainerEach
    (h : reconcileResidualSandboxes expectedLive residuals = .ok plan)
    (hone : OneContainerEach residuals) : SettlesSandboxes expectedLive residuals plan := by
  obtain ⟨hnodup, hfields⟩ := reconcileResidualSandboxes_eq_ok.mp h
  refine ⟨?_, fun e he hsilent => filter_unknown h he hsilent, ?_, ?_, ?_⟩
  · refine ⟨_, _, actions_perm h, ?_, ?_⟩
    · rw [List.forall₂_map_right_iff]
      exact List.forall₂_same.mpr fun r _ => answers_residualAction
    · intro a ha
      obtain ⟨e, -, rfl⟩ := List.mem_map.mp ha
      rfl
  · intro a ha hunknown
    rcases (mem_actions h).mp ha with ⟨r, -, rfl⟩ | hsilent
    · exact absurd hunknown residualAction_known
    · exact hsilent
  · intro a ha b hb hkeep hkeep' hidentity
    have heq : a = b := by
      apply reconcileActions_inj hnodup hone ((actions_perm h).mem_iff.mp ha)
        ((actions_perm h).mem_iff.mp hb)
      exact ResidualSandboxAction.sortKey_inj.mpr ⟨hidentity, hkeep.trans hkeep'.symm⟩
    rw [heq]
  · intro expectedLive' residuals' hexpected hresiduals
    rw [reconcileResidualSandboxes_eq_ok, hfields]
    refine ⟨(hexpected.map _).nodup_iff.mpr hnodup, ?_⟩
    rw [Sorting.sortOn_eq_of_inj (reconcileActions_perm hexpected hresiduals).symm
      fun a ha b hb => reconcileActions_inj hnodup hone ha hb]

/-- The first container of an attempt has the first action of the attempt. -/
theorem find_actions_cons
    (h : reconcileResidualSandboxes expectedLive (r :: residuals) = .ok plan) :
    plan.actions.find? (·.sortKey = (residualAction expectedLive r).sortKey) =
      some (residualAction expectedLive r) := by
  rw [(reconcileResidualSandboxes_eq_ok.mp h).2]
  exact Sorting.find_sortOn_cons _ _

/-- A plan that every order of the containers gives has one container each. -/
theorem oneContainerEach_of_unordered (hunordered : ∀ residuals', residuals'.Perm residuals →
      reconcileResidualSandboxes expectedLive residuals' = .ok plan) :
    OneContainerEach residuals := by
  intro r hr r' hr' hidentity
  have hfirst := find_actions_cons (hunordered _ (List.perm_cons_erase hr).symm)
  have hfirst' := find_actions_cons (hunordered _ (List.perm_cons_erase hr').symm)
  have hkey :
      (residualAction expectedLive r).sortKey = (residualAction expectedLive r').sortKey := by
    rw [ResidualSandboxAction.sortKey_inj, residualAction_disposition, residualAction_disposition,
      hidentity]
    exact ⟨hidentity, rfl⟩
  rw [hkey, hfirst'] at hfirst
  have hcontainer := congrArg ResidualSandboxAction.containerId (Option.some.inj hfirst)
  exact (Option.some.inj hcontainer).symm

end

/-- For distinct expected attempts the sweep answers a plan, and the plan settles every container
and attempt exactly when no attempt has two containers. -/
theorem reconcile_settles_iff (h : (expectedLive.map (·.identityKey)).Nodup) :
    ∃ plan, reconcileResidualSandboxes expectedLive residuals = .ok plan ∧
      (SettlesSandboxes expectedLive residuals plan ↔ OneContainerEach residuals) := by
  let plan : ResidualSandboxReconcilePlan := ⟨⟨Sorting.sortOn ResidualSandboxAction.sortKey
    (reconcileActions expectedLive residuals), 0, 0⟩, rfl⟩
  have hplan : reconcileResidualSandboxes expectedLive residuals = .ok plan :=
    reconcileResidualSandboxes_eq_ok.mpr ⟨h, rfl⟩
  refine ⟨plan, hplan, fun hsettles => ?_, settles_of_oneContainerEach hplan⟩
  apply oneContainerEach_of_unordered
  intro residuals' hresiduals
  exact hsettles.unordered _ _ (.refl _) hresiduals

end

namespace OneAttempt

theorem expected_accepted : (⟨"run-1", "assignment-1", "attempt-1", 1, "start-1", false⟩ :
    ExpectedLiveAttempt.Fields).postInit = .ok () := by decide

def expected : ExpectedLiveAttempt :=
  ⟨⟨"run-1", "assignment-1", "attempt-1", 1, "start-1", false⟩, expected_accepted⟩

theorem first_accepted : (⟨"container-1", "run-1", "assignment-1", "attempt-1", 1, "worker-1", 1,
    "start-1", true⟩ : ResidualSandboxObservation.Fields).postInit = .ok () := by decide

theorem second_accepted : (⟨"container-2", "run-1", "assignment-1", "attempt-1", 1, "worker-1", 1,
    "start-1", true⟩ : ResidualSandboxObservation.Fields).postInit = .ok () := by decide

def first : ResidualSandboxObservation :=
  ⟨⟨"container-1", "run-1", "assignment-1", "attempt-1", 1, "worker-1", 1, "start-1", true⟩,
    first_accepted⟩

/-- Another container with the labels of the first one. -/
def second : ResidualSandboxObservation :=
  ⟨⟨"container-2", "run-1", "assignment-1", "attempt-1", 1, "worker-1", 1, "start-1", true⟩,
    second_accepted⟩

theorem silent_accepted : (⟨"run-1", "assignment-2", "attempt-2", 1, "start-2", false⟩ :
    ExpectedLiveAttempt.Fields).postInit = .ok () := by decide

/-- An attempt without a container. -/
def silent : ExpectedLiveAttempt :=
  ⟨⟨"run-1", "assignment-2", "attempt-2", 1, "start-2", false⟩, silent_accepted⟩

theorem stray_accepted : (⟨"container-3", "run-0", "assignment-0", "attempt-0", 2, "worker-1", 1,
    "start-0", true⟩ : ResidualSandboxObservation.Fields).postInit = .ok () := by decide

/-- A container of an attempt that is not expected. -/
def stray : ResidualSandboxObservation :=
  ⟨⟨"container-3", "run-0", "assignment-0", "attempt-0", 2, "worker-1", 1, "start-0", true⟩,
    stray_accepted⟩

def kept (container : String) : ResidualSandboxAction :=
  ⟨.keep, "run-1", "assignment-1", "attempt-1", 1, some container, false⟩

end OneAttempt

open OneAttempt

theorem reconcile_settles_iff_two :
    ∃ plan, reconcileResidualSandboxes [silent, expected] [first, stray] = .ok plan ∧
      SettlesSandboxes [silent, expected] [first, stray] plan := by
  have hnodup : ([silent, expected].map (·.identityKey)).Nodup := by decide
  have hone : OneContainerEach [first, stray] := by
    unfold OneContainerEach
    decide
  obtain ⟨plan, hplan, hsettles⟩ := reconcile_settles_iff hnodup
  exact ⟨plan, hplan, hsettles.mpr hone⟩

/-- The order of the plan is that of the identities. -/
example : (reconcileResidualSandboxes [silent, expected] [first, stray]).map (·.actions) =
    .ok [⟨.orphanRemove, "run-0", "assignment-0", "attempt-0", 2, some "container-3", false⟩,
      kept "container-1", unknownAction silent] := by
  decide +kernel

/-- Two containers of one expected attempt are both kept, in the order they come in. -/
theorem both_kept :
    (reconcileResidualSandboxes [expected] [first, second]).map (·.actions) =
      .ok [kept "container-1", kept "container-2"] ∧
    (reconcileResidualSandboxes [expected] [second, first]).map (·.actions) =
      .ok [kept "container-2", kept "container-1"] ∧
    ¬ ∃ plan, reconcileResidualSandboxes [expected] [first, second] = .ok plan ∧
      SettlesSandboxes [expected] [first, second] plan := by
  have hfirst : (reconcileResidualSandboxes [expected] [first, second]).map (·.actions) =
      .ok [kept "container-1", kept "container-2"] := by decide +kernel
  refine ⟨hfirst, by decide +kernel, ?_⟩
  rintro ⟨plan, hplan, hsettles⟩
  rw [hplan] at hfirst
  have hactions : plan.actions = [kept "container-1", kept "container-2"] := Except.ok.inj hfirst
  have hsame := hsettles.single (kept "container-1") (by simp [hactions]) (kept "container-2")
    (by simp [hactions]) rfl rfl rfl
  exact absurd hsame (by decide)

end QaRunner
