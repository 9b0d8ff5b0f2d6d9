import QaRunner.Domain.Worker
import QaRunner.Lib.Components
import QaRunner.Lib.JsonText

/-! Execution admission, the workspaces of attempts, and which workspaces are isolated from each
other. -/
namespace QaRunner
open Guarded Components

structure CommitStartProof.Fields where
  runId : String
  assignmentId : String
  attemptId : String
  fence : ℤ
  startCommitKey : String
  worker : WorkerRef
  specDigest : Digest
  committedAt : Datetime
  deriving DecidableEq

def CommitStartProof.Fields.postInit (p : CommitStartProof.Fields) : Result Unit := do
  each [("run_id", p.runId), ("assignment_id", p.assignmentId), ("attempt_id", p.attemptId),
    ("start_commit_key", p.startCommitKey)] fun f =>
    invalidIf (isBlank f.2) "commit_start_proof" f.1 "invalid"
  invalidIf (p.fence < 1) "commit_start_proof" "fence" "invalid"
  requireUtc "commit_start_proof" "committed_at" p.committedAt

/-- Durable identity returned by commit-start before a sandbox may exist. -/
structure CommitStartProof extends CommitStartProof.Fields where
  accepted : toFields.postInit = .ok ()
  deriving DecidableEq

/-- Admit sandbox creation only with a durable commit-start proof. -/
def requireExecutionAdmission (proof : CommitStartProof) : Result CommitStartProof := do
  raiseIf (proof.fence < 1) (.executionAdmission "invalid_fence")
  return proof

/-- Relative workspace path of the attempt. -/
def workspaceSubpathForProof (proof : CommitStartProof) : Result String := do
  let admitted ← requireExecutionAdmission proof
  return admitted.runId ++ "/" ++ admitted.assignmentId ++ "/" ++ admitted.attemptId ++ "/" ++
    toString admitted.fence

inductive PathError where
  | unsafePath (relative : String) (root : List (List Char))
  | embeddedNullByte
  deriving DecidableEq

/-- Resolve a path under a root and refuse one that escapes it; an absolute path replaces the root.
No component is a symbolic link. -/
def safeSubpath (root : List (List Char)) (relative : String) :
    Except PathError (List (List Char)) := do
  raiseIf (Char.ofNat 0 ∈ relative.toList) .embeddedNullByte
  let start := if relative.toList.head? = some '/' then [] else root
  let resolved := resolve start (components relative.toList)
  raiseIf (¬ root <+: resolved) (.unsafePath relative root)
  return resolved

/-- The components of an id that stands in a path. -/
def segments (id : String) : List (List Char) := components id.toList

namespace CommitStartProof
variable {p q : CommitStartProof}

/-- The ids that the workspace is named by. -/
def ids (p : CommitStartProof) : List String := [p.runId, p.assignmentId, p.attemptId]

/-- The segments of the ids, then the fence. -/
def route (p : CommitStartProof) : List (List Char) :=
  p.ids.flatMap segments ++ [(toString p.fence).toList]

/-- Every segment of the ids names a directory. -/
def PlainIds (p : CommitStartProof) : Prop := ∀ id ∈ p.ids, Plain (segments id)

/-- Ids that correspond have as many segments. -/
def SameShape (p q : CommitStartProof) : Prop :=
  p.ids.map (fun id => (segments id).length) = q.ids.map fun id => (segments id).length

/-- The attempt and the fence are the same. -/
def SameAttempt (p q : CommitStartProof) : Prop :=
  p.runId = q.runId ∧ p.assignmentId = q.assignmentId ∧ p.attemptId = q.attemptId ∧
    p.fence = q.fence

theorem fence_pos (p : CommitStartProof) : 1 ≤ p.fence := by
  have haccepted := p.accepted
  simp only [Fields.postInit, then_eq_ok, invalidIf_eq_ok] at haccepted
  exact Int.not_lt.mp haccepted.2.1

/-- The path of an attempt, which always exists. -/
def path (p : CommitStartProof) : String :=
  p.runId ++ "/" ++ p.assignmentId ++ "/" ++ p.attemptId ++ "/" ++ toString p.fence

theorem workspaceSubpathForProof_eq (p : CommitStartProof) :
    workspaceSubpathForProof p = .ok p.path := by
  have hfence : ¬ p.fence < 1 := Int.not_lt.mpr p.fence_pos
  rw [workspaceSubpathForProof, requireExecutionAdmission, raiseIf_of_not hfence]
  rfl

theorem segments_injective {s t : String} (h : segments s = segments t) : s = t := by
  have hjoin := congrArg (List.intercalate ['/']) h
  rw [segments, segments, components, components, List.intercalate_splitOn,
    List.intercalate_splitOn] at hjoin
  exact String.toList_injective hjoin

theorem fence_not_slash (n : ℤ) : '/' ∉ (toString n).toList := by
  intro h
  exact absurd (Json.isNumeric_of_mem h) (by decide)

/-- The components of the path of an attempt are its route. -/
theorem components_path (p : CommitStartProof) : components p.path.toList = p.route := by
  have hslash : "/".toList = ['/'] := rfl
  simp only [path, route, ids, String.toList_append, hslash, List.append_assoc,
    List.nil_append, List.cons_append, components, segments, List.splitOn_append_cons_self,
    List.splitOn_eq_singleton (fence_not_slash _), List.flatMap_cons, List.flatMap_nil,
    List.append_nil]

theorem path_eq_iff : p.path = q.path ↔ p.route = q.route := by
  constructor
  · intro h
    rw [← components_path, h, components_path]
  · intro h
    rw [← components_path, ← components_path] at h
    have hjoin := congrArg (List.intercalate ['/']) h
    rw [components, components, List.intercalate_splitOn, List.intercalate_splitOn] at hjoin
    exact String.toList_injective hjoin

theorem plain_fence (n : ℤ) : (toString n).toList ∉ special := by
  intro h
  simp only [special, List.mem_cons, List.not_mem_nil, or_false] at h
  rcases h with h | h | h
  · exact Json.toString_int_ne_nil n h
  · exact absurd (Json.isNumeric_of_mem (h ▸ List.mem_cons_self)) (by decide)
  · exact absurd (Json.isNumeric_of_mem (h ▸ List.mem_cons_self)) (by decide)

theorem plain_route_iff : Plain p.route ↔ p.PlainIds := by
  constructor
  · intro h id hid c hc
    exact h c (List.mem_append_left _ (List.mem_flatMap.mpr ⟨id, hid, hc⟩))
  · intro h c hc
    rcases List.mem_append.mp hc with hc | hc
    · obtain ⟨id, hid, hc⟩ := List.mem_flatMap.mp hc
      exact h id hid c hc
    · rw [List.mem_singleton.mp hc]
      exact plain_fence _

theorem SameAttempt.route (h : SameAttempt p q) : p.route = q.route := by
  obtain ⟨hrun, hassignment, hattempt, hfence⟩ := h
  simp only [CommitStartProof.route, ids, hrun, hassignment, hattempt, hfence]

theorem SameAttempt.shape (h : SameAttempt p q) : SameShape p q := by
  obtain ⟨hrun, hassignment, hattempt, -⟩ := h
  simp only [SameShape, ids, hrun, hassignment, hattempt]

/-- Among routes of one shape a prefix is the whole, and names the attempt. -/
theorem SameShape.sameAttempt (h : SameShape p q) (hroute : p.route <+: q.route) :
    SameAttempt p q := by
  simp only [SameShape, ids, List.map_cons, List.map_nil, List.cons.injEq, and_true] at h
  obtain ⟨hrun, hassignment, hattempt⟩ := h
  have heq : p.route = q.route := by
    apply hroute.eq_of_length
    simp only [CommitStartProof.route, ids, List.flatMap_cons, List.flatMap_nil, List.length_append,
      List.length_nil, List.length_singleton, hrun, hassignment, hattempt]
  simp only [CommitStartProof.route, ids, List.flatMap_cons, List.flatMap_nil, List.append_nil,
    List.append_assoc] at heq
  obtain ⟨hrun', heq⟩ := List.append_inj heq hrun
  obtain ⟨hassignment', heq⟩ := List.append_inj heq hassignment
  obtain ⟨hattempt', hfence⟩ := List.append_inj heq hattempt
  exact ⟨segments_injective hrun', segments_injective hassignment', segments_injective hattempt',
    Int.repr_injective (String.toList_inj.mp (List.singleton_inj.mp hfence))⟩

theorem sameShape_comm : SameShape p q ↔ SameShape q p := eq_comm

/-- Where a plain path leads from a root. -/
theorem safeSubpath_of_plain {root dir : List (List Char)} (hplain : p.PlainIds)
    (h : safeSubpath root p.path = .ok dir) : dir = root ++ p.route := by
  have hroute : Plain p.route := plain_route_iff.mpr hplain
  simp only [safeSubpath, then_eq_ok, pure_eq_ok, components_path] at h
  rw [← h.2.2]
  split
  · next habsolute =>
    -- the first component of an absolute path is empty
    obtain ⟨rest, hrest⟩ := List.head?_eq_some_iff.mp habsolute
    have hempty : [] ∈ p.route := by
      rw [← components_path, components, hrest, List.splitOn_cons_eq_if_modifyHead]
      simp
    exact absurd (hroute [] hempty) (by simp [special])
  · exact resolve_of_plain hroute

/-- The workspaces of two attempts, at their paths, are isolated. -/
structure Isolated (p q : CommitStartProof) (path path' : String) : Prop where
  injective : path = path' → SameAttempt p q
  outside : ¬ (components path.toList <+: components path'.toList ∧
    components path.toList ≠ components path'.toList)
  outside' : ¬ (components path'.toList <+: components path.toList ∧
    components path'.toList ≠ components path.toList)
  plain : ∀ c ∈ components path.toList ++ components path'.toList, c ∉ special
  apart : ∀ root dir dir', safeSubpath root path = .ok dir → safeSubpath root path' = .ok dir' →
    dir <+: dir' ∨ dir' <+: dir → SameAttempt p q

theorem eq_of_initial {xs ys : List (List Char)} (h : ¬ (xs <+: ys ∧ xs ≠ ys))
    (hinitial : xs <+: ys) : xs = ys := by
  by_contra hne
  exact h ⟨hinitial, hne⟩

theorem Isolated.plainIds (h : Isolated p q p.path q.path) : p.PlainIds ∧ q.PlainIds := by
  have hplain := h.plain
  rw [components_path, components_path] at hplain
  rw [← plain_route_iff, ← plain_route_iff]
  exact List.forall_mem_append.mp hplain

/-- Isolated attempts that do not diverge are one attempt. -/
theorem Isolated.shape_or_diverge (h : Isolated p q p.path q.path) :
    SameShape p q ∨ Diverge p.route q.route := by
  by_cases hdiverge : Diverge p.route q.route
  · exact Or.inr hdiverge
  · left
    have hforward := h.outside
    have hback := h.outside'
    rw [components_path, components_path] at hforward hback
    have hroute : p.route = q.route := by
      rcases continues_or_continues hdiverge with hinitial | hinitial
      · exact eq_of_initial hforward hinitial
      · exact (eq_of_initial hback hinitial).symm
    exact (h.injective (path_eq_iff.mpr hroute)).shape

/-- Routes of which one continues the other belong to one attempt. -/
theorem sameAttempt_of_initial (h : SameShape p q ∨ Diverge p.route q.route)
    (hinitial : p.route <+: q.route ∨ q.route <+: p.route) : SameAttempt p q := by
  rcases h with hshape | hdiverge
  · rcases hinitial with hinitial | hinitial
    · exact hshape.sameAttempt hinitial
    · obtain ⟨hrun, hassignment, hattempt, hfence⟩ :=
        (sameShape_comm.mp hshape).sameAttempt hinitial
      exact ⟨hrun.symm, hassignment.symm, hattempt.symm, hfence.symm⟩
  · obtain ⟨hforward, hback⟩ := diverge_iff.mp hdiverge
    exact (hinitial.elim hforward hback).elim

theorem isolated_of_plain (hp : p.PlainIds) (hq : q.PlainIds)
    (h : SameShape p q ∨ Diverge p.route q.route) : Isolated p q p.path q.path := by
  refine ⟨fun hpath => ?_, ?_, ?_, ?_, fun root dir dir' hdir hdir' hinitial => ?_⟩
  · have hroute := path_eq_iff.mp hpath
    exact sameAttempt_of_initial h (Or.inl (hroute ▸ List.prefix_rfl))
  · rw [components_path, components_path]
    rintro ⟨hinitial, hne⟩
    exact hne (sameAttempt_of_initial h (Or.inl hinitial)).route
  · rw [components_path, components_path]
    rintro ⟨hinitial, hne⟩
    exact hne (sameAttempt_of_initial h (Or.inr hinitial)).route.symm
  · rw [components_path, components_path]
    exact List.forall_mem_append.mpr ⟨plain_route_iff.mpr hp, plain_route_iff.mpr hq⟩
  · rw [safeSubpath_of_plain hp hdir, safeSubpath_of_plain hq hdir',
      List.prefix_append_right_inj, List.prefix_append_right_inj] at hinitial
    exact sameAttempt_of_initial h hinitial

end CommitStartProof

open CommitStartProof

/-- Two attempts have isolated workspaces exactly when every segment of their ids names a directory,
and either their ids have as many segments each or the segments differ at a position of both. -/
theorem workspace_isolated_iff (p q : CommitStartProof) :
    ∃ path path', workspaceSubpathForProof p = .ok path ∧
      workspaceSubpathForProof q = .ok path' ∧
      (Isolated p q path path' ↔
        p.PlainIds ∧ q.PlainIds ∧ (SameShape p q ∨ Diverge p.route q.route)) := by
  refine ⟨p.path, q.path, workspaceSubpathForProof_eq p, workspaceSubpathForProof_eq q, ?_⟩
  constructor
  · intro h
    exact ⟨h.plainIds.1, h.plainIds.2, h.shape_or_diverge⟩
  · rintro ⟨hp, hq, h⟩
    exact isolated_of_plain hp hq h

namespace OneCommit

theorem worker_accepted : (⟨"worker-1", 1⟩ : WorkerRef.Fields).postInit = .ok () := rfl

def fields (runId assignmentId attemptId : String) (fence : ℤ) : CommitStartProof.Fields where
  runId := runId
  assignmentId := assignmentId
  attemptId := attemptId
  fence := fence
  startCommitKey := "start-1"
  worker := ⟨⟨"worker-1", 1⟩, worker_accepted⟩
  specDigest := Digest.zero
  committedAt := ⟨0, some 0⟩

theorem nested_accepted : (fields "a" "b/c" "d" 1).postInit = .ok () := by decide

theorem other_accepted : (fields "a/b" "c" "d" 1).postInit = .ok () := by decide

theorem outer_accepted : (fields "a" "b" "c" 1).postInit = .ok () := by decide

theorem inner_accepted : (fields "a" "b" "c/1" 5).postInit = .ok () := by decide

theorem upward_accepted : (fields ".." "a" "b" 1).postInit = .ok () := by decide

end OneCommit

open OneCommit

/-- Two runs with one path, an attempt whose path lies in the path of another, and a path with a
component that leads upwards. -/
theorem workspaces_overlap :
    workspaceSubpathForProof ⟨_, nested_accepted⟩ = .ok "a/b/c/d/1" ∧
    workspaceSubpathForProof ⟨_, other_accepted⟩ = .ok "a/b/c/d/1" ∧
    workspaceSubpathForProof ⟨_, outer_accepted⟩ = .ok "a/b/c/1" ∧
    workspaceSubpathForProof ⟨_, inner_accepted⟩ = .ok "a/b/c/1/5" ∧
    workspaceSubpathForProof ⟨_, upward_accepted⟩ = .ok "../a/b/1" ∧
    ¬ ∀ (p q : CommitStartProof) (path path' : String), workspaceSubpathForProof p = .ok path →
      workspaceSubpathForProof q = .ok path' → Isolated p q path path' := by
  have hnested : workspaceSubpathForProof ⟨_, nested_accepted⟩ = .ok "a/b/c/d/1" := by decide
  have hother : workspaceSubpathForProof ⟨_, other_accepted⟩ = .ok "a/b/c/d/1" := by decide
  refine ⟨hnested, hother, by decide, by decide, by decide, fun h => ?_⟩
  have hrun := ((h _ _ _ _ hnested hother).injective rfl).1
  exact absurd hrun (by decide)

end QaRunner
