import QaRunner.Domain.Suite
import QaRunner.Lib.Aggregate

/-! The lifecycle of a Suite: registration, revisions that are appended, and retirement. Over
every run of these commands the history only grows, the version counts the changes, and a retired
Suite stays as it was retired. -/
namespace QaRunner
open Guarded Aggregate

def SuiteRevision.new : SuiteRevision.Fields → Result SuiteRevision :=
  construct SuiteRevision.Fields.postInit SuiteRevision.mk

theorem SuiteRevision.new_eq_ok {f : Fields} {r : SuiteRevision} :
    new f = .ok r ↔ r.toFields = f := by
  simp only [new, construct_eq_ok]
  constructor
  · rintro ⟨_, rfl⟩
    rfl
  · rintro rfl
    exact ⟨r.accepted, rfl⟩

/-- How many of its versions a Suite owes to its retirement. -/
def SuiteStatus.changes : SuiteStatus → ℤ
  | .active => 0
  | .retired => 1

namespace Suite

def new : Fields → Result Suite := construct Fields.postInit mk

/-- The content of a revision, as registration and publication take it. -/
structure RevisionContent where
  revisionId : String
  sourceSpecDigest : Digest
  configDigest : Digest
  framework : String
  resourceProfileId : String
  createdAt : Datetime

/-- The approved revision with a content and a number. -/
def RevisionContent.revision (c : RevisionContent) (suiteId : String) (revisionNo : ℤ) :
    SuiteRevision.Fields :=
  { id := c.revisionId
    suiteId := suiteId
    revisionNo := revisionNo
    sourceSpecDigest := c.sourceSpecDigest
    configDigest := c.configDigest
    framework := c.framework
    resourceProfileId := c.resourceProfileId
    status := .approved
    createdAt := c.createdAt }

/-- Create a Suite with its first approved revision. -/
def register (suiteId projectId name : String) (content : RevisionContent) : Result Suite := do
  let revision ← SuiteRevision.new (content.revision suiteId 1)
  new
    { id := suiteId
      projectId := projectId
      name := name
      status := .active
      version := 0
      revisions := [revision]
      currentRevisionId := content.revisionId }

def ensureVersion (s : Suite) (expectedVersion : ℤ) : Result Unit :=
  ensureExpectedVersion "suite" s.id s.version expectedVersion

/-- Append a new immutable revision; never rewrites historical rows. -/
def publishRevision (s : Suite) (content : RevisionContent) (expectedVersion : ℤ) :
    Result Suite := do
  s.ensureVersion expectedVersion
  s.requireAcceptsNewBatch
  raiseIf (∃ item ∈ s.revisions, item.id = content.revisionId)
    (.suiteConflict s.id "revision_id_reused")
  let revision ← SuiteRevision.new (content.revision s.id (s.revisions.length + 1))
  new { s.toFields with
    revisions := s.revisions ++ [revision]
    currentRevisionId := content.revisionId
    version := s.version + 1 }

/-- Retire the Suite so new Batch binding is rejected; history remains. -/
def retire (s : Suite) (retiredAt : Datetime) (expectedVersion : ℤ) : Result Suite := do
  s.ensureVersion expectedVersion
  raiseIf (s.status = .retired) (.suiteConflict s.id "suite_already_retired")
  requireUtc "suite" "retired_at" retiredAt
  new { s.toFields with
    status := .retired
    retiredAt := some retiredAt
    version := s.version + 1 }

/-- The state-changing operations of a Suite with their arguments. -/
inductive Command where
  | publishRevision (content : RevisionContent) (expectedVersion : ℤ)
  | retire (retiredAt : Datetime) (expectedVersion : ℤ)

def exec (s : Suite) : Command → Result Suite
  | .publishRevision content v => s.publishRevision content v
  | .retire retiredAt v => s.retire retiredAt v

variable {s s' s'' : Suite} {v : ℤ} {content : RevisionContent}

theorem new_eq_ok {f : Fields} : new f = .ok s ↔ s.toFields = f := by
  simp only [new, construct_eq_ok]
  constructor
  · rintro ⟨_, rfl⟩
    rfl
  · rintro rfl
    exact ⟨s.accepted, rfl⟩

theorem status_active_iff : s.status ≠ .retired ↔ s.status = .active := by
  cases s.status <;> simp

theorem register_eq_ok {suiteId projectId name : String} :
    register suiteId projectId name content = .ok s ↔
      ∃ revision, revision.toFields = content.revision suiteId 1 ∧ s.toFields =
        { id := suiteId
          projectId := projectId
          name := name
          status := .active
          version := 0
          revisions := [revision]
          currentRevisionId := content.revisionId } := by
  simp only [register, bind_eq_ok, SuiteRevision.new_eq_ok, new_eq_ok]

theorem publishRevision_eq_ok : s.publishRevision content v = .ok s' ↔
    (0 ≤ v ∧ v = s.version) ∧ s.status = .active ∧
      (∀ item ∈ s.revisions, item.id ≠ content.revisionId) ∧
      ∃ revision, revision.toFields = content.revision s.id (s.revisions.length + 1) ∧
        s'.toFields = { s.toFields with
          revisions := s.revisions ++ [revision]
          currentRevisionId := content.revisionId
          version := s.version + 1 } := by
  simp only [publishRevision, bind_eq_ok, exists_unit, ensureVersion, ensureExpectedVersion_eq_ok,
    requireAcceptsNewBatch, acceptsNewBatch, raiseIf_eq_ok, beq_eq_false_iff_ne, ne_eq, not_not,
    not_exists, not_and, SuiteRevision.new_eq_ok, new_eq_ok]

theorem retire_eq_ok {retiredAt : Datetime} : s.retire retiredAt v = .ok s' ↔
    (0 ≤ v ∧ v = s.version) ∧ s.status = .active ∧ retiredAt.IsUtc ∧
      s'.toFields = { s.toFields with
        status := .retired
        retiredAt := some retiredAt
        version := s.version + 1 } := by
  simp only [retire, then_eq_ok, ensureVersion, ensureExpectedVersion_eq_ok, raiseIf_eq_ok,
    ← ne_eq, status_active_iff, requireUtc_eq_ok, new_eq_ok]

/-- One Suite after another: the same Suite, the history extended, each change counted once, and
nothing after retirement. -/
structure Grows (s s' : Suite) : Prop where
  id_eq : s'.id = s.id
  project_eq : s'.projectId = s.projectId
  name_eq : s'.name = s.name
  history : s.revisions <+: s'.revisions
  counted : s'.version - s.version =
    (s'.revisions.length + SuiteStatus.changes s'.status) -
      (s.revisions.length + SuiteStatus.changes s.status)
  retired : s.status = .retired → s' = s

theorem Grows.refl (s : Suite) : Grows s s :=
  ⟨rfl, rfl, rfl, List.prefix_refl _, by omega, fun _ => rfl⟩

theorem Grows.trans (h : Grows s s') (h' : Grows s' s'') : Grows s s'' where
  id_eq := h'.id_eq.trans h.id_eq
  project_eq := h'.project_eq.trans h.project_eq
  name_eq := h'.name_eq.trans h.name_eq
  history := h.history.trans h'.history
  counted := by
    have hfirst := h.counted
    have hsecond := h'.counted
    omega
  retired := by
    intro hretired
    have hsame := h.retired hretired
    rw [← hsame]
    apply h'.retired
    rw [hsame, hretired]

theorem eq_of_fields (h : s.toFields = s'.toFields) : s = s' := by
  cases s
  cases s'
  cases h
  rfl

/-- What the checks of a Suite say about its parts. -/
structure Facts (s : Suite) : Prop where
  named : isBlank s.id = false
  project_named : isBlank s.projectId = false
  name_named : isBlank s.name = false
  version_nonneg : 0 ≤ s.version
  nonempty : s.revisions ≠ []
  ids : (s.revisions.map (·.id)).Nodup
  numbers : s.revisions.map (·.revisionNo) =
    (List.range s.revisions.length).map fun n : ℕ => (n : ℤ) + 1
  owned : ∀ item ∈ s.revisions, item.suiteId = s.id
  current : (s.revisions.map (·.id)).getLast? = some s.currentRevisionId
  live : s.status = .active → s.retiredAt = none
  dated : s.status = .retired → ∃ t, s.retiredAt = some t ∧ t.IsUtc

theorem facts (s : Suite) : s.Facts := by
  have haccepted := s.accepted
  simp only [Fields.postInit, Fields.validateRevisions, then_eq_ok, invalidIf_eq_ok,
    requireNonemptyString_eq_ok, not_lt, not_not, ne_eq, not_exists, not_and] at haccepted
  obtain ⟨hid, hproject, hname, hversion, ⟨hnonempty, hids, hnumbers, howned, -, -, hcurrent⟩,
    hretirement, -⟩ := haccepted
  refine ⟨hid, hproject, hname, hversion, hnonempty, hids, ?_, howned, hcurrent, ?_, ?_⟩
  · simpa [List.map_map, Function.comp_def, ← List.map_eq_flatMap] using hnumbers
  · intro hactive
    simpa [Fields.validateRetirement, hactive, invalidIf_eq_ok] using hretirement
  · intro hretired
    simpa [Fields.validateRetirement, hretired, bind_eq_ok, need_eq_ok, requireUtc_eq_ok] using
      hretirement

/-- The checks of a Suite concern its names, its history and its retirement apart. -/
theorem recombined (a b c : Suite) : Fields.postInit { a.toFields with
    projectId := b.projectId
    name := b.name
    status := c.status
    retiredAt := c.retiredAt } = .ok () := by
  have ha := a.accepted
  have hb := b.accepted
  have hc := c.accepted
  simp only [Fields.postInit, Fields.validateRevisions, Fields.validateRetirement, then_eq_ok]
    at ha hb hc ⊢
  obtain ⟨hid, -, -, hversion, hrevisions, -, htimeline⟩ := ha
  obtain ⟨-, hproject, hname, -⟩ := hb
  obtain ⟨-, -, -, -, -, hretirement, -⟩ := hc
  exact ⟨hid, hproject, hname, hversion, hrevisions, hretirement, htimeline⟩

theorem changes_nonneg (status : SuiteStatus) : 0 ≤ status.changes := by
  cases status <;> decide

/-- Two Suites with the same names and revisions that are active are equal up to the version. -/
theorem eq_of_active (hid : s'.id = s.id) (hproject : s'.projectId = s.projectId)
    (hname : s'.name = s.name) (hrevisions : s'.revisions = s.revisions)
    (hversion : s'.version = s.version) (hs : s.status = .active) (hs' : s'.status = .active) :
    s' = s := by
  have hcurrent : s'.currentRevisionId = s.currentRevisionId := by
    have hlast' := s'.facts.current
    rw [hrevisions, s.facts.current] at hlast'
    exact (Option.some.inj hlast').symm
  have hretired := s'.facts.live hs'
  rw [← s.facts.live hs] at hretired
  apply eq_of_fields
  rw [Fields.mk.injEq]
  exact ⟨hid, hproject, hname, hs'.trans hs.symm, hversion, hrevisions, hcurrent, hretired⟩

/-- The version of a Suite identifies its state. -/
theorem Grows.eq_of_version (h : Grows s s') (hversion : s'.version = s.version) : s' = s := by
  have hcounted := h.counted
  have hlength := h.history.length_le
  cases hstatus : s.status with
  | retired => exact h.retired hstatus
  | active =>
    cases hstatus' : s'.status with
    | retired =>
      rw [hstatus, hstatus', SuiteStatus.changes, SuiteStatus.changes] at hcounted
      omega
    | active =>
      rw [hstatus, hstatus', SuiteStatus.changes] at hcounted
      have hrevisions := h.history.eq_of_length (by omega)
      exact eq_of_active h.id_eq h.project_eq h.name_eq hrevisions.symm hversion hstatus hstatus'

theorem grows_of_exec {c : Command} (h : s.exec c = .ok s') : Grows s s' := by
  cases c with
  | publishRevision content v =>
    obtain ⟨-, hactive, -, revision, -, hnext⟩ := publishRevision_eq_ok.mp h
    have hrevisions : s'.revisions = s.revisions ++ [revision] := by rw [hnext]
    have hstatus : s'.status = s.status := by rw [hnext]
    have hversion : s'.version = s.version + 1 := by rw [hnext]
    refine ⟨by rw [hnext], by rw [hnext], by rw [hnext], ?_, ?_, ?_⟩
    · rw [hrevisions]
      exact List.prefix_append _ _
    · rw [hrevisions, hstatus, hversion, List.length_append, List.length_singleton]
      omega
    · intro hretired
      rw [hactive] at hretired
      cases hretired
  | retire retiredAt v =>
    obtain ⟨-, hactive, -, hnext⟩ := retire_eq_ok.mp h
    have hrevisions : s'.revisions = s.revisions := by rw [hnext]
    have hstatus : s'.status = .retired := by rw [hnext]
    have hversion : s'.version = s.version + 1 := by rw [hnext]
    refine ⟨by rw [hnext], by rw [hnext], by rw [hnext], ?_, ?_, ?_⟩
    · exact hrevisions ▸ List.prefix_refl _
    · rw [hrevisions, hstatus, hversion, hactive, SuiteStatus.changes, SuiteStatus.changes]
      omega
    · intro hretired
      rw [hactive] at hretired
      cases hretired

/-- A Suite as it is registered. -/
def Registered (s : Suite) : Prop :=
  ∃ suiteId projectId name content, register suiteId projectId name content = .ok s

/-- A Suite only grows, whatever commands are tried on it; its version counts the revisions after
the first and the retirement, and identifies the state. -/
theorem suite_only_grows (hs : Reachable exec Registered s) (cs : List Command) :
    s.version + 1 = s.revisions.length + s.status.changes ∧ Grows s (after exec s cs) ∧
      ((after exec s cs).version = s.version → after exec s cs = s) := by
  have hgrows : ∀ (s : Suite) (cs : List Command), Grows s (after exec s cs) :=
    fun s cs => after_related Grows.refl (fun _ _ _ => Grows.trans)
      (fun _ _ _ => grows_of_exec) s cs
  refine ⟨?_, hgrows s cs, (hgrows s cs).eq_of_version⟩
  obtain ⟨s₀, cs₀, ⟨suiteId, projectId, name, content, hregister⟩, rfl⟩ := hs
  obtain ⟨revision, -, hfirst⟩ := register_eq_ok.mp hregister
  have hcounted := (hgrows s₀ cs₀).counted
  have hzero : SuiteStatus.changes .active = 0 := rfl
  simp only [hfirst, List.length_singleton, hzero] at hcounted
  omega

/-- The content of two revisions in a row. -/
def draftContent (revisionId : String) (createdAt : ℕ) : RevisionContent where
  revisionId := revisionId
  sourceSpecDigest := Digest.zero
  configDigest := Digest.zero
  framework := "pytest"
  resourceProfileId := "profile-default"
  createdAt := ⟨createdAt, some 0⟩

/-- A Suite as `register` makes it. -/
def smokeSuite : Suite where
  id := "suite-1"
  projectId := "project-1"
  name := "smoke"
  status := .active
  version := 0
  revisions := [⟨(draftContent "revision-1" 1).revision "suite-1" 1, by decide⟩]
  currentRevisionId := "revision-1"
  accepted := by decide

theorem smokeSuite_reachable : Reachable exec Registered smokeSuite :=
  ⟨smokeSuite, [], ⟨"suite-1", "project-1", "smoke", draftContent "revision-1" 1,
    register_eq_ok.mpr ⟨_, rfl, rfl⟩⟩, rfl⟩

theorem suite_only_grows_smoke :
    (after exec smokeSuite [.publishRevision (draftContent "revision-2" 2) 0,
      .retire ⟨3, some 0⟩ 1, .publishRevision (draftContent "revision-3" 4) 2]).version = 2 ∧
    smokeSuite.revisions <+: (after exec smokeSuite
      [.publishRevision (draftContent "revision-2" 2) 0, .retire ⟨3, some 0⟩ 1,
        .publishRevision (draftContent "revision-3" 4) 2]).revisions :=
  ⟨by decide, (suite_only_grows smokeSuite_reachable _).2.1.history⟩

end Suite
end QaRunner
