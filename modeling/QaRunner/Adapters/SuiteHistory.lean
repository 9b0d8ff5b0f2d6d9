import QaRunner.Adapters.PostgresSuite

/-! What the sessions of the Suite gateway leave behind: rows that read back as a valid Suite, a
history that no caller can rewrite, and publications read back as they were derived. -/
namespace QaRunner
open Guarded PublishOnce SuiteGateway Suite

theorem SuiteRevision.fromRow_toRow (r : SuiteRevision) : fromRow r.toRow = .ok r := by
  have haccepted := r.accepted
  simp only [Fields.postInit, then_eq_ok, requireNonemptyString_eq_ok] at haccepted
  have hprofile : r.resourceProfileId ≠ "" := by
    rintro hempty
    rw [hempty] at haccepted
    exact absurd haccepted.2.2.2.2.2.1 (by decide)
  have hspec : digestFromHex r.toRow.sourceSpecDigest = .ok r.sourceSpecDigest :=
    Digest.new_removeprefix _
  have hconfig : digestFromHex r.toRow.configDigest = .ok r.configDigest :=
    Digest.new_removeprefix _
  have hstored : (if r.toRow.resourceProfileId.getD "" = "" then "profile-default"
      else r.toRow.resourceProfileId.getD "") = r.resourceProfileId := if_neg hprofile
  unfold fromRow
  simp only [hspec, hconfig, hstored, ok_bind]
  exact new_eq_ok.mpr rfl

theorem SuiteRevision.collect_toRow (rs : List SuiteRevision) :
    collect (rs.map toRow) fromRow = .ok rs := by
  rw [collect_eq_ok, List.forall₂_map_left_iff, List.forall₂_same]
  intro r _
  exact r.fromRow_toRow

/-- The rows of a Suite are exactly those of its fields and its revisions, in their order. -/
structure SuiteTables.Stored (t : SuiteTables) (row : SuiteRow) (suite : Suite) : Prop where
  id_eq : row.id = suite.id
  project_eq : row.projectId = suite.projectId
  name_eq : row.name = suite.name
  status_eq : row.status = suite.status
  version_eq : row.version = suite.version
  retired_eq : row.retiredAt = suite.retiredAt
  revisions_eq : t.revisionRows suite.id = suite.revisions.map SuiteRevision.toRow

/-- Every Suite row reads back as a Suite whose version counts its changes, and every revision row
belongs to one. -/
structure SuiteTables.Consistent (t : SuiteTables) : Prop where
  ids : (t.suites.map (·.id)).Nodup
  stored : ∀ row ∈ t.suites, ∃ suite, t.Stored row suite ∧
    suite.version + 1 = suite.revisions.length + suite.status.changes
  owned : ∀ r ∈ t.revisions, r.suiteId ∈ t.suites.map (·.id)

namespace SuiteTables

variable {t t' : SuiteTables} {row : SuiteRow} {suite old new : Suite} {suiteId : String}
  {version : ℤ}

/-- The numbers of a Suite's revisions are already in order. -/
theorem sorted_rows (suite : Suite) :
    Sorting.sortOn (·.revisionNo) (suite.revisions.map SuiteRevision.toRow) =
      suite.revisions.map SuiteRevision.toRow := by
  apply Sorting.sortOn_eq_self
  have hnumbers := suite.facts.numbers
  have hpairwise : (suite.revisions.map (·.revisionNo)).Pairwise (· ≤ ·) := by
    rw [hnumbers, List.pairwise_map]
    exact List.pairwise_lt_range.imp fun hlt => by omega
  rw [List.pairwise_map] at hpairwise ⊢
  exact hpairwise

theorem find_row (hids : (t.suites.map (·.id)).Nodup) (hrow : row ∈ t.suites) :
    t.suites.find? (·.id = row.id) = some row := Keyed.find_of_mem hids hrow

/-- Stored rows read back as the Suite they are stored for. -/
theorem load_of_stored (ht : t.Consistent) (hrow : row ∈ t.suites) (h : t.Stored row suite) :
    t.load suite.id = .ok suite := by
  have hfind := find_row ht.ids hrow
  rw [h.id_eq] at hfind
  obtain ⟨last, hlast, hcurrent⟩ : ∃ last, suite.revisions.getLast? = some last ∧
      last.id = suite.currentRevisionId := by
    have hids := suite.facts.current
    rw [List.getLast?_map, Option.map_eq_some_iff] at hids
    exact hids
  have hsome : suite.revisions.map SuiteRevision.toRow ≠ [] := by
    simpa using suite.facts.nonempty
  unfold load
  simp only [hfind, need, ok_bind, h.revisions_eq, sorted_rows, raiseIf_of_not hsome,
    SuiteRevision.collect_toRow, SuiteGateway.domain, hlast]
  have hnew : Suite.new
      { id := row.id
        projectId := row.projectId
        name := row.name
        status := row.status
        version := row.version
        revisions := suite.revisions
        currentRevisionId := last.id
        retiredAt := row.retiredAt } = .ok suite := by
    rw [Suite.new_eq_ok, h.id_eq, h.project_eq, h.name_eq, h.status_eq, h.version_eq, h.retired_eq,
      hcurrent]
  rw [hnew]

theorem find_of_load (h : t.load suiteId = .ok suite) :
    ∃ row ∈ t.suites, row.id = suiteId := by
  simp only [load, bind_eq_ok, need_eq_ok] at h
  obtain ⟨row, hrow, -⟩ := h
  obtain ⟨hmem, hid⟩ := Keyed.find_some hrow
  exact ⟨row, hmem, hid⟩

/-- What is read back is what is stored. -/
theorem stored_of_load (ht : t.Consistent) (h : t.load suiteId = .ok suite) :
    suite.id = suiteId ∧ ∃ row ∈ t.suites, t.Stored row suite ∧
      suite.version + 1 = suite.revisions.length + suite.status.changes := by
  obtain ⟨row, hrow, rfl⟩ := find_of_load h
  obtain ⟨stored, hstored, hcounted⟩ := ht.stored row hrow
  have hload := load_of_stored ht hrow hstored
  rw [← hstored.id_eq, h] at hload
  cases hload
  exact ⟨hstored.id_eq.symm, row, hrow, hstored, hcounted⟩

theorem load_iff (ht : t.Consistent) : t.load suiteId = .ok suite ↔
    suite.id = suiteId ∧ ∃ row ∈ t.suites, t.Stored row suite := by
  constructor
  · intro h
    obtain ⟨hid, row, hrow, hstored, -⟩ := stored_of_load ht h
    exact ⟨hid, row, hrow, hstored⟩
  · rintro ⟨rfl, row, hrow, hstored⟩
    exact load_of_stored ht hrow hstored

/-- Each Suite that was stored is stored afterwards, grown. -/
def Grown (t t' : SuiteTables) : Prop :=
  ∀ suiteId suite, t.load suiteId = .ok suite →
    ∃ suite', t'.load suiteId = .ok suite' ∧ Grows suite suite'

theorem Grown.refl (t : SuiteTables) : Grown t t :=
  fun _ suite h => ⟨suite, h, Grows.refl suite⟩

theorem Grown.trans {t'' : SuiteTables} (h : Grown t t') (h' : Grown t' t'') : Grown t t'' := by
  intro suiteId suite hload
  obtain ⟨suite', hload', hgrows⟩ := h suiteId suite hload
  obtain ⟨suite'', hload'', hgrows'⟩ := h' suiteId suite' hload'
  exact ⟨suite'', hload'', hgrows.trans hgrows'⟩

theorem insertSuite_eq_ok : t.insertSuite row = .ok t' ↔
    (∀ r ∈ t.suites, r.id ≠ row.id) ∧
      (∀ r ∈ t.suites, r.projectId = row.projectId → r.name ≠ row.name) ∧
      row.projectId ∈ t.projects ∧ (row.status = .retired ↔ row.retiredAt.isSome) ∧
      t' = { t with suites := t.suites ++ [row] } := by
  simp only [insertSuite, then_eq_ok, raiseIf_eq_ok, not_exists, not_and, not_not, pure_eq_ok,
    ne_eq, eq_comm (b := t')]

theorem insertRevision_eq_ok {r : SuiteRevisionRow} : t.insertRevision r = .ok t' ↔
    (∀ x ∈ t.revisions, x.id ≠ r.id) ∧
      (∀ x ∈ t.revisions, x.suiteId = r.suiteId → x.revisionNo ≠ r.revisionNo) ∧
      r.suiteId ∈ t.suites.map (·.id) ∧
      (∀ profile, r.resourceProfileId = some profile → profile ∈ t.profiles) ∧
      t' = { t with revisions := t.revisions ++ [r] } := by
  simp only [insertRevision, then_eq_ok, raiseIf_eq_ok, not_exists, not_and, not_not, pure_eq_ok,
    ne_eq, Option.mem_def, eq_comm (b := t')]

/-- With distinct ids a compare-and-set matches at most the row of its Suite. -/
theorem updateActive_eq_ok (hids : (t.suites.map (·.id)).Nodup) {set : SuiteRow → SuiteRow} :
    t.updateActive suiteId version set = .ok t' ↔
      (∃ row ∈ t.suites, Matched suiteId version row) ∧
        t' = { t with
          suites := t.suites.map fun row =>
            if Matched suiteId version row then set row else row } := by
  simp only [updateActive, then_eq_ok, raiseIf_eq_ok, ne_eq, not_not, pure_eq_ok,
    eq_comm (b := t')]
  refine and_congr_left fun _ => ?_
  have hle : t.suites.countP (Matched suiteId version ·) ≤ 1 := by
    have hcount := List.nodup_iff_count_le_one.mp hids suiteId
    rw [List.count, List.countP_map] at hcount
    refine Nat.le_trans (List.countP_mono_left fun row _ hrow => ?_) hcount
    simpa using (of_decide_eq_true hrow).1
  have hpos : 0 < t.suites.countP (Matched suiteId version ·) ↔
      ∃ row ∈ t.suites, Matched suiteId version row := by
    simp [List.countP_pos_iff]
  rw [← hpos]
  omega

/-- What a write to the rows of one Suite leaves: the rows of that Suite read back as the new one,
and those of the others as before. -/
theorem consistent_of_write (row : SuiteRow) (ht : t.Consistent)
    (hids : (t'.suites.map (·.id)).Nodup)
    (hothers : ∀ r : SuiteRow, r.id ≠ new.id → (r ∈ t'.suites ↔ r ∈ t.suites))
    (hrevisions : ∀ other, other ≠ new.id → t'.revisionRows other = t.revisionRows other)
    (hrow : row ∈ t'.suites) (hstored : t'.Stored row new)
    (hcounted : new.version + 1 = new.revisions.length + new.status.changes)
    (howned : ∀ r ∈ t'.revisions, r.suiteId ∈ t'.suites.map (·.id)) :
    t'.Consistent ∧ t'.load new.id = .ok new ∧
      ∀ other suite, other ≠ new.id → (t'.load other = .ok suite ↔ t.load other = .ok suite) := by
  have hmoved : ∀ r suite, r.id ≠ new.id → (t'.Stored r suite ↔ t.Stored r suite) := by
    intro r suite hr
    constructor
    · intro h
      have hsame := hrevisions suite.id (h.id_eq ▸ hr)
      exact ⟨h.id_eq, h.project_eq, h.name_eq, h.status_eq, h.version_eq, h.retired_eq,
        hsame ▸ h.revisions_eq⟩
    · intro h
      have hsame := hrevisions suite.id (h.id_eq ▸ hr)
      exact ⟨h.id_eq, h.project_eq, h.name_eq, h.status_eq, h.version_eq, h.retired_eq,
        hsame.trans h.revisions_eq⟩
  have hconsistent : t'.Consistent := by
    refine ⟨hids, ?_, howned⟩
    intro r hr
    by_cases hid : r.id = new.id
    · have hsame : r = row := Keyed.eq_of_key hids hr hrow (hid.trans hstored.id_eq.symm)
      subst hsame
      exact ⟨new, hstored, hcounted⟩
    · obtain ⟨suite, hsuite, hcount⟩ := ht.stored r ((hothers r hid).mp hr)
      exact ⟨suite, (hmoved r suite hid).mpr hsuite, hcount⟩
  refine ⟨hconsistent, load_of_stored hconsistent hrow hstored, ?_⟩
  intro other suite hother
  rw [load_iff hconsistent, load_iff ht]
  refine and_congr_right fun hid => exists_congr fun r => ?_
  have hiff : t'.Stored r suite → r.id ≠ new.id := fun h => by
    rw [h.id_eq, hid]
    exact hother
  have hiff' : t.Stored r suite → r.id ≠ new.id := fun h => by
    rw [h.id_eq, hid]
    exact hother
  constructor
  · rintro ⟨hr, h⟩
    exact ⟨(hothers r (hiff h)).mp hr, (hmoved r suite (hiff h)).mp h⟩
  · rintro ⟨hr, h⟩
    exact ⟨(hothers r (hiff' h)).mpr hr, (hmoved r suite (hiff' h)).mpr h⟩

/-- The matched row of a stored Suite. -/
theorem active_of_matched (ht : t.Consistent) (hold : t.load suiteId = .ok old)
    (hmatched : ∃ row ∈ t.suites, Matched suiteId version row) :
    old.status = .active ∧ old.version = version := by
  obtain ⟨row, hrow, hid, hversion, hstatus⟩ := hmatched
  obtain ⟨hsuite, row', hrow', hstored, -⟩ := stored_of_load ht hold
  have hsame : row = row' := by
    refine Keyed.eq_of_key ht.ids hrow hrow' ?_
    rw [hid, hstored.id_eq, hsuite]
  subst hsame
  exact ⟨hstored.status_eq.symm.trans hstatus, hstored.version_eq.symm.trans hversion⟩

/-- A compare-and-set with revisions appended for the Suite stores its successor. -/
theorem consistent_of_update (new : Suite) (version : ℤ) (set : SuiteRow → SuiteRow)
    (added : List SuiteRevisionRow) (ht : t.Consistent) (hold : t.load old.id = .ok old)
    (hset : ∀ row, (set row).id = row.id)
    (hmatched : ∃ row ∈ t.suites, Matched old.id version row)
    (hadded : ∀ r ∈ added, r.suiteId = old.id) (hid : new.id = old.id)
    (hfields : ∀ row, t.Stored row old → (set row).projectId = new.projectId ∧
      (set row).name = new.name ∧ (set row).status = new.status ∧
      (set row).version = new.version ∧ (set row).retiredAt = new.retiredAt)
    (hrevisions : new.revisions.map SuiteRevision.toRow =
      old.revisions.map SuiteRevision.toRow ++ added)
    (hcounted : new.version + 1 = new.revisions.length + new.status.changes)
    (ht' : t' = { t with
      suites := t.suites.map fun row => if Matched old.id version row then set row else row
      revisions := t.revisions ++ added }) :
    t'.Consistent ∧ t'.load new.id = .ok new ∧
      ∀ other suite, other ≠ new.id → (t'.load other = .ok suite ↔ t.load other = .ok suite) := by
  have hkeys : t'.suites.map (·.id) = t.suites.map (·.id) := by
    rw [ht', List.map_map]
    apply List.map_congr_left
    intro row _
    dsimp only [Function.comp_apply]
    split
    · exact hset row
    · rfl
  obtain ⟨row, hrow, hrowmatched⟩ := hmatched
  obtain ⟨-, row', hrow', hstored, -⟩ := stored_of_load ht hold
  have hsame : row = row' :=
    Keyed.eq_of_key ht.ids hrow hrow' (hrowmatched.1.trans hstored.id_eq.symm)
  subst hsame
  obtain ⟨hproject, hname, hstatus, hversion, hretired⟩ := hfields row hstored
  have hrows : t'.revisionRows old.id = t.revisionRows old.id ++ added := by
    rw [ht', revisionRows, List.filter_append, revisionRows]
    congr 1
    rw [List.filter_eq_self]
    intro r hr
    exact decide_eq_true (hadded r hr)
  apply consistent_of_write (set row) ht
  · rw [hkeys]
    exact ht.ids
  · intro r hr
    rw [ht', List.mem_map]
    constructor
    · rintro ⟨x, hx, hxr⟩
      split at hxr
      · next hm =>
        rw [← hxr, hset, hm.1, hid] at hr
        exact absurd rfl hr
      · rwa [← hxr]
    · intro hmem
      refine ⟨r, hmem, if_neg ?_⟩
      rintro ⟨hm, -⟩
      exact hr (hm.trans hid.symm)
  · intro other hother
    rw [ht', revisionRows, List.filter_append, revisionRows]
    have hnone : added.filter (·.suiteId = other) = [] := by
      rw [List.filter_eq_nil_iff]
      intro r hr hsuite
      exact hother (((of_decide_eq_true hsuite).symm.trans (hadded r hr)).trans hid.symm)
    rw [hnone, List.append_nil]
  · rw [ht', List.mem_map]
    exact ⟨row, hrow, if_pos hrowmatched⟩
  · refine ⟨?_, hproject, hname, hstatus, hversion, hretired, ?_⟩
    · rw [hset, hstored.id_eq, hid]
    · rw [hid, hrows, hstored.revisions_eq, hrevisions]
  · exact hcounted
  · intro r hr
    rw [hkeys]
    rw [ht', List.mem_append] at hr
    rcases hr with hr | hr
    · exact ht.owned r hr
    · rw [hadded r hr, ← hstored.id_eq]
      exact List.mem_map_of_mem hrow

/-- A Suite under a new id is stored as it is registered. -/
theorem consistent_of_insert (new : Suite) (row : SuiteRow) (ht : t.Consistent)
    (hfresh : ∀ r ∈ t.suites, r.id ≠ new.id)
    (hstored : row.id = new.id ∧ row.projectId = new.projectId ∧ row.name = new.name ∧
      row.status = new.status ∧ row.version = new.version ∧ row.retiredAt = new.retiredAt)
    (hcounted : new.version + 1 = new.revisions.length + new.status.changes)
    (ht' : t' = { t with
      suites := t.suites ++ [row]
      revisions := t.revisions ++ new.revisions.map SuiteRevision.toRow }) :
    t'.Consistent ∧ t'.load new.id = .ok new ∧
      ∀ other suite, other ≠ new.id → (t'.load other = .ok suite ↔ t.load other = .ok suite) := by
  obtain ⟨hid, hproject, hname, hstatus, hversion, hretired⟩ := hstored
  have hadded : ∀ r ∈ new.revisions.map SuiteRevision.toRow, r.suiteId = new.id := by
    intro r hr
    obtain ⟨revision, hrevision, rfl⟩ := List.mem_map.mp hr
    exact new.facts.owned revision hrevision
  apply consistent_of_write row ht
  · rw [ht', List.map_append, List.map_singleton]
    refine List.Nodup.append ht.ids (List.nodup_singleton _) ?_
    intro k hk hmem
    obtain ⟨r, hr, rfl⟩ := List.mem_map.mp hk
    exact hfresh r hr ((List.mem_singleton.mp hmem).trans hid)
  · intro r hr
    rw [ht', List.mem_append, List.mem_singleton]
    constructor
    · rintro (hmem | rfl)
      · exact hmem
      · exact absurd hid hr
    · exact Or.inl
  · intro other hother
    rw [ht', revisionRows, List.filter_append, revisionRows]
    have hnone : (new.revisions.map SuiteRevision.toRow).filter (·.suiteId = other) = [] := by
      rw [List.filter_eq_nil_iff]
      intro r hr hsuite
      exact hother ((of_decide_eq_true hsuite).symm.trans (hadded r hr))
    rw [hnone, List.append_nil]
  · rw [ht']
    exact List.mem_append_right _ (List.mem_singleton_self _)
  · refine ⟨hid, hproject, hname, hstatus, hversion, hretired, ?_⟩
    have hnone : t.revisions.filter (·.suiteId = new.id) = [] := by
      rw [List.filter_eq_nil_iff]
      intro r hr hsuite
      obtain ⟨x, hx, hxid⟩ := List.mem_map.mp (ht.owned r hr)
      exact hfresh x hx (hxid.trans (of_decide_eq_true hsuite))
    rw [ht', revisionRows, List.filter_append, hnone, List.nil_append, List.filter_eq_self]
    intro r hr
    exact decide_eq_true (hadded r hr)
  · exact hcounted
  · intro r hr
    rw [ht', List.map_append, List.mem_append, List.map_singleton, List.mem_singleton]
    rw [ht', List.mem_append] at hr
    rcases hr with hr | hr
    · exact Or.inl (ht.owned r hr)
    · exact Or.inr ((hadded r hr).trans hid.symm)

/-- A write that stores one Suite, new or grown, grows the tables. -/
theorem grown_of_write (hnew : t'.load new.id = .ok new)
    (hothers : ∀ other suite, other ≠ new.id →
      (t'.load other = .ok suite ↔ t.load other = .ok suite))
    (hgrows : ∀ suite, t.load new.id = .ok suite → Grows suite new) : Grown t t' := by
  intro other suite hload
  by_cases hsame : other = new.id
  · subst hsame
    exact ⟨new, hnew, hgrows suite hload⟩
  · exact ⟨suite, (hothers other suite hsame).mpr hload, Grows.refl suite⟩

end SuiteTables
namespace SuiteSession
open SuiteTables

variable {s s' : SuiteSession} {suite expected : Suite} {suiteId : String}
  {r : ReplayResult Suite}

/-- The view of a session is consistent, and its locked aggregate has the stored version and
history. A caller may have renamed it. -/
structure Sound (s : SuiteSession) : Prop where
  consistent : s.tables.Consistent
  agrees : ∀ snapshot, s.snapshot = some snapshot → ∃ stored,
    s.tables.load snapshot.id = .ok stored ∧ stored.revisions = snapshot.revisions ∧
      stored.version = snapshot.version

theorem getSuiteForUpdate_sound (hs : s.Sound)
    (h : s.getSuiteForUpdate suiteId = .ok (suite, s')) :
    s'.Sound ∧ s'.tables = s.tables ∧ s'.snapshot = some suite ∧ suite.id = suiteId := by
  unfold getSuiteForUpdate at h
  cases hsnapshot : s.snapshot with
  | some snapshot =>
    simp only [hsnapshot, then_eq_ok, raiseIf_eq_ok, not_not, pure_eq_ok, ne_eq,
      Prod.mk.injEq] at h
    obtain ⟨hid, rfl, rfl⟩ := h
    exact ⟨hs, rfl, hsnapshot, hid⟩
  | none =>
    simp only [hsnapshot, bind_eq_ok, pure_eq_ok, Prod.mk.injEq] at h
    obtain ⟨loaded, hload, rfl, rfl⟩ := h
    have hid := (stored_of_load hs.consistent hload).1
    refine ⟨⟨hs.consistent, ?_⟩, rfl, rfl, hid⟩
    rintro _ ⟨⟩
    exact ⟨loaded, hid ▸ hload, rfl, rfl⟩

/-- The Suite stored for the aggregate a publication expects. -/
theorem expected_stored (hs : s.Sound) (h : s.requireExpected expected = .ok ()) :
    ∃ old, s.tables.load old.id = .ok old ∧ old.id = expected.id ∧
      old.revisions = expected.revisions ∧ old.version = expected.version ∧
      old.version + 1 = old.revisions.length + old.status.changes := by
  rw [requireExpected, raiseIf_eq_ok, not_not] at h
  obtain ⟨old, hload, hrevisions, hversion⟩ := hs.agrees expected h
  obtain ⟨hid, -, -, -, hcounted⟩ := stored_of_load hs.consistent hload
  exact ⟨old, hid ▸ hload, hid, hrevisions, hversion, hcounted⟩

/-- What the tables store after a published revision: the history and version of the published
Suite under the stored names, still active. -/
theorem publishRevision_stores (hs : s.Sound)
    (h : s.publishRevision suite expected = .ok (r, s')) :
    ∃ old new revision, s.tables.load old.id = .ok old ∧ old.id = expected.id ∧
      old.status = .active ∧ suite.revisions = old.revisions ++ [revision] ∧
      new.toFields = { suite.toFields with
        projectId := old.projectId
        name := old.name
        status := old.status
        retiredAt := old.retiredAt } ∧
      Grows old new ∧ s'.tables.Consistent ∧ s'.tables.load new.id = .ok new ∧
      (∀ other stored, other ≠ new.id →
        (s'.tables.load other = .ok stored ↔ s.tables.load other = .ok stored)) ∧
      s'.snapshot = some suite := by
  simp only [publishRevision, bind_eq_ok, exists_unit, raiseIf_eq_ok, ne_eq, not_not, need_eq_ok,
    pure_eq_ok, Prod.mk.injEq] at h
  obtain ⟨hexpected, hid, hversion, -, revision, hlast, hhistory, withRevision, hinsert, tables,
    hupdate, -, rfl⟩ := h
  obtain ⟨old, hload, holdid, holdrevisions, holdversion, hcounted⟩ := expected_stored hs hexpected
  obtain ⟨-, -, -, -, rfl⟩ := insertRevision_eq_ok.mp hinsert
  obtain ⟨hmatched, rfl⟩ := (updateActive_eq_ok
    (t := { s.tables with revisions := s.tables.revisions ++ [revision.toRow] })
    hs.consistent.ids).mp hupdate
  have hold : old.id = suite.id := holdid.trans hid.symm
  rw [← hold, ← holdversion] at hmatched
  obtain ⟨hactive, -⟩ := active_of_matched hs.consistent hload hmatched
  have hrevisions : suite.revisions = old.revisions ++ [revision] := by
    rw [holdrevisions, ← hhistory]
    exact (List.dropLast_append_getLast? _ hlast).symm
  let new : Suite := ⟨_, recombined suite old old⟩
  have hnew : new.toFields = { suite.toFields with
      projectId := old.projectId
      name := old.name
      status := old.status
      retiredAt := old.retiredAt } := rfl
  have hgrows : Grows old new := by
    refine ⟨hold.symm, rfl, rfl, ?_, ?_, ?_⟩
    · exact hrevisions ▸ List.prefix_append _ _
    · show suite.version - old.version = (suite.revisions.length + old.status.changes) -
        (old.revisions.length + old.status.changes)
      rw [hrevisions, List.length_append, List.length_singleton]
      omega
    · intro hretired
      rw [hactive] at hretired
      cases hretired
  obtain ⟨hconsistent, hstored, hothers⟩ := consistent_of_update new old.version
    (fun row => { row with version := suite.version }) [revision.toRow] hs.consistent hload
    (fun _ => rfl) hmatched
    (by
      intro x hx
      rw [List.mem_singleton] at hx
      subst hx
      have howned := suite.facts.owned revision
        (hrevisions ▸ List.mem_append_right _ (List.mem_singleton_self _))
      exact howned.trans hold.symm)
    hold.symm
    (fun row hrow => ⟨hrow.project_eq, hrow.name_eq, hrow.status_eq, rfl, hrow.retired_eq⟩)
    (by
      show suite.revisions.map SuiteRevision.toRow = _
      rw [hrevisions, List.map_append, List.map_singleton])
    (by
      have hgrown := hgrows.counted
      omega)
    rfl
  rw [hold, holdversion] at hconsistent hstored hothers
  exact ⟨old, new, revision, hload, holdid, hactive, hrevisions, hnew, hgrows, hconsistent,
    hstored, hothers, rfl⟩

theorem publishRevision_inserts (h : s.publishRevision suite expected = .ok (r, s')) :
    ∃ revision t, suite.revisions.getLast? = some revision ∧
      s.tables.insertRevision revision.toRow = .ok t := by
  simp only [publishRevision, bind_eq_ok, exists_unit, raiseIf_eq_ok, ne_eq, not_not, need_eq_ok,
    pure_eq_ok, Prod.mk.injEq] at h
  obtain ⟨-, -, -, -, revision, hlast, -, t, hinsert, -⟩ := h
  exact ⟨revision, t, hlast, hinsert⟩

/-- What the tables store after a published retirement: the stored Suite, retired when the
published one is. -/
theorem publishRetire_stores (hs : s.Sound) (h : s.publishRetire suite expected = .ok (r, s')) :
    ∃ old new, s.tables.load old.id = .ok old ∧ old.id = expected.id ∧ old.status = .active ∧
      suite.revisions = old.revisions ∧
      new.toFields = { suite.toFields with
        projectId := old.projectId
        name := old.name } ∧
      Grows old new ∧ s'.tables.Consistent ∧ s'.tables.load new.id = .ok new ∧
      (∀ other stored, other ≠ new.id →
        (s'.tables.load other = .ok stored ↔ s.tables.load other = .ok stored)) ∧
      s'.snapshot = some suite := by
  simp only [publishRetire, bind_eq_ok, exists_unit, raiseIf_eq_ok, ne_eq, not_not, not_or,
    pure_eq_ok, Prod.mk.injEq] at h
  obtain ⟨hexpected, hid, ⟨hstatus, -⟩, hversion, hhistory, tables, hupdate, -, rfl⟩ := h
  obtain ⟨old, hload, holdid, holdrevisions, holdversion, hcounted⟩ := expected_stored hs hexpected
  obtain ⟨hmatched, rfl⟩ := (updateActive_eq_ok hs.consistent.ids).mp hupdate
  have hold : old.id = suite.id := holdid.trans hid.symm
  rw [← hold, ← holdversion] at hmatched
  obtain ⟨hactive, -⟩ := active_of_matched hs.consistent hload hmatched
  have hrevisions : suite.revisions = old.revisions := hhistory.trans holdrevisions.symm
  let new : Suite := ⟨_, recombined suite old suite⟩
  have hnew : new.toFields = { suite.toFields with
      projectId := old.projectId
      name := old.name } := rfl
  have hgrows : Grows old new := by
    refine ⟨hold.symm, rfl, rfl, ?_, ?_, ?_⟩
    · exact hrevisions ▸ List.prefix_refl _
    · show suite.version - old.version = (suite.revisions.length + suite.status.changes) -
        (old.revisions.length + old.status.changes)
      rw [hrevisions, hstatus, hactive, SuiteStatus.changes, SuiteStatus.changes]
      omega
    · intro hretired
      rw [hactive] at hretired
      cases hretired
  obtain ⟨hconsistent, hstored, hothers⟩ := consistent_of_update new old.version
    (fun row => { row with
      status := .retired
      retiredAt := suite.retiredAt
      version := suite.version })
    [] hs.consistent hload (fun _ => rfl) hmatched
    (by
      intro x hx
      exact absurd hx List.not_mem_nil)
    hold.symm
    (fun row hrow => ⟨hrow.project_eq, hrow.name_eq, hstatus.symm, rfl, rfl⟩)
    (by
      show suite.revisions.map SuiteRevision.toRow = _
      rw [hrevisions, List.append_nil])
    (by
      have hgrown := hgrows.counted
      omega)
    rfl
  rw [hold, holdversion, List.append_nil] at hconsistent hstored hothers
  exact ⟨old, new, hload, holdid, hactive, hrevisions, hnew, hgrows, hconsistent, hstored,
    hothers, rfl⟩

/-- A registration finds a stored Suite that answers it, or stores the registered one. -/
theorem register_stores (hs : s.Sound) (h : s.register suite = .ok (r, s')) :
    (∃ revision first, suite.revisions = [revision] ∧ r.replayed = true ∧
      s.getSuiteForUpdate suite.id = .ok (r.value, s') ∧ r.value.revisions.head? = some first ∧
      SameRegistration r.value suite first revision) ∨
    r = ⟨suite, false⟩ ∧ (∀ row ∈ s.tables.suites, row.id ≠ suite.id) ∧
      s'.tables.Consistent ∧ s'.tables.load suite.id = .ok suite ∧
      (∀ other stored, other ≠ suite.id →
        (s'.tables.load other = .ok stored ↔ s.tables.load other = .ok stored)) ∧
      s'.snapshot = some suite := by
  simp only [register, bind_eq_ok, exists_unit, raiseIf_eq_ok, ne_eq, not_not, not_or,
    need_eq_ok] at h
  obtain ⟨⟨hversion, hlength⟩, revision, hfirst, h⟩ := h
  have hrevisions : suite.revisions = [revision] := by
    obtain ⟨x, hx⟩ := List.length_eq_one_iff.mp hlength
    rw [hx] at hfirst ⊢
    cases hfirst
    rfl
  split at h
  · simp only [bind_eq_ok, exists_unit, raiseIf_eq_ok, need_eq_ok, not_not, pure_eq_ok,
      Prod.mk.injEq, Prod.exists] at h
    obtain ⟨loaded, t, hget, first, hhead, hsame, rfl, rfl⟩ := h
    exact Or.inl ⟨revision, first, hrevisions, rfl, hget, hhead, hsame⟩
  · next hnone =>
    have hfresh : ∀ row ∈ s.tables.suites, row.id ≠ suite.id := by
      simpa using hnone
    simp only [bind_eq_ok, pure_eq_ok, Prod.mk.injEq] at h
    obtain ⟨withSuite, hsuite, tables, hinsert, rfl, rfl⟩ := h
    obtain ⟨-, -, -, hretirement, rfl⟩ := insertSuite_eq_ok.mp hsuite
    obtain ⟨-, -, -, -, rfl⟩ := insertRevision_eq_ok.mp hinsert
    have hactive : suite.status = .active := by
      cases hcase : suite.status with
      | active => rfl
      | retired => simp [hcase] at hretirement
    obtain ⟨hconsistent, hstored, hothers⟩ := consistent_of_insert suite
      { id := suite.id
        projectId := suite.projectId
        name := suite.name
        status := suite.status
        version := suite.version
        createdAt := revision.createdAt
        retiredAt := none }
      hs.consistent hfresh
      ⟨rfl, rfl, rfl, rfl, rfl, (suite.facts.live hactive).symm⟩
      (by
        rw [hrevisions, hactive, hversion]
        rfl)
      rfl
    rw [hrevisions] at hconsistent hstored hothers
    exact Or.inr ⟨rfl, hfresh, hconsistent, hstored, hothers, rfl⟩

/-- A publication whose Suite is stored, up to its names, leaves a sound session. -/
theorem sound_of_stores {new : Suite} (hconsistent : s'.tables.Consistent)
    (hload : s'.tables.load new.id = .ok new) (hsnapshot : s'.snapshot = some suite)
    (hid : new.id = suite.id) (hrevisions : new.revisions = suite.revisions)
    (hversion : new.version = suite.version) : s'.Sound := by
  refine ⟨hconsistent, ?_⟩
  intro snapshot h
  rw [hsnapshot] at h
  cases h
  exact ⟨new, hid ▸ hload, hrevisions, hversion⟩

theorem settle_cases (s : SuiteSession)
    (outcome : SuiteGateway (ReplayResult Suite × SuiteSession)) :
    s.settle outcome = { s with aborted := true } ∨
      ∃ r s', outcome = .ok (r, s') ∧ s.settle outcome = s' := by
  cases outcome with
  | error e => exact Or.inl rfl
  | ok result => exact Or.inr ⟨result.1, result.2, rfl, rfl⟩

/-- A failed publication leaves the view of the session alone. -/
theorem sound_of_settle {outcome : SuiteGateway (ReplayResult Suite × SuiteSession)}
    (hs : s.Sound)
    (hstep : ∀ r s', outcome = .ok (r, s') → s'.Sound ∧ Grown s.tables s'.tables) :
    (s.settle outcome).Sound ∧ Grown s.tables (s.settle outcome).tables := by
  rcases settle_cases s outcome with hfailed | ⟨r, s', hok, hsettled⟩
  · rw [hfailed]
    exact ⟨⟨hs.consistent, hs.agrees⟩, Grown.refl _⟩
  · rw [hsettled]
    exact hstep r s' hok

/-- Whatever a caller passes to the gateway, the view stays sound and the stored Suites grow. -/
theorem perform_sound (hs : s.Sound) (c : SuiteCall) :
    (s.perform c).Sound ∧ Grown s.tables (s.perform c).tables := by
  cases c with
  | getSuiteForUpdate suiteId =>
    rw [perform]
    split
    · next loaded s' hok =>
      obtain ⟨hsound, htables, -⟩ := getSuiteForUpdate_sound hs hok
      rw [htables]
      exact ⟨hsound, Grown.refl _⟩
    · exact ⟨hs, Grown.refl _⟩
  | register suite =>
    refine sound_of_settle hs fun r s' hok => ?_
    rcases register_stores hs hok with ⟨_, _, -, -, hget, -⟩ |
      ⟨-, hfresh, hconsistent, hload, hothers, hsnapshot⟩
    · obtain ⟨hsound, htables, -⟩ := getSuiteForUpdate_sound hs hget
      rw [htables]
      exact ⟨hsound, Grown.refl _⟩
    · refine ⟨sound_of_stores hconsistent hload hsnapshot rfl rfl rfl,
        grown_of_write hload hothers ?_⟩
      intro stored hstored
      obtain ⟨row, hrow, hid⟩ := find_of_load hstored
      exact absurd hid (hfresh row hrow)
  | publishRevision suite expected =>
    refine sound_of_settle hs fun r s' hok => ?_
    obtain ⟨old, new, _, hold, -, -, -, hnew, hgrows, hconsistent, hload, hothers, hsnapshot⟩ :=
      publishRevision_stores hs hok
    refine ⟨sound_of_stores hconsistent hload hsnapshot (by rw [hnew]) (by rw [hnew])
      (by rw [hnew]), grown_of_write hload hothers ?_⟩
    intro stored hstored
    rw [hgrows.id_eq, hold] at hstored
    cases hstored
    exact hgrows
  | publishRetire suite expected =>
    refine sound_of_settle hs fun r s' hok => ?_
    obtain ⟨old, new, hold, -, -, -, hnew, hgrows, hconsistent, hload, hothers, hsnapshot⟩ :=
      publishRetire_stores hs hok
    refine ⟨sound_of_stores hconsistent hload hsnapshot (by rw [hnew]) (by rw [hnew])
      (by rw [hnew]), grown_of_write hload hothers ?_⟩
    intro stored hstored
    rw [hgrows.id_eq, hold] at hstored
    cases hstored
    exact hgrows

theorem calls_sound (hs : s.Sound) (calls : List SuiteCall) :
    (calls.foldl perform s).Sound ∧ Grown s.tables (calls.foldl perform s).tables := by
  induction calls generalizing s with
  | nil => exact ⟨hs, Grown.refl _⟩
  | cons c calls ih =>
    obtain ⟨hsound, hgrown⟩ := perform_sound hs c
    obtain ⟨hafter, hlater⟩ := ih hsound
    exact ⟨hafter, hgrown.trans hlater⟩

theorem opened_sound {t : SuiteTables} (ht : t.Consistent) : Sound ⟨t, none, false⟩ := ⟨ht, nofun⟩

end SuiteSession

namespace SuiteTables
open SuiteSession

variable {t : SuiteTables} {suite stored : Suite} {suiteId : String}

theorem transact_sound (ht : t.Consistent) (x : SuiteTransaction) :
    (t.transact x).Consistent ∧ Grown t (t.transact x) := by
  have hcalls := calls_sound (opened_sound ht) x.calls
  rw [transact]
  split
  · exact ⟨ht, Grown.refl t⟩
  · exact ⟨hcalls.1.consistent, hcalls.2⟩

theorem run_sound (ht : t.Consistent) (xs : List SuiteTransaction) :
    (t.run xs).Consistent ∧ Grown t (t.run xs) := by
  induction xs generalizing t with
  | nil => exact ⟨ht, Grown.refl t⟩
  | cons x xs ih =>
    obtain ⟨hconsistent, hgrown⟩ := transact_sound ht x
    obtain ⟨hafter, hlater⟩ := ih hconsistent
    exact ⟨hafter, hgrown.trans hlater⟩

/-- No Suite is stored yet. -/
def Empty (t : SuiteTables) : Prop := t.suites = [] ∧ t.revisions = []

theorem consistent_of_empty (h : t.Empty) : t.Consistent := by
  obtain ⟨hsuites, hrevisions⟩ := h
  refine ⟨?_, ?_, ?_⟩
  · rw [hsuites]
    exact List.nodup_nil
  · rw [hsuites]
    nofun
  · rw [hrevisions]
    nofun

/-- Whatever callers pass to the gateway, in sessions that commit, fail or are left by an
exception: every Suite row reads back as a valid Suite whose version counts its changes, and every
later read finds it the same or grown, never renamed, rewritten or revived. -/
theorem stored_suites_only_grow (ht : t.Empty) (earlier later : List SuiteTransaction) :
    (∀ row ∈ (t.run earlier).suites, ∃ suite, (t.run earlier).load row.id = .ok suite) ∧
    ∀ suiteId suite, (t.run earlier).load suiteId = .ok suite →
      suite.version + 1 = suite.revisions.length + suite.status.changes ∧
      ∃ suite', ((t.run earlier).run later).load suiteId = .ok suite' ∧ Grows suite suite' ∧
        (suite'.version = suite.version → suite' = suite) := by
  have hconsistent := (run_sound (consistent_of_empty ht) earlier).1
  refine ⟨?_, ?_⟩
  · intro row hrow
    obtain ⟨suite, hstored, -⟩ := hconsistent.stored row hrow
    exact ⟨suite, hstored.id_eq ▸ load_of_stored hconsistent hrow hstored⟩
  · intro suiteId suite hload
    obtain ⟨-, _, -, -, hcounted⟩ := stored_of_load hconsistent hload
    obtain ⟨suite', hload', hgrows⟩ := (run_sound hconsistent later).2 suiteId suite hload
    exact ⟨hcounted, suite', hload', hgrows, hgrows.eq_of_version⟩

/-- Tables of one project and one profile, without a Suite. -/
def fresh : SuiteTables := { projects := ["project-1"], profiles := ["profile-default"] }

theorem fresh_empty : fresh.Empty := ⟨rfl, rfl⟩

/-- A session that registers a Suite. -/
def registered : SuiteTransaction := ⟨[.register smokeSuite], false⟩

theorem registered_sound : (fresh.run [registered]).Consistent ∧
    (fresh.run [registered]).load smokeSuite.id = .ok smokeSuite := by
  have hconsistent := (run_sound (consistent_of_empty fresh_empty) [registered]).1
  have hrow : (fresh.run [registered]).suites.head (by decide) ∈
      (fresh.run [registered]).suites := List.head_mem _
  refine ⟨hconsistent, load_of_stored hconsistent hrow ?_⟩
  exact ⟨by decide, by decide, by decide, by decide, by decide, by decide, by decide⟩

theorem stored_suites_only_grow_smoke : ∃ suite',
    ((fresh.run [registered]).run [registered]).load smokeSuite.id = .ok suite' ∧
      Grows smokeSuite suite' := by
  obtain ⟨suite', hload, hgrows, -⟩ := ((stored_suites_only_grow fresh_empty [registered]
    [registered]).2 _ _ registered_sound.2).2
  exact ⟨suite', hload, hgrows⟩

/-- A Suite with one revision that has grown answers its registration exactly when no revision was
appended. -/
theorem sameRegistration_iff {first revision : SuiteRevision} (hgrows : Grows suite stored)
    (hone : suite.revisions = [revision]) (hfirst : stored.revisions.head? = some first) :
    SameRegistration stored suite first revision ↔ stored.revisions = suite.revisions := by
  obtain ⟨rest, hrest⟩ := hgrows.history
  rw [hone, List.singleton_append] at hrest
  have hsame : first = revision := by
    rw [← hrest] at hfirst
    exact (Option.some.inj hfirst).symm
  subst hsame
  have hcurrent := stored.facts.current
  have hcurrent' := suite.facts.current
  rw [hone, List.map_singleton, List.getLast?_singleton, Option.some.injEq] at hcurrent'
  constructor
  · rintro ⟨-, -, hid, -⟩
    cases hcase : rest with
    | nil => rw [← hrest, hcase, hone]
    | cons x xs =>
      -- the last revision is another one, and ids do not repeat
      exfalso
      have hids := stored.facts.ids
      rw [← hrest, List.map_cons, List.nodup_cons] at hids
      rw [← hrest, hid, ← hcurrent', List.map_cons, hcase, List.map_cons,
        List.getLast?_cons_cons] at hcurrent
      apply hids.1
      rw [hcase, List.map_cons]
      exact List.mem_of_getLast? hcurrent
  · intro hrevisions
    rw [hrevisions, hone, List.map_singleton, List.getLast?_singleton,
      Option.some.injEq] at hcurrent
    exact ⟨hgrows.project_eq, hgrows.name_eq, hcurrent.symm.trans hcurrent', rfl, rfl⟩

/-- The publication of what a command made of a Suite. -/
def publication : Suite.Command → Suite → Suite → SuiteCall
  | .publishRevision _ _, new, old => .publishRevision new old
  | .retire _ _, new, old => .publishRetire new old

/-- What the database asks of a command beyond the aggregate: revision ids are global, and the
profile is registered. -/
def Admits (t : SuiteTables) : Suite.Command → Prop
  | .publishRevision content _ => content.revisionId ∉ t.revisions.map (·.id) ∧
      content.resourceProfileId ∈ t.profiles
  | .retire _ _ => True

instance (t : SuiteTables) (c : Suite.Command) : Decidable (Admits t c) :=
  match c with
  | .publishRevision _ _ => inferInstanceAs (Decidable (_ ∧ _))
  | .retire _ _ => inferInstanceAs (Decidable True)

/-- A session that loads a Suite and publishes what a command made of it. -/
def commanded (suiteId : String) (c : Suite.Command) (new old : Suite) : SuiteTransaction :=
  ⟨[.getSuiteForUpdate suiteId, publication c new old], false⟩

theorem transact_commanded {old new : Suite} {c : Suite.Command}
    (hload : t.load suiteId = .ok old) : t.transact (commanded suiteId c new old) =
      if ((SuiteSession.mk t (some old) false).perform (publication c new old)).aborted then t
      else ((SuiteSession.mk t (some old) false).perform (publication c new old)).tables := by
  have hget : (SuiteSession.mk t none false).perform (.getSuiteForUpdate suiteId) =
      ⟨t, some old, false⟩ := by
    simp only [perform, getSuiteForUpdate, hload, ok_bind]
    rfl
  simp only [transact, commanded, List.foldl_cons, List.foldl_nil, hget, Bool.false_eq_true,
    false_or]

/-- The stored row of an active Suite is the one its publication matches. -/
theorem exists_matched (ht : t.Consistent) {old : Suite} (hload : t.load suiteId = .ok old)
    (hactive : old.status = .active) : ∃ row ∈ t.suites, Matched old.id old.version row := by
  obtain ⟨-, row, hrow, hstored, -⟩ := stored_of_load ht hload
  exact ⟨row, hrow, hstored.id_eq, hstored.version_eq, hstored.status_eq.trans hactive⟩

/-- The next revision of a stored Suite can be inserted where the database admits it. -/
theorem insert_next (ht : t.Consistent) {old : Suite} {revision : SuiteRevision}
    {content : RevisionContent} {v : ℤ} (hload : t.load suiteId = .ok old)
    (hrevision : revision.toFields = content.revision old.id (old.revisions.length + 1)) :
    (∃ t', t.insertRevision revision.toRow = .ok t') ↔
      Admits t (.publishRevision content v) := by
  obtain ⟨-, row, hrow, hstored, -⟩ := stored_of_load ht hload
  have hid : revision.toRow.id = content.revisionId := congrArg (·.id) hrevision
  have hsuite : revision.toRow.suiteId = old.id := congrArg (·.suiteId) hrevision
  have hno : revision.toRow.revisionNo = old.revisions.length + 1 :=
    congrArg (·.revisionNo) hrevision
  have hprofile : revision.toRow.resourceProfileId = some content.resourceProfileId :=
    congrArg (fun f : SuiteRevision.Fields => some f.resourceProfileId) hrevision
  constructor
  · rintro ⟨t', h⟩
    obtain ⟨hfresh, -, -, hknown, -⟩ := insertRevision_eq_ok.mp h
    refine ⟨?_, hknown _ hprofile⟩
    rintro hmem
    obtain ⟨x, hx, hxid⟩ := List.mem_map.mp hmem
    exact hfresh x hx (hxid.trans hid.symm)
  · rintro ⟨hfresh, hknown⟩
    refine ⟨_, insertRevision_eq_ok.mpr ⟨?_, ?_, ?_, ?_, rfl⟩⟩
    · intro x hx hxid
      exact hfresh (List.mem_map.mpr ⟨x, hx, hxid.trans hid⟩)
    · intro x hx hxsuite hxno
      -- the stored numbers of the Suite end at its length
      have hmem : x ∈ t.revisionRows old.id :=
        List.mem_filter.mpr ⟨hx, decide_eq_true (hxsuite.trans hsuite)⟩
      rw [hstored.revisions_eq] at hmem
      obtain ⟨item, hitem, rfl⟩ := List.mem_map.mp hmem
      have hnumber := List.mem_map_of_mem (f := fun i : SuiteRevision => i.revisionNo) hitem
      rw [old.facts.numbers, List.mem_map] at hnumber
      obtain ⟨n, hn, hitemno⟩ := hnumber
      rw [List.mem_range] at hn
      rw [hno] at hxno
      have : item.toRow.revisionNo = item.revisionNo := rfl
      omega
    · rw [hsuite, ← hstored.id_eq]
      exact List.mem_map_of_mem hrow
    · intro profile hsome
      rw [hprofile] at hsome
      cases hsome
      exact hknown

theorem locked_sound (ht : t.Consistent) {old : Suite} (hload : t.load suiteId = .ok old) :
    Sound ⟨t, some old, false⟩ := by
  refine ⟨ht, ?_⟩
  rintro _ ⟨⟩
  exact ⟨old, (stored_of_load ht hload).1 ▸ hload, rfl, rfl⟩

theorem locked_expected (t : SuiteTables) (old : Suite) :
    SuiteSession.requireExpected ⟨t, some old, false⟩ old = .ok () := by
  rw [requireExpected, raiseIf_eq_ok]
  exact not_not.mpr rfl

/-- The gateway publishes what a command appended as soon as the database takes both writes. -/
theorem publish_of_writes {old new : Suite} {revision : SuiteRevision} {t₁ t₂ : SuiteTables}
    (hid : new.id = old.id) (hversion : new.version = old.version + 1)
    (hrevisions : new.revisions = old.revisions ++ [revision])
    (hinsert : t.insertRevision revision.toRow = .ok t₁)
    (hupdate : t₁.updateActive new.id old.version (fun row => { row with
      version := new.version }) = .ok t₂) :
    SuiteSession.publishRevision ⟨t, some old, false⟩ new old =
      .ok (⟨new, false⟩, ⟨t₂, some new, false⟩) := by
  rw [SuiteSession.publishRevision, locked_expected, ok_bind, raiseIf_of_not (not_not.mpr hid),
    ok_bind, raiseIf_of_not (not_not.mpr hversion), ok_bind,
    raiseIf_of_not (by simp [hrevisions]), ok_bind]
  simp only [hrevisions, List.getLast?_concat, need, ok_bind, List.dropLast_concat]
  rw [raiseIf_of_not (not_not.mpr rfl), ok_bind, hinsert, ok_bind, hupdate]
  rfl

theorem retire_of_write {old new : Suite} {t₂ : SuiteTables} (hid : new.id = old.id)
    (hversion : new.version = old.version + 1) (hrevisions : new.revisions = old.revisions)
    (hstatus : new.status = .retired) (hretired : new.retiredAt.isSome)
    (hupdate : t.updateActive new.id old.version (fun row => { row with
      status := .retired
      retiredAt := new.retiredAt
      version := new.version }) = .ok t₂) :
    SuiteSession.publishRetire ⟨t, some old, false⟩ new old =
      .ok (⟨new, false⟩, ⟨t₂, some new, false⟩) := by
  rw [SuiteSession.publishRetire, locked_expected, ok_bind, raiseIf_of_not (not_not.mpr hid),
    ok_bind, raiseIf_of_not (by simp [hstatus, Option.isSome_iff_ne_none.mp hretired]), ok_bind,
    raiseIf_of_not (not_not.mpr hversion), ok_bind, raiseIf_of_not (not_not.mpr hrevisions),
    ok_bind, hupdate]
  rfl

/-- A stored Suite under the id of another one is that one. -/
theorem eq_of_load {old old' : Suite} (ht : t.Consistent) (hload : t.load suiteId = .ok old)
    (hload' : t.load old'.id = .ok old') (hid : old'.id = old.id) : old' = old := by
  rw [hid, (stored_of_load ht hload).1] at hload'
  exact Except.ok.inj (hload'.symm.trans hload)

theorem revision_read_back (ht : t.Consistent) {old new : Suite} {content : RevisionContent}
    {v : ℤ} (hload : t.load suiteId = .ok old)
    (hc : old.publishRevision content v = .ok new) :
    let s := (SuiteSession.mk t (some old) false).perform (.publishRevision new old)
    if Admits t (.publishRevision content v) then
      s.aborted = false ∧ s.tables.load suiteId = .ok new ∧
        ∀ other stored, other ≠ suiteId →
          (s.tables.load other = .ok stored ↔ t.load other = .ok stored)
    else s.aborted = true := by
  have hid := (stored_of_load ht hload).1
  obtain ⟨-, hactive, -, revision, hrevision, hnew⟩ := publishRevision_eq_ok.mp hc
  have hrevisions : new.revisions = old.revisions ++ [revision] := by rw [hnew]
  have hnewid : new.id = old.id := by rw [hnew]
  have hversion : new.version = old.version + 1 := by rw [hnew]
  split
  · next hadmits =>
    obtain ⟨t₁, hinsert⟩ := (insert_next ht hload hrevision).mpr hadmits
    obtain ⟨-, -, -, -, rfl⟩ := insertRevision_eq_ok.mp hinsert
    have hmatched := exists_matched ht hload hactive
    rw [← hnewid] at hmatched
    obtain ⟨t₂, hupdate⟩ : ∃ t₂, SuiteTables.updateActive
        { t with revisions := t.revisions ++ [revision.toRow] } new.id old.version
        (fun row => { row with version := new.version }) = .ok t₂ :=
      ⟨_, (updateActive_eq_ok (t := { t with revisions := t.revisions ++ [revision.toRow] })
        ht.ids).mpr ⟨hmatched, rfl⟩⟩
    have hok := publish_of_writes hnewid hversion hrevisions hinsert hupdate
    obtain ⟨old', new', _, hload', hid', -, -, hmade, -, -, hstored, hothers, -⟩ :=
      publishRevision_stores (locked_sound ht hload) hok
    obtain rfl : old' = old := eq_of_load ht hload hload' hid'
    obtain rfl : new' = new := by
      apply eq_of_fields
      rw [hmade, hnew]
    rw [hnewid, hid] at hstored hothers
    rw [perform, hok]
    exact ⟨rfl, hstored, hothers⟩
  · next hrefused =>
    rw [perform]
    rcases settle_cases ⟨t, some old, false⟩
        (SuiteSession.publishRevision ⟨t, some old, false⟩ new old) with
      hfailed | ⟨r, s', hok, -⟩
    · rw [hfailed]
    · obtain ⟨revision', _, hlast, hinsert⟩ := publishRevision_inserts hok
      rw [hrevisions, List.getLast?_concat, Option.some.injEq] at hlast
      subst hlast
      exact absurd ((insert_next ht hload hrevision).mp ⟨_, hinsert⟩) hrefused

theorem retirement_read_back (ht : t.Consistent) {old new : Suite} {retiredAt : Datetime} {v : ℤ}
    (hload : t.load suiteId = .ok old) (hc : old.retire retiredAt v = .ok new) :
    let s := (SuiteSession.mk t (some old) false).perform (.publishRetire new old)
    s.aborted = false ∧ s.tables.load suiteId = .ok new ∧
      ∀ other stored, other ≠ suiteId →
        (s.tables.load other = .ok stored ↔ t.load other = .ok stored) := by
  have hid := (stored_of_load ht hload).1
  obtain ⟨-, hactive, -, hnew⟩ := retire_eq_ok.mp hc
  have hnewid : new.id = old.id := by rw [hnew]
  have hmatched := exists_matched ht hload hactive
  rw [← hnewid] at hmatched
  obtain ⟨t₂, hupdate⟩ : ∃ t₂, t.updateActive new.id old.version (fun row => { row with
      status := .retired
      retiredAt := new.retiredAt
      version := new.version }) = .ok t₂ :=
    ⟨_, (updateActive_eq_ok ht.ids).mpr ⟨hmatched, rfl⟩⟩
  have hok := retire_of_write hnewid (by rw [hnew]) (by rw [hnew]) (by rw [hnew])
    (by rw [hnew]; rfl) hupdate
  obtain ⟨old', new', hload', hid', -, -, hmade, -, -, hstored, hothers, -⟩ :=
    publishRetire_stores (locked_sound ht hload) hok
  obtain rfl : old' = old := eq_of_load ht hload hload' hid'
  obtain rfl : new' = new := by
    apply eq_of_fields
    rw [hmade, hnew]
  rw [hnewid, hid] at hstored hothers
  rw [perform, hok]
  exact ⟨rfl, hstored, hothers⟩

/-- A registration that is sent again, whatever happened since: it is answered by the Suite as it
is stored then, retired or not, as long as no revision was appended, and refused afterwards. -/
theorem register_again (ht : t.Consistent) (hload : t.load suite.id = .ok suite)
    (hversion : suite.version = 0) (later : List SuiteTransaction) :
    ∃ stored, (t.run later).load suite.id = .ok stored ∧ Grows suite stored ∧
      (SuiteSession.mk (t.run later) none false).register suite =
        if stored.revisions = suite.revisions then
          .ok (⟨stored, true⟩, ⟨t.run later, some stored, false⟩)
        else .error (contract "suite_id" "already_exists") := by
  obtain ⟨hconsistent, hgrown⟩ := run_sound ht later
  obtain ⟨stored, hstored, hgrows⟩ := hgrown suite.id suite hload
  refine ⟨stored, hstored, hgrows, ?_⟩
  obtain ⟨-, row, hrow, hrowstored, -⟩ := stored_of_load hconsistent hstored
  obtain ⟨-, _, -, -, hcounted⟩ := stored_of_load ht hload
  have hnonneg := changes_nonneg suite.status
  have hlength : suite.revisions.length = 1 := by
    have hpos := List.length_pos_of_ne_nil suite.facts.nonempty
    omega
  obtain ⟨revision, hone⟩ := List.length_eq_one_iff.mp hlength
  obtain ⟨first, hfirst⟩ : ∃ first, stored.revisions.head? = some first := by
    obtain ⟨rest, hrest⟩ := hgrows.history
    rw [hone] at hrest
    exact ⟨revision, by rw [← hrest]; rfl⟩
  have hany : (t.run later).suites.any (·.id = suite.id) = true := by
    rw [List.any_eq_true]
    refine ⟨row, hrow, decide_eq_true ?_⟩
    rw [hrowstored.id_eq, hgrows.id_eq]
  have hguard : ¬ (suite.version ≠ 0 ∨ suite.revisions.length ≠ 1) := by
    simp [hversion, hlength]
  have hhead : suite.revisions.head? = some revision := by rw [hone]; rfl
  rw [SuiteSession.register, raiseIf_of_not hguard, hhead]
  simp only [need, ok_bind, hany, if_true, getSuiteForUpdate, hstored, pure, Except.pure, hfirst,
    sameRegistration_iff hgrows hone hfirst]
  by_cases hsame : stored.revisions = suite.revisions
  · simp [hsame, raiseIf, ok_bind]
  · simp [hsame, raiseIf, error_bind]

/-- What a command made of a Suite is stored by its session where the database admits it. -/
theorem load_commanded (ht : t.Consistent) {old new : Suite} {c : Suite.Command}
    (hload : t.load suiteId = .ok old) (hc : old.exec c = .ok new) (hadmits : Admits t c) :
    (t.transact (commanded suiteId c new old)).load suiteId = .ok new := by
  rw [transact_commanded hload]
  cases c with
  | publishRevision content v =>
    have hback := revision_read_back ht hload hc
    rw [if_pos hadmits] at hback
    obtain ⟨haborted, hstored, -⟩ := hback
    rw [publication, haborted, if_neg Bool.false_ne_true]
    exact hstored
  | retire retiredAt v =>
    obtain ⟨haborted, hstored, -⟩ := retirement_read_back ht hload hc
    rw [publication, haborted, if_neg Bool.false_ne_true]
    exact hstored

/-- A retirement leaves the registration answered, by the retired Suite; a second revision has it
refused. -/
theorem register_again_smoke :
    (∃ retired, smokeSuite.exec (.retire ⟨9000000, some 0⟩ 0) = .ok retired ∧
      let later := [commanded "suite-1" (.retire ⟨9000000, some 0⟩ 0) retired smokeSuite]
      (SuiteSession.mk ((fresh.run [registered]).run later) none false).register smokeSuite =
        .ok (⟨retired, true⟩, ⟨(fresh.run [registered]).run later, some retired, false⟩)) ∧
    ∃ new, smokeSuite.exec (.publishRevision (draftContent "revision-2" 2) 0) = .ok new ∧
      let later := [commanded "suite-1" (.publishRevision (draftContent "revision-2" 2) 0) new
        smokeSuite]
      (SuiteSession.mk ((fresh.run [registered]).run later) none false).register smokeSuite =
        .error (contract "suite_id" "already_exists") := by
  obtain ⟨hconsistent, hload⟩ := registered_sound
  have hstored : ∀ {c new}, smokeSuite.exec c = .ok new → Admits (fresh.run [registered]) c →
      ((fresh.run [registered]).run [commanded "suite-1" c new smokeSuite]).load smokeSuite.id =
        .ok new := fun hc hadmits => load_commanded hconsistent hload hc hadmits
  constructor
  · obtain ⟨retired, hretired⟩ :
        ∃ retired, smokeSuite.exec (.retire ⟨9000000, some 0⟩ 0) = .ok retired := ⟨_, rfl⟩
    refine ⟨retired, hretired, ?_⟩
    obtain ⟨stored, hload', -, hregister⟩ := register_again hconsistent hload rfl
      [commanded "suite-1" (.retire ⟨9000000, some 0⟩ 0) retired smokeSuite]
    obtain rfl := Except.ok.inj ((hstored hretired trivial).symm.trans hload')
    obtain ⟨-, -, -, hmade⟩ := retire_eq_ok.mp hretired
    rw [if_pos (congrArg (·.revisions) hmade)] at hregister
    exact hregister
  · obtain ⟨new, hnew⟩ :
        ∃ new, smokeSuite.exec (.publishRevision (draftContent "revision-2" 2) 0) = .ok new :=
      ⟨_, rfl⟩
    refine ⟨new, hnew, ?_⟩
    obtain ⟨stored, hload', -, hregister⟩ := register_again hconsistent hload rfl
      [commanded "suite-1" (.publishRevision (draftContent "revision-2" 2) 0) new smokeSuite]
    obtain rfl := Except.ok.inj ((hstored hnew (by decide)).symm.trans hload')
    obtain ⟨-, -, -, revision, -, hmade⟩ := publishRevision_eq_ok.mp hnew
    have hgrown : new.revisions ≠ smokeSuite.revisions := by
      rw [congrArg (·.revisions) hmade]
      exact fun hsame => absurd (congrArg List.length hsame) (by simp)
    rw [if_neg hgrown] at hregister
    exact hregister

/-- The next session reads a Suite exactly as the command made it, where the database admits the
command; where it does not, the session leaves no trace. The other Suites are untouched. -/
theorem command_read_back (ht : t.Empty) (earlier : List SuiteTransaction) {old new : Suite}
    {c : Suite.Command} (hload : (t.run earlier).load suiteId = .ok old)
    (hc : old.exec c = .ok new) :
    let t' := (t.run earlier).transact (commanded suiteId c new old)
    (Admits (t.run earlier) c → t'.load suiteId = .ok new) ∧
      (¬ Admits (t.run earlier) c → t' = t.run earlier) ∧
      ∀ other stored, other ≠ suiteId →
        (t'.load other = .ok stored ↔ (t.run earlier).load other = .ok stored) := by
  have hconsistent := (run_sound (consistent_of_empty ht) earlier).1
  intro t'
  have ht' : t' = _ := transact_commanded hload
  cases c with
  | publishRevision content v =>
    have hback := revision_read_back hconsistent hload hc
    by_cases hadmits : Admits (t.run earlier) (.publishRevision content v)
    · rw [if_pos hadmits] at hback
      obtain ⟨haborted, hstored, hothers⟩ := hback
      rw [publication, haborted, if_neg Bool.false_ne_true] at ht'
      rw [ht']
      exact ⟨fun _ => hstored, fun h => absurd hadmits h, hothers⟩
    · rw [if_neg hadmits] at hback
      rw [publication, hback, if_pos rfl] at ht'
      rw [ht']
      exact ⟨fun h => absurd h hadmits, fun _ => rfl, fun _ _ _ => Iff.rfl⟩
  | retire retiredAt v =>
    obtain ⟨haborted, hstored, hothers⟩ := retirement_read_back hconsistent hload hc
    rw [publication, haborted, if_neg Bool.false_ne_true] at ht'
    rw [ht']
    exact ⟨fun _ => hstored, fun h => absurd trivial h, hothers⟩

theorem command_read_back_smoke : ∃ new,
    smokeSuite.exec (.publishRevision (draftContent "revision-2" 2) 0) = .ok new ∧
      ((fresh.run [registered]).transact (commanded "suite-1"
        (.publishRevision (draftContent "revision-2" 2) 0) new smokeSuite)).load "suite-1" =
          .ok new := by
  obtain ⟨new, hnew⟩ : ∃ new,
      smokeSuite.exec (.publishRevision (draftContent "revision-2" 2) 0) = .ok new :=
    ⟨_, rfl⟩
  exact ⟨new, hnew,
    (command_read_back fresh_empty [registered] registered_sound.2 hnew).1 (by decide)⟩

end SuiteTables
end QaRunner
