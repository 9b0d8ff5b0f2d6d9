import QaRunner.Adapters.UnitOfWorkHistory
import Mathlib.Data.Set.List

/-! What the audit log lists of an object: every record that a committed unit of work appended, in
its order, and nothing else, for good. -/
namespace QaRunner
open Guarded PublishOnce Transactions

namespace ApplicationUow

theorem auditRow_injective : Function.Injective auditRow := by
  intro a b h
  have ha := decodeAudit_auditRow a
  rw [h, decodeAudit_auditRow b] at ha
  exact (Except.ok.inj ha).symm

variable {F : Type} [VersionedFact F] [DecidableEq F] {codecs : String → Option (FactCodec F)}
  {rows rows' : List UowRow} {objectKind objectId : String} {record : AuditRecord}

theorem mem_auditEvents {row : AuditLogRow} : row ∈ auditEvents rows ↔ .audit row ∈ rows := by
  rw [auditEvents, List.mem_filterMap]
  constructor
  · rintro ⟨r, hr, hsome⟩
    cases r <;> cases hsome
    exact hr
  · intro hr
    exact ⟨_, hr, rfl⟩

theorem mem_objectEvents (hclosed : Closed (rules codecs) (Justified codecs) rows)
    {row : AuditLogRow} : row ∈ objectEvents objectKind objectId rows ↔
      .audit row ∈ rows ∧ row.objectType = objectKind ∧ row.objectId = objectId := by
  rw [objectEvents, Sorting.mem_sortOn, List.mem_filter, mem_auditEvents, decide_eq_true_eq]
  refine and_congr_right fun hmem => and_congr_right fun _ => and_iff_left ?_
  obtain ⟨record, rfl⟩ := hclosed.justified _ hmem
  rfl

/-- The ids of the listed rows are apart. -/
theorem pairwise_auditEvents (hclosed : Closed (rules codecs) (Justified codecs) rows) :
    (auditEvents rows).Pairwise fun a b => a.id ≠ b.id := by
  rw [auditEvents, List.pairwise_filterMap]
  refine hclosed.apart.imp fun {p q} hpq a ha b hb hid => hpq ?_
  cases p <;> cases ha
  cases q <;> cases hb
  exact hid

/-- The records of an object: their rows are the ones that are listed. -/
theorem exists_records (hclosed : Closed (rules codecs) (Justified codecs) rows)
    (objectKind objectId : String) : ∃ records,
      objectEvents objectKind objectId rows = records.map auditRow ∧
      listForObject objectKind objectId rows = .ok records := by
  have hrange : objectEvents objectKind objectId rows ∈ Set.range (List.map auditRow) := by
    rw [Set.range_list_map]
    intro row hrow
    obtain ⟨record, rfl⟩ := hclosed.justified _ ((mem_objectEvents hclosed).mp hrow).1
    exact ⟨record, rfl⟩
  obtain ⟨records, hrecords⟩ := hrange
  refine ⟨records, hrecords.symm, ?_⟩
  rw [listForObject, ← hrecords, collect_eq_ok, List.forall₂_map_left_iff, List.forall₂_same]
  exact fun record _ => decodeAudit_auditRow record

/-- The instants and ids that the rows are listed by are apart. -/
theorem nodup_keys (hclosed : Closed (rules codecs) (Justified codecs) rows)
    (p : AuditLogRow → Bool) :
    (((auditEvents rows).filter p).map fun row => toLex (row.occurredAt.micros, row.id)).Nodup := by
  refine List.pairwise_map.mpr (((pairwise_auditEvents hclosed).filter _).imp fun hne hsame => ?_)
  exact hne (Prod.mk.inj (toLex.injective hsame)).2

/-- As rows are added, the records of an object stay listed in their order. -/
theorem records_sublist (hclosed : Closed (rules codecs) (Justified codecs) rows)
    (hclosed' : Closed (rules codecs) (Justified codecs) rows') (hrows : rows ⊆ rows')
    {records later : List AuditRecord}
    (h : objectEvents objectKind objectId rows = records.map auditRow)
    (h' : objectEvents objectKind objectId rows' = later.map auditRow) :
    records.Sublist later := by
  have hevents : (objectEvents objectKind objectId rows).Sublist
      (objectEvents objectKind objectId rows') := by
    apply Sorting.sortOn_sublist (nodup_keys hclosed _) (nodup_keys hclosed' _)
    intro row hrow
    obtain ⟨hmem, hobject⟩ := List.mem_filter.mp hrow
    exact List.mem_filter.mpr ⟨mem_auditEvents.mpr (hrows (mem_auditEvents.mp hmem)), hobject⟩
  rw [h, h', List.sublist_map_iff] at hevents
  obtain ⟨sub, hsub, hmap⟩ := hevents
  rwa [List.map_injective_iff.mpr auditRow_injective hmap]

variable {τ : Type} [DecidableEq τ] {s s' : Store τ (UowCall F) UowRow UowError (UowResult F)}
  {t u : τ}

/-- A committed unit of work was told that the record is in the log. -/
def Accepted (s : Store τ (UowCall F) UowRow UowError (UowResult F)) (record : AuditRecord) :
    Prop :=
  ∃ t ∈ s.order, ∃ a ∈ (s.txs t).answers, a.call = .appendAudit record ∧
    ∃ replayed, a.result = .ok (.appended ⟨record, replayed⟩)

omit [DecidableEq τ] in
/-- The rows of the log are those of the records that were accepted. -/
theorem accepted_iff (hs : Inv (rules codecs) (Justified codecs) (Answered codecs) s) :
    Accepted s record ↔ .audit (auditRow record) ∈ s.committed := by
  constructor
  · rintro ⟨t, ht, a, ha, hcall, replayed, hresult⟩
    have hpost := hs.answer_committed (lawful codecs) ht ha
    obtain ⟨call, added, result⟩ := a
    obtain rfl : call = .appendAudit record := hcall
    obtain rfl : result = .ok (.appended ⟨record, replayed⟩) := hresult
    obtain ⟨inner, hinner, happended⟩ := hpost
    cases inner with
    | error e => cases hinner
    | ok r =>
      cases hinner
      obtain ⟨-, ⟨row, hrow, -, hdecoded⟩, -⟩ := happended _ rfl
      obtain ⟨stored, rfl⟩ := hs.justified_committed (lawful codecs) hrow
      rw [decodeAudit_auditRow] at hdecoded
      cases hdecoded
      exact hrow
  · intro hrow
    obtain ⟨t, ht, a, ha, hadded, hadds⟩ := exists_adds hs hrow
    refine ⟨t, ht, a, ha, ?_⟩
    obtain ⟨call, added, result⟩ := a
    cases hadds with
    | nothing => cases hadded
    | fact hstored => simp at hadded
    | audit other =>
      have hsame : auditRow record = auditRow other := by simpa using hadded
      obtain rfl := auditRow_injective hsame
      exact ⟨rfl, false, rfl⟩

/-- However the statements interleave, the log lists of an object exactly the records that committed
units of work were told are in it, by their instants, each under an id that no other record of the
log has, and later records are put between them without moving or dropping any. -/
theorem audit_log (h : Reachable (rules codecs) s) (objectKind objectId : String) :
    ∃ records, listForObject objectKind objectId s.committed = .ok records ∧
      (∀ record, record ∈ records ↔
        Accepted s record ∧ record.objectKind = objectKind ∧ record.objectId = objectId) ∧
      (records.Pairwise fun a b => a.occurredAt ≤ b.occurredAt) ∧
      (∀ a b, Accepted s a → Accepted s b → a.eventId = b.eventId → a = b) ∧
      ∀ s', Relation.ReflTransGen (Step (rules codecs)) s s' → ∃ later,
        listForObject objectKind objectId s'.committed = .ok later ∧ records.Sublist later := by
  have hs := inv_of_reachable h
  have hclosed := hs.closed_committed (lawful codecs)
  obtain ⟨records, hevents, hlisted⟩ := exists_records hclosed objectKind objectId
  refine ⟨records, hlisted, fun record => ?_, ?_, fun a b ha hb hid => ?_, fun s' hrun => ?_⟩
  · rw [accepted_iff hs, ← List.mem_map_of_injective auditRow_injective, ← hevents,
      mem_objectEvents hclosed]
    rfl
  · have hsorted := Sorting.pairwise_sortOn
      (fun row : AuditLogRow => toLex (row.occurredAt.micros, row.id))
      ((auditEvents s.committed).filter fun row => row.objectType = objectKind ∧
        row.objectId = objectId ∧ entryText "schema_version" row.payload = some auditSchemaVersion)
    rw [objectEvents] at hevents
    rw [hevents, List.pairwise_map] at hsorted
    refine hsorted.imp fun {a b} hab => ?_
    rcases Prod.Lex.le_iff.mp hab with hlt | ⟨heq, -⟩
    · exact Nat.le_of_lt hlt
    · exact Nat.le_of_eq heq
  · rw [accepted_iff hs] at ha hb
    have hsame := hclosed.eq_of_clash ha hb hid
    rw [UowRow.audit.injEq] at hsame
    exact auditRow_injective hsame
  · obtain ⟨-, hs'⟩ := hs.run_frame (lawful codecs) hrun
    have hclosed' := hs'.closed_committed (lawful codecs)
    obtain ⟨later, hevents', hlisted'⟩ := exists_records hclosed' objectKind objectId
    exact ⟨later, hlisted', records_sublist hclosed hclosed'
      (hs.committed_prefix (lawful codecs) hrun).subset hevents hevents'⟩

/-- A record about the draft. -/
def draftRecord (eventId action : String) (occurredAt : Datetime)
    (accepted : AuditRecord.Fields.postInit ⟨eventId, "ada", "password", "request-1", "draft",
      "draft-1", action, "allowed", "policy", none, none, occurredAt, "api"⟩ = .ok ()) :
    AuditRecord := ⟨_, accepted⟩

def openedRecord : AuditRecord := draftRecord "event-1" "open" ⟨1000000, some 0⟩ (by decide)

def editedRecord : AuditRecord := draftRecord "event-2" "edit" ⟨2000000, some 0⟩ (by decide)

/-- Two units of work append a record each, the later one first. -/
theorem exists_appended : ∃ s : DraftStore, Reachable (rules draftCodecs) s ∧ s.order = [0, 1] ∧
    s.committed = [.audit (auditRow editedRecord), .audit (auditRow openedRecord)] := by
  have hrun : ((rules draftCodecs).script (.appendAudit editedRecord)).run (rules draftCodecs).clash
      ({} : DraftStore).committed [] = ([.audit (auditRow editedRecord)],
        .ok (.appended ⟨editedRecord, false⟩)) := rfl
  obtain ⟨s, hs, horder, hidle, -, -, hrows⟩ := Inv.commit_alone (s := ({} : DraftStore)) (t := 0)
    (fun _ _ => rfl) List.not_mem_nil hrun
  have hrun' : ((rules draftCodecs).script (.appendAudit openedRecord)).run
      (rules draftCodecs).clash s.committed [] = ([.audit (auditRow openedRecord)],
        .ok (.appended ⟨openedRecord, false⟩)) := by
    rw [hrows]
    rfl
  obtain ⟨s', hs', horder', -, -, -, hrows'⟩ := Inv.commit_alone (t := 1) hidle (by simp [horder])
    hrun'
  refine ⟨s', hs.trans hs', by simp [horder', horder], ?_⟩
  rw [hrows', hrows]
  rfl

/-- Both records are listed, by their instants, and stay so. -/
theorem audit_log_draft : ∃ s : DraftStore, s.order = [0, 1] ∧
    listForObject "draft" "draft-1" s.committed = .ok [openedRecord, editedRecord] ∧
    Accepted s openedRecord ∧ Accepted s editedRecord ∧
    ∀ s', Relation.ReflTransGen (Step (rules draftCodecs)) s s' → ∃ later,
      listForObject "draft" "draft-1" s'.committed = .ok later ∧
        [openedRecord, editedRecord].Sublist later := by
  obtain ⟨s, hs, horder, hrows⟩ := exists_appended
  obtain ⟨records, hlisted, haccepted, -, -, hkept⟩ := audit_log hs "draft" "draft-1"
  have hevents : objectEvents "draft" "draft-1" s.committed =
      [auditRow openedRecord, auditRow editedRecord] := by
    rw [hrows]
    rfl
  have hlist : listForObject "draft" "draft-1" s.committed =
      .ok [openedRecord, editedRecord] := by
    rw [listForObject, hevents]
    exact collect_eq_ok.mpr (.cons (decodeAudit_auditRow _) (.cons (decodeAudit_auditRow _) .nil))
  obtain rfl : records = [openedRecord, editedRecord] := by
    rw [hlisted] at hlist
    exact Except.ok.inj hlist
  exact ⟨s, horder, hlist, ((haccepted _).mp (by simp)).1, ((haccepted _).mp (by simp)).1, hkept⟩

end ApplicationUow
end QaRunner
