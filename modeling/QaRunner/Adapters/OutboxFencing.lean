import QaRunner.Adapters.OutboxDelivery

/-! Whose lease a record finds: as long as the repair scan takes no lease from a call that still
works on the row, every record is of the call's own lease and every report is true. -/
namespace QaRunner.Outbox
open Relation

/-- The rows of a call that it has claimed and not recorded. -/
def Call.unrecorded : Call → List ClaimedRow
  | .publishing claimed _ => claimed
  | .delivered row _ rest _ => row :: rest
  | _ => []

def Call.report : Call → OutboxPublicationReport
  | .publishing _ report => report
  | .delivered _ _ _ report => report
  | .returned report => report
  | _ => {}

variable {ι : Type} {s t u : State ι} {i j : ι} {a : Action ι} {row row' : OutboxRow}
  {claimed : ClaimedRow} {call : Call} {publisher : ι → PostgresOutboxPublisher}

/-- A record changes a row only under the lease that its own call took. -/
def RecordsFenced [DecidableEq ι] (publisher : ι → PostgresOutboxPublisher) (s : State ι) : Prop :=
  ∀ i t, Step publisher s (.record i) t → ∀ row ∈ s.table.rows, row ∉ t.table.rows →
    row.status = .leased ∧ s.holder row.id = some i

/-- No row has fewer attempts than it had. -/
def AttemptsKept (s t : State ι) : Prop :=
  ∀ row ∈ s.table.rows, ∃ row' ∈ t.table.rows,
    row'.toOutboxEvent = row.toOutboxEvent ∧ row.attempts ≤ row'.attempts

/-- Every event that a report lists has the status it is listed under. -/
def ReportTrue (s : State ι) (report : OutboxPublicationReport) : Prop :=
  (∀ eventId ∈ report.published, ∃ row ∈ s.table.rows,
    row.eventId = eventId ∧ row.status = .published) ∧
  ∀ eventId ∈ report.quarantined, ∃ row ∈ s.table.rows,
    row.eventId = eventId ∧ row.status = .quarantined

/-- The repair scan finds no row stuck that a call has claimed and not recorded. -/
def SparesHolders (s : State ι) : Action ι → Prop
  | .repair now leaseTimeoutSeconds => ∀ row ∈ s.table.rows,
      OutboxTable.stuck now leaseTimeoutSeconds row = true →
        ∀ i, ∀ claimed ∈ (s.calls i).unrecorded, claimed.id ≠ row.id
  | _ => True

/-- The row of a claim is leased as the claim left it, and its lease is the call's. -/
def Holds (s : State ι) (i : ι) (claimed : ClaimedRow) : Prop :=
  ∃ row ∈ s.table.rows, row.toOutboxEvent = claimed.toOutboxEvent ∧ row.status = .leased ∧
    row.attempts = claimed.attempts ∧ s.holder row.id = some i

structure Fenced (s : State ι) : Prop where
  held : ∀ i, ∀ claimed ∈ (s.calls i).unrecorded, Holds s i claimed
  once : ∀ i, ((s.calls i).unrecorded.map (·.id)).Nodup
  reported : ∀ i, ReportTrue s (s.calls i).report

theorem ReportTrue.grows {report : OutboxPublicationReport} (h : ReportTrue s report)
    (hgrows : Grows s t) : ReportTrue t report := by
  constructor
  · intro eventId hlisted
    obtain ⟨row, hrow, heventId, hpublished⟩ := h.1 eventId hlisted
    obtain ⟨row', hrow', -, hsame⟩ := hgrows.rows row hrow
    have heq := hsame (Or.inl hpublished)
    subst heq
    exact ⟨row', hrow', heventId, hpublished⟩
  · intro eventId hlisted
    obtain ⟨row, hrow, heventId, hquarantined⟩ := h.2 eventId hlisted
    obtain ⟨row', hrow', -, hsame⟩ := hgrows.rows row hrow
    have heq := hsame (Or.inr hquarantined)
    subst heq
    exact ⟨row', hrow', heventId, hquarantined⟩

theorem ReportTrue.empty : ReportTrue s {} := by
  constructor
  · intro eventId hlisted
    cases hlisted
  · intro eventId hlisted
    cases hlisted

/-- A statement that does not match the row of a claim leaves the claim in place. -/
theorem Holds.update {p : OutboxRow → Bool} {f : OutboxRow → OutboxRow}
    (h : Holds s i claimed) (hf : ∀ row, (f row).toOutboxEvent = row.toOutboxEvent)
    (htable : t.table = s.table.update p f hf)
    (hholder : ∀ row ∈ s.table.rows, row.id = claimed.id → t.holder row.id = s.holder row.id)
    (hspares : ∀ row ∈ s.table.rows, row.id = claimed.id → row.status = .leased → p row = false) :
    Holds t i claimed := by
  obtain ⟨row, hrow, hevent, hleased, hattempts, hown⟩ := h
  have hid : row.id = claimed.id := congrArg OutboxEvent.id hevent
  refine ⟨row, ?_, hevent, hleased, hattempts, (hholder row hrow hid).trans hown⟩
  rw [htable]
  apply OutboxTable.mem_update.mpr
  refine ⟨row, hrow, ?_⟩
  rw [hspares row hrow hid hleased]
  rfl

/-- Two calls never hold one row. -/
theorem Holds.unique {other : ClaimedRow} (h : Holds s i claimed) (h' : Holds s j other)
    (hid : claimed.id = other.id) : i = j := by
  obtain ⟨row, hrow, hevent, -, -, hown⟩ := h
  obtain ⟨row', hrow', hevent', -, -, hown'⟩ := h'
  have hids : row.id = row'.id := by
    rw [hevent, hevent']
    exact hid
  have hsame := OutboxTable.eq_of_id hrow hrow' hids
  subst hsame
  rw [hown] at hown'
  exact Option.some.inj hown'

/-- The row that a record of a held claim changes is the held one. -/
theorem Holds.of_leasedRow (h : Holds s i claimed) (hrow : row ∈ s.table.rows)
    (hleased : OutboxTable.leasedRow claimed row = true) : row.status = .leased ∧
      row.eventId = claimed.eventId ∧ row.attempts = claimed.attempts ∧
        s.holder row.id = some i := by
  obtain ⟨row', hrow', hevent, hstatus, hattempts, hown⟩ := h
  have hid : row.id = row'.id := by
    rw [hevent]
    exact (of_decide_eq_true hleased).1
  have hsame := OutboxTable.eq_of_id hrow hrow' hid
  subst hsame
  exact ⟨hstatus, congrArg OutboxEvent.eventId hevent, hattempts, hown⟩

theorem Fenced.recordsFenced [DecidableEq ι] (h : Fenced s) : RecordsFenced publisher s := by
  intro i t hstep row hrow hchanged
  cases hstep with
  | @record _ claimed error rest report report' now table hcall hrecord =>
    have hheld : Holds s i claimed := by
      apply h.held
      rw [hcall]
      exact List.mem_cons_self
    obtain ⟨f, hf, rfl, -⟩ := recordDelivery_eq hrecord
    have hleased : OutboxTable.leasedRow claimed row = true := by
      by_contra hnot
      have hkept : row ∈ (s.table.update (OutboxTable.leasedRow claimed) f hf).rows :=
        OutboxTable.mem_update.mpr ⟨row, hrow, if_neg hnot⟩
      exact hchanged hkept
    obtain ⟨hstatus, -, -, hown⟩ := hheld.of_leasedRow hrow hleased
    exact ⟨hstatus, hown⟩

/-- One call went on, and the others hold and report what they did. -/
theorem Fenced.of_calls [DecidableEq ι] (h : Fenced s)
    (hcalls : t.calls = Function.update s.calls i call) (hgrows : Grows s t)
    (hothers : ∀ j, j ≠ i → ∀ claimed ∈ (s.calls j).unrecorded, Holds t j claimed)
    (hheld : ∀ claimed ∈ call.unrecorded, Holds t i claimed)
    (honce : (call.unrecorded.map (·.id)).Nodup) (hreport : ReportTrue t call.report) :
    Fenced t := by
  have hself : t.calls i = call := by rw [hcalls, Function.update_self]
  have hother : ∀ j, j ≠ i → t.calls j = s.calls j := by
    intro j hj
    rw [hcalls, Function.update_of_ne hj]
  refine ⟨fun j => ?_, fun j => ?_, fun j => ?_⟩
  · by_cases hj : j = i
    · subst hj
      rwa [hself]
    · rw [hother j hj]
      exact hothers j hj
  · by_cases hj : j = i
    · subst hj
      rwa [hself]
    · rw [hother j hj]
      exact h.once j
  · by_cases hj : j = i
    · subst hj
      rwa [hself]
    · rw [hother j hj]
      exact (h.reported j).grows hgrows

theorem Fenced.answer [DecidableEq ι] {event : OutboxDeliveryEvent} {error : Option String}
    (h : Fenced s) : Fenced (s.answer event error) := ⟨h.held, h.once, h.reported⟩

/-- A step that leaves the table, after which the call has no more to record than before. -/
theorem Fenced.setCall [DecidableEq ι] (h : Fenced s)
    (hsub : call.unrecorded.Sublist (s.calls i).unrecorded)
    (hreport : ReportTrue s call.report) : Fenced (s.setCall i call) := by
  have hgrows : Grows s (s.setCall i call) := .of_rows rfl fun _ => .refl
  refine h.of_calls rfl hgrows (fun j _ => h.held j) ?_ ?_ hreport
  · intro claimed hclaimed
    exact h.held i claimed (hsub.subset hclaimed)
  · exact (hsub.map _).nodup (h.once i)

theorem Fenced.claim [DecidableEq ι] {limit : ℕ} {now : ℤ} {locked : String → Bool}
    {ids : List String} {rows : List ClaimedRow} (h : Fenced s)
    (hpicks : s.table.Picks limit now locked ids)
    (hreturns : (s.table.lease now ids).Returns ids rows)
    (hgrows : Grows s (s.claim i now ids rows)) :
    Fenced (s.claim i now ids rows) := by
  refine h.of_calls rfl hgrows ?_ ?_ ?_ ReportTrue.empty
  · intro j _ claimed hclaimed
    have hpending : ∀ row ∈ s.table.rows, row.id ∈ ids → row.status = .pending :=
      fun _ hrow hid => hpicks.pending hrow hid
    obtain ⟨row, hrow, hevent, hleased, hattempts, hown⟩ := h.held j claimed hclaimed
    have hid : row.id ∉ ids := by
      intro hid
      have hstatus := hpending row hrow hid
      rw [hleased] at hstatus
      cases hstatus
    have hkept : row ∈ (s.table.lease now ids).rows := by
      apply OutboxTable.mem_update.mpr
      exact ⟨row, hrow, by simp [hid]⟩
    exact ⟨row, hkept, hevent, hleased, hattempts, (if_neg hid).trans hown⟩
  · intro claimed hclaimed
    obtain ⟨row, hrow, rfl⟩ := List.mem_map.mp (hreturns.mem_iff.mp hclaimed)
    obtain ⟨hmem, hid⟩ := List.mem_filter.mp hrow
    refine ⟨row, hmem, rfl, ?_, rfl, if_pos (of_decide_eq_true hid)⟩
    obtain ⟨before, hbefore, heq⟩ := OutboxTable.mem_update.mp hmem
    by_cases hpicked : before.id ∈ ids
    · rw [if_pos (decide_eq_true hpicked)] at heq
      rw [← heq]
    · rw [if_neg (by simpa using hpicked)] at heq
      rw [← heq] at hid
      exact absurd (of_decide_eq_true hid) hpicked
  · have hids := (hreturns.map (fun claimed : ClaimedRow => claimed.id)).nodup_iff.mpr
    apply hids
    rw [List.map_map]
    exact (List.filter_sublist.map _).nodup (s.table.lease now ids).primary

theorem Fenced.record [DecidableEq ι] {error : Option String} {rest : List ClaimedRow}
    {report report' : OutboxPublicationReport} {now : ℤ} {table : OutboxTable}
    {publisher : PostgresOutboxPublisher} (h : Fenced s)
    (hcall : s.calls i = .delivered claimed error rest report)
    (hrecord : recordDelivery publisher s.table claimed error report now = (report', table)) :
    Fenced ((s.setTable table).setCall i (.publishing rest report')) := by
  have hgrows : Grows s ((s.setTable table).setCall i (.publishing rest report')) :=
    .of_rows rfl fun _ => keeps_recordDelivery hrecord
  have hheld := h.held i
  have honce := h.once i
  have hreported := (h.reported i).grows hgrows
  rw [hcall] at hheld honce hreported
  have hclaimed : Holds s i claimed := hheld claimed List.mem_cons_self
  obtain ⟨f, hf, htable, hcases⟩ := recordDelivery_eq hrecord
  obtain ⟨hfirst, hrest⟩ := List.nodup_cons.mp honce
  have hkept : ∀ j other, Holds s j other → other.id ≠ claimed.id →
      Holds ((s.setTable table).setCall i (.publishing rest report')) j other := by
    intro j other hother hne
    apply hother.update hf htable
    · intro row _ _
      rfl
    · intro row _ hid _
      apply decide_eq_false
      rintro ⟨hsame, -⟩
      exact hne (hid.symm.trans hsame)
  refine h.of_calls rfl hgrows ?_ ?_ hrest ?_
  · intro j hj other hother
    apply hkept j other (h.held j other hother)
    intro hid
    exact hj ((h.held j other hother).unique hclaimed hid)
  · intro other hother
    apply hkept i other (hheld other (List.mem_cons_of_mem _ hother))
    intro hid
    exact hfirst (List.mem_map.mpr ⟨other, hother, hid⟩)
  · have hlisted : ∀ status, (∀ r, (f r).status = status) →
        ∃ row ∈ table.rows, row.eventId = claimed.eventId ∧ row.status = status := by
      intro status hstatus
      obtain ⟨row, hrow, hevent, hleased, -, -⟩ := hclaimed
      refine ⟨f row, ?_, ?_, hstatus row⟩
      · rw [htable]
        apply OutboxTable.mem_update.mpr
        exact ⟨row, hrow, if_pos (decide_eq_true ⟨congrArg OutboxEvent.id hevent, hleased⟩)⟩
      · rw [hf row, hevent]
    rcases hcases with ⟨-, hset, rfl⟩ | ⟨-, -, hset, rfl⟩ | ⟨-, hset, rfl⟩
    · refine ⟨?_, hreported.2⟩
      intro eventId hmem
      rcases List.mem_append.mp hmem with hmem | hmem
      · exact hreported.1 eventId hmem
      · rw [List.mem_singleton.mp hmem]
        exact hlisted .published fun r => (hset r).1
    · refine ⟨hreported.1, ?_⟩
      intro eventId hmem
      rcases List.mem_append.mp hmem with hmem | hmem
      · exact hreported.2 eventId hmem
      · rw [List.mem_singleton.mp hmem]
        exact hlisted .quarantined fun r => (hset r).1
    · exact ⟨hreported.1, hreported.2⟩

theorem Fenced.step [DecidableEq ι] (hs : Fenced s) (hspares : SparesHolders s a)
    (h : Step publisher s a t) : Fenced t := by
  have hgrows := h.grows
  cases h with
  | claim hidle hpicks hreturns => exact hs.claim hpicks hreturns hgrows
  | @deliver i claimed rest report event error hcall hevent =>
    have hreported := hs.reported i
    rw [hcall] at hreported
    apply hs.answer.setCall
    · show (claimed :: rest).Sublist (s.calls i).unrecorded
      rw [hcall]
      exact List.Sublist.refl _
    · exact hreported
  | undeliverable hcall hevent => exact hs.setCall (List.nil_sublist _) ReportTrue.empty
  | record hcall hrecord => exact hs.record hcall hrecord
  | @finish i report hcall =>
    have hreported := hs.reported i
    rw [hcall] at hreported
    exact hs.setCall (List.nil_sublist _) hreported
  | stop i => exact hs.setCall (List.nil_sublist _) ReportTrue.empty
  | repair now leaseTimeoutSeconds =>
    refine ⟨?_, hs.once, fun i => (hs.reported i).grows hgrows⟩
    intro i claimed hclaimed
    apply (hs.held i claimed hclaimed).update (fun _ => by rfl) rfl
    · intro row _ _
      rfl
    · intro row hrow hid _
      rw [Bool.eq_false_iff]
      intro hstuck
      exact hspares row hrow hstuck i claimed hclaimed hid.symm
  | @insert event availableAt hid hevent =>
    refine ⟨?_, hs.once, fun i => (hs.reported i).grows hgrows⟩
    intro i claimed hclaimed
    obtain ⟨row, hrow, hrest⟩ := hs.held i claimed hclaimed
    exact ⟨row, List.mem_append_left _ hrow, hrest⟩

theorem attemptsKept_refl (s : State ι) : AttemptsKept s s :=
  fun row hrow => ⟨row, hrow, rfl, Nat.le_refl _⟩

theorem AttemptsKept.trans (hst : AttemptsKept s t) (htu : AttemptsKept t u) :
    AttemptsKept s u := by
  intro row hrow
  obtain ⟨row', hrow', hevent, hle⟩ := hst row hrow
  obtain ⟨row'', hrow'', hevent', hle'⟩ := htu row' hrow'
  exact ⟨row'', hrow'', hevent'.trans hevent, hle.trans hle'⟩

theorem attemptsKept_update {p : OutboxRow → Bool} {f : OutboxRow → OutboxRow}
    (hf : ∀ row, (f row).toOutboxEvent = row.toOutboxEvent)
    (htable : t.table = s.table.update p f hf)
    (hle : ∀ row ∈ s.table.rows, p row = true → row.attempts ≤ (f row).attempts) :
    AttemptsKept s t := by
  intro row hrow
  refine ⟨if p row then f row else row, ?_, ?_, ?_⟩
  · rw [htable]
    exact OutboxTable.mem_update.mpr ⟨row, hrow, rfl⟩
  · split
    · exact hf row
    · rfl
  · split
    · next hp => exact hle row hrow hp
    · exact Nat.le_refl _

theorem Fenced.attemptsKept [DecidableEq ι] (hs : Fenced s) (h : Step publisher s a t) :
    AttemptsKept s t := by
  cases h with
  | claim hidle hpicks hreturns =>
    exact attemptsKept_update (fun _ => by rfl) rfl fun _ _ _ => Nat.le_refl _
  | deliver hcall hevent => exact attemptsKept_refl s
  | undeliverable hcall hevent => exact attemptsKept_refl s
  | @record i claimed error rest report report' now table hcall hrecord =>
    have hheld : Holds s i claimed := by
      apply hs.held
      rw [hcall]
      exact List.mem_cons_self
    obtain ⟨f, hf, htable, hcases⟩ := recordDelivery_eq hrecord
    apply attemptsKept_update (t := (s.setTable table).setCall i _) hf htable
    intro row hrow hleased
    obtain ⟨-, -, hattempts, -⟩ := hheld.of_leasedRow hrow hleased
    rcases hcases with ⟨-, hset, -⟩ | ⟨-, -, hset, -⟩ | ⟨-, hset, -⟩
    · exact Nat.le_of_eq (hset row).2.symm
    · have := (hset row).2
      omega
    · have := (hset row).2
      omega
  | finish hcall => exact attemptsKept_refl s
  | stop i => exact attemptsKept_refl s
  | repair now leaseTimeoutSeconds =>
    exact attemptsKept_update (fun _ => by rfl) rfl fun _ _ _ => Nat.le_refl _
  | insert hid hevent =>
    intro row hrow
    exact ⟨row, List.mem_append_left _ hrow, rfl, Nat.le_refl _⟩

theorem Initial.fenced (h : Initial s) : Fenced s := by
  refine ⟨fun i => ?_, fun i => ?_, fun i => ?_⟩
  all_goals rw [h.idle i]
  · intro claimed hclaimed
    cases hclaimed
  · exact List.nodup_nil
  · exact ReportTrue.empty

/-- Interleavings whose repair scans spare the rows that calls still work on. -/
def SparingInterleaves [DecidableEq ι] (publisher : ι → PostgresOutboxPublisher) :
    State ι → State ι → Prop :=
  ReflTransGen fun s t => ∃ a, SparesHolders s a ∧ Step publisher s a t

theorem Fenced.run [DecidableEq ι] (hs : Fenced s) (h : SparingInterleaves publisher s t) :
    Fenced t := by
  apply Steps.invariant h _ hs
  rintro s t hfenced ⟨a, hspares, hstep⟩
  exact hfenced.step hspares hstep

theorem Fenced.attemptsKept_run [DecidableEq ι] (hs : Fenced s)
    (h : SparingInterleaves publisher s t) : AttemptsKept s t := by
  apply Steps.related h _ attemptsKept_refl (fun _ _ _ => .trans) _ hs
  · rintro s t hfenced ⟨a, hspares, hstep⟩
    exact hfenced.step hspares hstep
  · rintro s t hfenced ⟨a, -, hstep⟩
    exact hfenced.attemptsKept hstep

/-- As long as the repair scan spares the rows that calls still work on, a record changes a row
only under its own call's lease, no attempts are lost, and every report that a call returns is
true. -/
theorem outbox_lease_fenced [DecidableEq ι] {s₀ : State ι} (hinitial : Initial s₀)
    (hrun : SparingInterleaves publisher s₀ s) :
    RecordsFenced publisher s ∧ (∀ t, SparingInterleaves publisher s t → AttemptsKept s t) ∧
      ∀ i report, s.calls i = .returned report → ReportTrue s report := by
  have hfenced : Fenced s := hinitial.fenced.run hrun
  refine ⟨hfenced.recordsFenced, fun t hlater => hfenced.attemptsKept_run hlater, ?_⟩
  intro i report hcall
  have hreported := hfenced.reported i
  rwa [hcall] at hreported

theorem outbox_lease_fenced_parcel : RecordsFenced (fun _ => parcelPublisher) parcelAnswered := by
  have hrun : SparingInterleaves (fun _ => parcelPublisher) parcelStart parcelAnswered :=
    .tail (.single ⟨.claim 0, trivial, parcel_leased⟩) ⟨.deliver 0, trivial, parcel_answered⟩
  exact (outbox_lease_fenced parcelStart_initial hrun).1

/-- While the first call has yet to record, the repair scan takes its lease and a second call claims
the row. -/
def parcelReclaimed : State ℕ :=
  (parcelAnswered.setTable (parcelAnswered.table.repairStuckLeases 90000000 60)).claim 1 95000000
    ["event-1"] [parcelClaim]

theorem parcel_reclaimed : Interleaves (fun _ => parcelPublisher) parcelStart parcelReclaimed := by
  have hrepair : Step (fun _ => parcelPublisher) parcelAnswered (.repair 90000000 60)
      (parcelAnswered.setTable (parcelAnswered.table.repairStuckLeases 90000000 60)) :=
    .repair 90000000 60
  have hpicks : (parcelAnswered.table.repairStuckLeases 90000000 60).Picks 1 95000000
      (fun _ => false) ["event-1"] := ⟨_, List.Perm.refl _, List.pairwise_singleton _ _, rfl⟩
  have hreturns : ((parcelAnswered.table.repairStuckLeases 90000000 60).lease 95000000
      ["event-1"]).Returns ["event-1"] [parcelClaim] := List.Perm.refl _
  have hclaim : Step (fun _ => parcelPublisher)
      (parcelAnswered.setTable (parcelAnswered.table.repairStuckLeases 90000000 60)) (.claim 1)
      parcelReclaimed := .claim rfl hpicks hreturns
  exact .tail (.tail (.tail (.single ⟨_, parcel_leased⟩) ⟨_, parcel_answered⟩) ⟨_, hrepair⟩)
    ⟨_, hclaim⟩

/-- The first call records on the second call's lease. -/
theorem stale_record_applied : ∃ s, Interleaves (fun _ => parcelPublisher) parcelStart s ∧
    ¬ RecordsFenced (fun _ => parcelPublisher) s := by
  refine ⟨parcelReclaimed, parcel_reclaimed, ?_⟩
  intro hfenced
  have hrecord : Step (fun _ => parcelPublisher) parcelReclaimed (.record 0)
      ((parcelReclaimed.setTable (parcelReclaimed.table.recordDeliverySuccess parcelClaim)).setCall
        0 (.publishing [] { published := ["event-1"] })) :=
    @Step.record ℕ _ _ _ 0 parcelClaim none [] {} _ 96000000 _ rfl rfl
  have hown := hfenced 0 _ hrecord
    ⟨parcel, .leased, 90000000, 0, some 95000000, none⟩ (List.mem_singleton.mpr rfl) (by
      intro hkept
      have hstatus := congrArg OutboxRow.status (List.mem_singleton.mp hkept)
      cases hstatus)
  have hholder : parcelReclaimed.holder "event-1" = some 1 := rfl
  exact absurd (hholder.symm.trans hown.2) (by decide)

end QaRunner.Outbox
