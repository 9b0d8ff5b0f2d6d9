import QaRunner.Adapters.PostgresOutboxPublisher

/-! What the status of an outbox row says about its deliveries, whoever records them and however
late. -/
namespace QaRunner.Outbox
open Relation Guarded

variable {ι : Type} {s t u : State ι} {i : ι} {a : Action ι} {row row' : OutboxRow}
  {claimed : ClaimedRow} {call : Call} {maxAttempts : ℤ} {publisher : ι → PostgresOutboxPublisher}

/-- The row is there as it was, or changed in columns that publishers own. -/
def Keeps (rows : List OutboxRow) (row : OutboxRow) : Prop :=
  ∃ row' ∈ rows, row'.toOutboxEvent = row.toOutboxEvent ∧ (row.status.Final → row' = row)

/-- Deliveries add up, no row is lost, and no final row changes. -/
structure Grows (s t : State ι) : Prop where
  accepted : ∀ eventId, s.accepted eventId ≤ t.accepted eventId
  failed : ∀ eventId, s.failed eventId ≤ t.failed eventId
  rows : ∀ row ∈ s.table.rows, Keeps t.table.rows row

theorem Keeps.refl {rows : List OutboxRow} (h : row ∈ rows) : Keeps rows row :=
  ⟨row, h, rfl, fun _ => rfl⟩

theorem Grows.refl (s : State ι) : Grows s s :=
  ⟨fun _ => Nat.le_refl _, fun _ => Nat.le_refl _, fun _ hrow => .refl hrow⟩

theorem Grows.trans (hst : Grows s t) (htu : Grows t u) : Grows s u := by
  refine ⟨fun e => (hst.accepted e).trans (htu.accepted e),
    fun e => (hst.failed e).trans (htu.failed e), ?_⟩
  intro row hrow
  obtain ⟨row', hrow', hevent, hfinal⟩ := hst.rows row hrow
  obtain ⟨row'', hrow'', hevent', hfinal'⟩ := htu.rows row' hrow'
  refine ⟨row'', hrow'', hevent'.trans hevent, ?_⟩
  intro h
  have hsame := hfinal h
  subst hsame
  exact hfinal' h

/-- A statement that spares the final rows keeps every row. -/
theorem keeps_update {table : OutboxTable} {p : OutboxRow → Bool} {f : OutboxRow → OutboxRow}
    (hf : ∀ row, (f row).toOutboxEvent = row.toOutboxEvent)
    (hspares : ∀ row ∈ table.rows, p row = true → ¬ row.status.Final) (hrow : row ∈ table.rows) :
    Keeps (table.update p f hf).rows row := by
  refine ⟨if p row then f row else row, OutboxTable.mem_update.mpr ⟨row, hrow, rfl⟩, ?_, ?_⟩
  · split
    · exact hf row
    · rfl
  · intro hfinal
    by_cases hp : p row = true
    · exact absurd hfinal (hspares row hrow hp)
    · rw [if_neg hp]

theorem not_final_of_leased (h : OutboxTable.leasedRow claimed row = true) :
    ¬ row.status.Final := by
  have hleased : row.status = .leased := (of_decide_eq_true h).2
  rintro (hfinal | hfinal) <;> rw [hleased] at hfinal <;> cases hfinal

/-- A record touches leased rows only, and leaves the events of all. -/
theorem keeps_recordDelivery {publisher : PostgresOutboxPublisher} {table table' : OutboxTable}
    {error : Option String} {report report' : OutboxPublicationReport} {now : ℤ}
    (h : recordDelivery publisher table claimed error report now = (report', table'))
    (hrow : row ∈ table.rows) : Keeps table'.rows row := by
  obtain ⟨f, hf, rfl, -⟩ := recordDelivery_eq h
  exact keeps_update hf (fun _ _ => not_final_of_leased) hrow

/-- Steps other than a delivery. -/
theorem Grows.of_rows (hdeliveries : t.deliveries = s.deliveries)
    (hrows : ∀ row ∈ s.table.rows, Keeps t.table.rows row) : Grows s t := by
  refine ⟨?_, ?_, hrows⟩
  · intro eventId
    rw [State.accepted, State.accepted, hdeliveries]
  · intro eventId
    rw [State.failed, State.failed, hdeliveries]

theorem Step.grows [DecidableEq ι] (h : Step publisher s a t) : Grows s t := by
  cases h with
  | @claim _ limit now locked ids claimed hidle hpicks hreturns =>
    have hspares : ∀ row ∈ s.table.rows, decide (row.id ∈ ids) = true → ¬ row.status.Final := by
      intro row hrow hid
      have hpending := hpicks.pending hrow (of_decide_eq_true hid)
      rintro (hfinal | hfinal) <;> rw [hpending] at hfinal <;> cases hfinal
    exact .of_rows rfl fun row hrow => keeps_update (fun _ => by rfl) hspares hrow
  | deliver hcall hevent =>
    refine ⟨?_, ?_, fun _ hrow => .refl hrow⟩
    · intro eventId
      exact List.Sublist.countP_le (List.sublist_cons_self _ _)
    · intro eventId
      exact List.Sublist.countP_le (List.sublist_cons_self _ _)
  | undeliverable hcall hevent => exact .of_rows rfl fun _ => .refl
  | record hcall hrecord => exact .of_rows rfl fun _ => keeps_recordDelivery hrecord
  | finish hcall => exact .of_rows rfl fun _ => .refl
  | stop i => exact .of_rows rfl fun _ => .refl
  | repair now leaseTimeoutSeconds =>
    have hspares : ∀ row ∈ s.table.rows, OutboxTable.stuck now leaseTimeoutSeconds row = true →
        ¬ row.status.Final := by
      intro row hrow hstuck
      have hleased : row.status = .leased := (of_decide_eq_true hstuck).1
      rintro (hfinal | hfinal) <;> rw [hleased] at hfinal <;> cases hfinal
    exact .of_rows rfl fun row hrow => keeps_update (fun _ => by rfl) hspares hrow
  | insert hid hevent =>
    exact .of_rows rfl fun row hrow => .refl (List.mem_append_left _ hrow)

/-- A claimed row is still in the table, and its attempts all failed. -/
structure ClaimedSafe (s : State ι) (claimed : ClaimedRow) : Prop where
  row : ∃ row ∈ s.table.rows, row.toOutboxEvent = claimed.toOutboxEvent
  attempts : claimed.attempts ≤ s.failed claimed.eventId

/-- The answer of the sink is among the deliveries. -/
def Answered (s : State ι) (claimed : ClaimedRow) : Option String → Prop
  | none => 1 ≤ s.accepted claimed.eventId
  | some _ => claimed.attempts + 1 ≤ s.failed claimed.eventId

def CallSafe (s : State ι) : Call → Prop
  | .publishing rows _ => ∀ claimed ∈ rows, ClaimedSafe s claimed
  | .delivered claimed error rest _ =>
    (∀ other ∈ claimed :: rest, ClaimedSafe s other) ∧ Answered s claimed error
  | _ => True

structure RowSafe (maxAttempts : ℤ) (s : State ι) (row : OutboxRow) : Prop where
  published : row.status = .published → 1 ≤ s.accepted row.eventId
  quarantined : row.status = .quarantined → maxAttempts ≤ s.failed row.eventId
  attempts : row.attempts ≤ s.failed row.eventId

structure Safe (maxAttempts : ℤ) (s : State ι) : Prop where
  rows : ∀ row ∈ s.table.rows, RowSafe maxAttempts s row
  calls : ∀ i, CallSafe s (s.calls i)

theorem ClaimedSafe.grows (h : ClaimedSafe s claimed) (hgrows : Grows s t) :
    ClaimedSafe t claimed := by
  obtain ⟨row, hrow, hevent⟩ := h.row
  obtain ⟨row', hrow', hevent', -⟩ := hgrows.rows row hrow
  exact ⟨⟨row', hrow', hevent'.trans hevent⟩, h.attempts.trans (hgrows.failed _)⟩

theorem CallSafe.grows (h : CallSafe s call) (hgrows : Grows s t) : CallSafe t call := by
  cases call with
  | publishing rows report => exact fun claimed hclaimed => (h claimed hclaimed).grows hgrows
  | delivered claimed error rest report =>
    refine ⟨fun other hother => (h.1 other hother).grows hgrows, ?_⟩
    cases error with
    | none => exact le_trans h.2 (hgrows.accepted _)
    | some error => exact le_trans h.2 (hgrows.failed _)
  | idle => trivial
  | returned report => trivial
  | stopped => trivial

/-- What counts of a row is its event, its status and its attempts. -/
theorem RowSafe.grows (h : RowSafe maxAttempts s row) (hgrows : Grows s t)
    (hevent : row'.toOutboxEvent = row.toOutboxEvent) (hattempts : row'.attempts = row.attempts)
    (hstatus : row'.status.Final → row'.status = row.status) : RowSafe maxAttempts t row' := by
  have heventId : row'.eventId = row.eventId := congrArg OutboxEvent.eventId hevent
  refine ⟨?_, ?_, ?_⟩
  · intro hpublished
    have := h.published ((hstatus (Or.inl hpublished)).symm.trans hpublished)
    have := hgrows.accepted row.eventId
    rw [heventId]
    omega
  · intro hquarantined
    have := h.quarantined ((hstatus (Or.inr hquarantined)).symm.trans hquarantined)
    have := hgrows.failed row.eventId
    rw [heventId]
    omega
  · have := h.attempts
    have := hgrows.failed row.eventId
    rw [heventId, hattempts]
    omega

/-- A row that a record may change carries the claimed event. -/
theorem ClaimedSafe.eventId (h : ClaimedSafe s claimed) (hrow : row ∈ s.table.rows)
    (hleased : OutboxTable.leasedRow claimed row = true) : row.eventId = claimed.eventId := by
  obtain ⟨row', hrow', hevent⟩ := h.row
  have hid : row.id = row'.id := by
    rw [hevent]
    exact (of_decide_eq_true hleased).1
  rw [OutboxTable.eq_of_id hrow hrow' hid, hevent]

theorem RowSafe.record {error : Option String} {report report' : OutboxPublicationReport} {now : ℤ}
    {table : OutboxTable} {publisher : PostgresOutboxPublisher}
    (hmax : publisher.maxAttempts = maxAttempts) (hrows : ∀ row ∈ s.table.rows,
      RowSafe maxAttempts s row) (hclaimed : ClaimedSafe s claimed)
    (hanswered : Answered s claimed error)
    (h : recordDelivery publisher s.table claimed error report now = (report', table))
    (hrow' : row' ∈ table.rows) : RowSafe maxAttempts s row' := by
  obtain ⟨f, hf, rfl, hcases⟩ := recordDelivery_eq h
  obtain ⟨row, hrow, heq⟩ := OutboxTable.mem_update.mp hrow'
  by_cases hleased : OutboxTable.leasedRow claimed row = true
  · rw [if_pos hleased] at heq
    subst heq
    have heventId : (f row).eventId = claimed.eventId :=
      (congrArg OutboxEvent.eventId (hf row)).trans (hclaimed.eventId hrow hleased)
    have hattempts := (hrows row hrow).attempts
    rw [hclaimed.eventId hrow hleased] at hattempts
    rcases hcases with ⟨rfl, hset, -⟩ | ⟨herror, hle, hset, -⟩ | ⟨herror, hset, -⟩
    · obtain ⟨hstatus, hsame⟩ := hset row
      refine ⟨fun _ => ?_, fun hquarantined => ?_, ?_⟩
      · exact heventId ▸ hanswered
      · rw [hstatus] at hquarantined
        cases hquarantined
      · rw [heventId, hsame]
        exact hattempts
    · obtain ⟨hstatus, hcount⟩ := hset row
      obtain ⟨text, rfl⟩ := Option.ne_none_iff_exists'.mp herror
      have hfailed : claimed.attempts + 1 ≤ s.failed claimed.eventId := hanswered
      refine ⟨fun hpublished => ?_, fun _ => ?_, ?_⟩
      · rw [hstatus] at hpublished
        cases hpublished
      · rw [heventId]
        omega
      · rw [heventId, hcount]
        exact hfailed
    · obtain ⟨hstatus, hcount⟩ := hset row
      obtain ⟨text, rfl⟩ := Option.ne_none_iff_exists'.mp herror
      refine ⟨fun hpublished => ?_, fun hquarantined => ?_, ?_⟩
      · rw [hstatus] at hpublished
        cases hpublished
      · rw [hstatus] at hquarantined
        cases hquarantined
      · rw [heventId, hcount]
        exact hanswered
  · rw [if_neg hleased] at heq
    subst heq
    exact hrows row hrow

theorem CallSafe.stopped : CallSafe s .stopped := trivial

theorem CallSafe.returned {report : OutboxPublicationReport} : CallSafe s (.returned report) :=
  trivial

theorem accepted_answer [DecidableEq ι] {event : OutboxDeliveryEvent} :
    (s.answer event none).accepted event.eventId = s.accepted event.eventId + 1 :=
  List.countP_cons_of_pos (decide_eq_true ⟨rfl, rfl⟩)

theorem failed_answer [DecidableEq ι] {event : OutboxDeliveryEvent} {error : String} :
    (s.answer event (some error)).failed event.eventId = s.failed event.eventId + 1 :=
  List.countP_cons_of_pos (decide_eq_true ⟨rfl, Option.some_ne_none error⟩)

/-- One call went on; the others have what they had. -/
theorem calls_safe [DecidableEq ι] (hgrows : Grows s t) (hcalls : ∀ j, CallSafe s (s.calls j))
    (hcall : CallSafe t call) (h : t.calls = Function.update s.calls i call) :
    ∀ j, CallSafe t (t.calls j) := by
  intro j
  rw [h]
  by_cases hj : j = i
  · subst hj
    rw [Function.update_self]
    exact hcall
  · rw [Function.update_of_ne hj]
    exact (hcalls j).grows hgrows

theorem rows_safe (hgrows : Grows s t) (hrows : ∀ row ∈ s.table.rows, RowSafe maxAttempts s row)
    (h : t.table = s.table) : ∀ row ∈ t.table.rows, RowSafe maxAttempts t row := by
  intro row hrow
  rw [h] at hrow
  exact (hrows row hrow).grows hgrows rfl rfl fun _ => rfl

/-- Statements that take rows in or out of a lease. -/
theorem rows_safe_update {p : OutboxRow → Bool} {f : OutboxRow → OutboxRow}
    (hf : ∀ row, (f row).toOutboxEvent = row.toOutboxEvent) (hgrows : Grows s t)
    (hrows : ∀ row ∈ s.table.rows, RowSafe maxAttempts s row) (h : t.table = s.table.update p f hf)
    (hattempts : ∀ row, (f row).attempts = row.attempts) (hopen : ∀ row, ¬ (f row).status.Final) :
    ∀ row ∈ t.table.rows, RowSafe maxAttempts t row := by
  intro row' hrow'
  rw [h] at hrow'
  obtain ⟨row, hrow, heq⟩ := OutboxTable.mem_update.mp hrow'
  by_cases hp : p row = true
  · rw [if_pos hp] at heq
    subst heq
    exact (hrows row hrow).grows hgrows (hf row) (hattempts row) fun hfinal =>
      absurd hfinal (hopen row)
  · rw [if_neg hp] at heq
    subst heq
    exact (hrows row hrow).grows hgrows rfl rfl fun _ => rfl

theorem Safe.step [DecidableEq ι] (hmax : ∀ i, (publisher i).maxAttempts = maxAttempts)
    (hs : Safe maxAttempts s) (h : Step publisher s a t) : Safe maxAttempts t := by
  have hgrows := h.grows
  cases h with
  | @claim i limit now locked ids claimed hidle hpicks hreturns =>
    have hopen : ¬ OutboxStatus.leased.Final := by
      rintro (hfinal | hfinal) <;> cases hfinal
    have hrows := rows_safe_update (fun _ => by rfl) hgrows hs.rows rfl (fun _ => rfl)
      fun _ => hopen
    refine ⟨hrows, calls_safe hgrows hs.calls ?_ rfl⟩
    intro claimedRow hclaimed
    obtain ⟨row, hrow, rfl⟩ := List.mem_map.mp (hreturns.mem_iff.mp hclaimed)
    have hmem := (List.mem_filter.mp hrow).1
    exact ⟨⟨row, hmem, rfl⟩, (hrows row hmem).attempts⟩
  | @deliver i claimed rest report event error hcall hevent =>
    refine ⟨rows_safe hgrows hs.rows rfl, calls_safe hgrows hs.calls ?_ rfl⟩
    have hbefore := hs.calls i
    rw [hcall] at hbefore
    refine ⟨fun other hother => (hbefore other hother).grows hgrows, ?_⟩
    have heventId := ClaimedRow.eventId_of_delivery hevent
    have hattempts := (hbefore claimed List.mem_cons_self).attempts
    rw [← heventId] at hattempts
    cases error with
    | none =>
      have hone : (s.answer event none).accepted event.eventId = s.accepted event.eventId + 1 :=
        accepted_answer
      show 1 ≤ (s.answer event none).accepted claimed.eventId
      rw [← heventId]
      omega
    | some error =>
      have hone : (s.answer event (some error)).failed event.eventId =
          s.failed event.eventId + 1 := failed_answer
      show claimed.attempts + 1 ≤ (s.answer event (some error)).failed claimed.eventId
      rw [← heventId]
      omega
  | @undeliverable i claimed rest report e hcall hevent =>
    exact ⟨rows_safe hgrows hs.rows rfl, calls_safe hgrows hs.calls .stopped rfl⟩
  | @record i claimed error rest report report' now table hcall hrecord =>
    have hbefore := hs.calls i
    rw [hcall] at hbefore
    obtain ⟨hclaimed, hanswered⟩ := hbefore
    constructor
    · intro row hrow
      have hsafe := RowSafe.record (hmax i) hs.rows (hclaimed claimed List.mem_cons_self)
        hanswered hrecord hrow
      exact ⟨hsafe.published, hsafe.quarantined, hsafe.attempts⟩
    · refine calls_safe hgrows hs.calls ?_ rfl
      intro other hother
      exact (hclaimed other (List.mem_cons_of_mem _ hother)).grows hgrows
  | @finish i report hcall =>
    exact ⟨rows_safe hgrows hs.rows rfl, calls_safe hgrows hs.calls .returned rfl⟩
  | stop i => exact ⟨rows_safe hgrows hs.rows rfl, calls_safe hgrows hs.calls .stopped rfl⟩
  | repair now leaseTimeoutSeconds =>
    have hopen : ¬ OutboxStatus.pending.Final := by
      rintro (hfinal | hfinal) <;> cases hfinal
    refine ⟨rows_safe_update (fun _ => by rfl) hgrows hs.rows rfl (fun _ => rfl)
      fun _ => hopen, ?_⟩
    exact fun j => (hs.calls j).grows hgrows
  | @insert event availableAt hid hevent =>
    refine ⟨?_, fun j => (hs.calls j).grows hgrows⟩
    intro row hrow
    rcases List.mem_append.mp hrow with hrow | hrow
    · exact (hs.rows row hrow).grows hgrows rfl rfl fun _ => rfl
    · rw [List.mem_singleton.mp hrow]
      refine ⟨fun hpublished => ?_, fun hquarantined => ?_, Nat.zero_le _⟩
      · cases hpublished
      · cases hquarantined

theorem Initial.safe (h : Initial s) : Safe maxAttempts s := by
  constructor
  · intro row hrow
    obtain ⟨hpending, hattempts⟩ := h.fresh row hrow
    refine ⟨fun hpublished => ?_, fun hquarantined => ?_, ?_⟩
    · rw [hpending] at hpublished
      cases hpublished
    · rw [hpending] at hquarantined
      cases hquarantined
    · rw [hattempts]
      exact Nat.zero_le _
  · intro i
    rw [h.idle i]
    trivial

/-- One interleaving of the publishers' steps with the repair scan, crashes and new rows. -/
def Interleaves [DecidableEq ι] (publisher : ι → PostgresOutboxPublisher) :
    State ι → State ι → Prop :=
  ReflTransGen fun s t => ∃ a, Step publisher s a t

theorem Safe.run [DecidableEq ι] (hmax : ∀ i, (publisher i).maxAttempts = maxAttempts)
    (hs : Safe maxAttempts s) (h : Interleaves publisher s t) : Safe maxAttempts t :=
  Steps.invariant h (fun _ _ hsafe ⟨_, hstep⟩ => hsafe.step hmax hstep) hs

theorem Grows.run [DecidableEq ι] (h : Interleaves publisher s t) : Grows s t :=
  Steps.related h (fun _ _ _ _ => trivial) Grows.refl (fun _ _ _ => .trans)
    (fun _ _ _ ⟨_, hstep⟩ => hstep.grows) trivial

/-- Whatever the interleaving, a published row was accepted by the sink, a quarantined one failed as
often as allowed, attempts are failures, and of the rows none is lost and no final one changes. -/
theorem outbox_delivery_safe [DecidableEq ι] {s₀ : State ι}
    (hmax : ∀ i, (publisher i).maxAttempts = maxAttempts) (hinitial : Initial s₀)
    (hrun : Interleaves publisher s₀ s) :
    (∀ row ∈ s.table.rows, (row.status = .published → 1 ≤ s.accepted row.eventId) ∧
      (row.status = .quarantined → maxAttempts ≤ s.failed row.eventId) ∧
      row.attempts ≤ s.failed row.eventId) ∧
    ∀ t, Interleaves publisher s t → ∀ row ∈ s.table.rows,
      (row.status = .published ∨ row.status = .quarantined → row ∈ t.table.rows) ∧
      ∃ row' ∈ t.table.rows, row'.toOutboxEvent = row.toOutboxEvent := by
  have hsafe : Safe maxAttempts s := hinitial.safe.run hmax hrun
  refine ⟨?_, ?_⟩
  · intro row hrow
    have hrowSafe := hsafe.rows row hrow
    exact ⟨hrowSafe.published, hrowSafe.quarantined, hrowSafe.attempts⟩
  · intro t hlater row hrow
    obtain ⟨row', hrow', hevent, hfinal⟩ := (Grows.run hlater).rows row hrow
    refine ⟨fun hstatus => ?_, row', hrow', hevent⟩
    have hsame := hfinal hstatus
    exact hsame ▸ hrow'

def parcel : OutboxEvent where
  id := "event-1"
  eventId := "event-1"
  aggregateType := "batch"
  aggregateId := "batch-1"
  eventType := "batch.finalized.v1"
  payloadDigest := "0000000000000000000000000000000000000000000000000000000000000000"
  payload := .dict []

def parcelClaim : ClaimedRow := ⟨parcel, 0⟩

def parcelDelivery : OutboxDeliveryEvent where
  eventId := "event-1"
  aggregateType := "batch"
  aggregateId := "batch-1"
  eventType := "batch.finalized.v1"
  payloadDigest := Digest.zero
  payload := .dict []
  deliveryAttempt := 1
  accepted := rfl

def parcelPublisher : PostgresOutboxPublisher := ⟨⟨3, 5⟩, rfl⟩

/-- A table of one new row, before any call. -/
def parcelStart : State ℕ where
  table :=
    ⟨⟨[⟨parcel, .pending, 0, 0, none, none⟩], List.nodup_singleton _⟩, List.nodup_singleton _⟩
  calls := fun _ => .idle
  deliveries := []
  holder := fun _ => none

theorem parcelStart_initial : Initial parcelStart := by
  refine ⟨?_, fun _ => rfl, rfl⟩
  intro row hrow
  rw [List.mem_singleton.mp hrow]
  exact ⟨rfl, rfl⟩

def parcelLeased : State ℕ := parcelStart.claim 0 10 ["event-1"] [parcelClaim]

/-- The first call has delivered the row and not recorded it. -/
def parcelAnswered : State ℕ :=
  (parcelLeased.answer parcelDelivery none).setCall 0 (.delivered parcelClaim none [] {})

theorem parcel_leased : Step (fun _ => parcelPublisher) parcelStart (.claim 0) parcelLeased := by
  have hpicks : parcelStart.table.Picks 1 10 (fun _ => false) ["event-1"] :=
    ⟨parcelStart.table.rows, List.Perm.refl _, List.pairwise_singleton _ _, rfl⟩
  have hreturns : (parcelStart.table.lease 10 ["event-1"]).Returns ["event-1"] [parcelClaim] :=
    List.Perm.refl _
  exact .claim rfl hpicks hreturns

theorem parcel_answered :
    Step (fun _ => parcelPublisher) parcelLeased (.deliver 0) parcelAnswered :=
  .deliver rfl rfl

def parcelPublished : State ℕ :=
  (parcelAnswered.setTable (parcelAnswered.table.recordDeliverySuccess parcelClaim)).setCall 0
    (.publishing [] { published := ["event-1"] })

theorem parcel_published : Interleaves (fun _ => parcelPublisher) parcelStart parcelPublished := by
  have hrecord : Step (fun _ => parcelPublisher) parcelAnswered (.record 0) parcelPublished :=
    @Step.record ℕ _ _ _ 0 parcelClaim none [] {} _ 20 _ rfl rfl
  exact .tail (.tail (.single ⟨_, parcel_leased⟩) ⟨_, parcel_answered⟩) ⟨_, hrecord⟩

theorem outbox_delivery_safe_parcel :
    parcelPublished.table.rows.map (·.status) = [.published] ∧
      1 ≤ parcelPublished.accepted "event-1" := by
  have hsafe := outbox_delivery_safe (fun _ => rfl) parcelStart_initial parcel_published
  refine ⟨rfl, ?_⟩
  exact (hsafe.1 _ List.mem_cons_self).1 rfl

end QaRunner.Outbox
