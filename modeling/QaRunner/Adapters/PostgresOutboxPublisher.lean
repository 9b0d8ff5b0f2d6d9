import QaRunner.Application.Handoff
import QaRunner.Lib.KeyedTable
import QaRunner.Lib.Steps

/-! The outbox publisher: claims, deliveries and records of any number of publishers on one table,
with the repair scan between them and a crash at any time. -/
namespace QaRunner
open Guarded Relation

inductive OutboxStatus where
  | pending
  | leased
  | published
  | quarantined
  deriving DecidableEq

/-- No publisher takes up the row again. -/
def OutboxStatus.Final (status : OutboxStatus) : Prop := status = .published ∨ status = .quarantined

/-- The columns of an outbox row that stay as its writer inserted them. -/
structure OutboxEvent where
  id : String
  eventId : String
  aggregateType : String
  aggregateId : String
  eventType : String
  payloadDigest : String
  payload : Json

/-- A row of `qep_outbox_events`, instants in microseconds. -/
structure OutboxRow extends OutboxEvent where
  status : OutboxStatus
  availableAt : ℤ
  attempts : ℕ
  leasedAt : Option ℤ
  lastError : Option String

/-- A row as a claim returns it. -/
structure ClaimedRow extends OutboxEvent where
  attempts : ℕ

def OutboxRow.returning (row : OutboxRow) : ClaimedRow := ⟨row.toOutboxEvent, row.attempts⟩

def isDict : Json → Bool
  | .dict _ => true
  | _ => false

structure OutboxDeliveryEvent.Fields where
  eventId : String
  aggregateType : String
  aggregateId : String
  eventType : String
  payloadDigest : Digest
  payload : Json
  deliveryAttempt : ℤ

def OutboxDeliveryEvent.Fields.postInit (e : OutboxDeliveryEvent.Fields) : Except Problem Unit := do
  let entity := "outbox_delivery_event"
  each [("event_id", e.eventId), ("aggregate_type", e.aggregateType),
    ("aggregate_id", e.aggregateId), ("event_type", e.eventType)] fun (field, value) =>
      raiseIf (isBlank value) (.portContract entity field "invalid")
  raiseIf (isDict e.payload = false) (.portContract entity "payload" "not_dict")
  raiseIf (e.deliveryAttempt < 1) (.portContract entity "delivery_attempt" "invalid")

/-- One committed outbox row offered to a sink for at-least-once delivery. -/
structure OutboxDeliveryEvent extends OutboxDeliveryEvent.Fields where
  accepted : toFields.postInit = .ok ()

def OutboxDeliveryEvent.new : OutboxDeliveryEvent.Fields → Except Problem OutboxDeliveryEvent :=
  construct OutboxDeliveryEvent.Fields.postInit OutboxDeliveryEvent.mk

def ClaimedRow.toDeliveryEvent (row : ClaimedRow) : Except Problem OutboxDeliveryEvent :=
  match Digest.new ("sha256:" ++ row.payloadDigest) with
  | .error e => .error (.domain e)
  | .ok payloadDigest => OutboxDeliveryEvent.new {
      eventId := row.eventId
      aggregateType := row.aggregateType
      aggregateId := row.aggregateId
      eventType := row.eventType
      payloadDigest := payloadDigest
      payload := row.payload
      deliveryAttempt := row.attempts + 1 }

/-- The sink is offered the event of the claimed row. -/
theorem ClaimedRow.eventId_of_delivery {row : ClaimedRow} {event : OutboxDeliveryEvent}
    (h : row.toDeliveryEvent = .ok event) : event.eventId = row.eventId := by
  unfold toDeliveryEvent at h
  cases hdigest : Digest.new ("sha256:" ++ row.payloadDigest) with
  | error e =>
    rw [hdigest] at h
    cases h
  | ok payloadDigest =>
    rw [hdigest] at h
    obtain ⟨hpost, hevent⟩ := construct_eq_ok.mp h
    subst hevent
    rfl

/-- Event ids grouped by what happened to them in one `publish_pending` call. -/
structure OutboxPublicationReport where
  published : List String := []
  retried : List String := []
  quarantined : List String := []

structure PostgresOutboxPublisher.Fields where
  maxAttempts : ℤ
  retryBackoffSeconds : ℤ

def PostgresOutboxPublisher.Fields.init (p : PostgresOutboxPublisher.Fields) :
    Except String Unit := do
  raiseIf (p.maxAttempts < 1) "max_attempts must be at least 1"
  raiseIf (p.retryBackoffSeconds < 0) "retry_backoff_seconds must be non-negative"

/-- Leases pending outbox rows, delivers through a sink, and records the result. -/
structure PostgresOutboxPublisher extends PostgresOutboxPublisher.Fields where
  accepted : toFields.init = .ok ()

/-- `qep_outbox_events`; its event ids are unique too. -/
structure OutboxTable extends KeyedTable fun row : OutboxRow => row.id where
  unique : (rows.map (·.eventId)).Nodup

namespace OutboxTable

/-- `UPDATE` of columns other than the event's. -/
def update (t : OutboxTable) (p : OutboxRow → Bool) (f : OutboxRow → OutboxRow)
    (hf : ∀ row, (f row).toOutboxEvent = row.toOutboxEvent) : OutboxTable where
  toKeyedTable := t.toKeyedTable.update p f fun row => congrArg OutboxEvent.id (hf row)
  unique := by
    have heventIds : (t.rows.map fun row => if p row then f row else row).map (·.eventId) =
        t.rows.map (·.eventId) := by
      rw [List.map_map]
      apply List.map_congr_left
      intro row _
      dsimp only [Function.comp_apply]
      split
      · exact congrArg OutboxEvent.eventId (hf row)
      · rfl
    exact heventIds ▸ t.unique

variable {t : OutboxTable} {p : OutboxRow → Bool} {f : OutboxRow → OutboxRow} {row row' : OutboxRow}

theorem mem_update {hf : ∀ row, (f row).toOutboxEvent = row.toOutboxEvent} :
    row' ∈ (t.update p f hf).rows ↔ ∃ row ∈ t.rows, (if p row then f row else row) = row' :=
  List.mem_map

theorem eq_of_id (hrow : row ∈ t.rows) (hrow' : row' ∈ t.rows) (h : row.id = row'.id) :
    row = row' :=
  Keyed.eq_of_key t.primary hrow hrow' h

/-- Rows a claim may lease: pending, due, and not locked by another transaction. -/
def due (t : OutboxTable) (now : ℤ) (locked : String → Bool) : List OutboxRow :=
  t.rows.filter fun row => row.status = .pending ∧ row.availableAt ≤ now ∧ locked row.id = false

/-- The ids a claim picks: the due rows in the order they became available, up to the limit. -/
def Picks (t : OutboxTable) (limit : ℕ) (now : ℤ) (locked : String → Bool) (ids : List String) :
    Prop :=
  ∃ scan : List OutboxRow, scan.Perm (t.due now locked) ∧
    scan.Pairwise (fun a b => a.availableAt ≤ b.availableAt) ∧ ids = (scan.take limit).map (·.id)

/-- What a claim picks is pending. -/
theorem Picks.pending {limit : ℕ} {now : ℤ} {locked : String → Bool} {ids : List String}
    (h : t.Picks limit now locked ids) (hrow : row ∈ t.rows) (hid : row.id ∈ ids) :
    row.status = .pending := by
  obtain ⟨scan, hperm, -, rfl⟩ := h
  obtain ⟨picked, hpicked, hk⟩ := List.mem_map.mp hid
  have hdue := hperm.mem_iff.mp (List.mem_of_mem_take hpicked)
  obtain ⟨hmem, hcond⟩ := List.mem_filter.mp hdue
  have hsame := eq_of_id hmem hrow hk
  subst hsame
  exact (of_decide_eq_true hcond).1

def lease (t : OutboxTable) (now : ℤ) (ids : List String) : OutboxTable :=
  t.update (fun row => row.id ∈ ids)
    (fun row => { row with status := .leased, leasedAt := some now }) fun _ => rfl

/-- `RETURNING` of the rows a claim leased, which come in no certain order. -/
def Returns (t : OutboxTable) (ids : List String) (claimed : List ClaimedRow) : Prop :=
  claimed.Perm ((t.rows.filter fun row => row.id ∈ ids).map OutboxRow.returning)

/-- Leased, and taken longer ago than the timeout in seconds. -/
def stuck (now leaseTimeoutSeconds : ℤ) (row : OutboxRow) : Bool :=
  row.status = .leased ∧ row.leasedAt.any fun leasedAt =>
    decide (leasedAt < now - leaseTimeoutSeconds * 1000000)

/-- Return leases stuck past a bounded timeout to pending; idempotent and safe to poll. -/
def repairStuckLeases (t : OutboxTable) (now leaseTimeoutSeconds : ℤ) : OutboxTable :=
  t.update (stuck now leaseTimeoutSeconds)
    (fun row => { row with status := .pending, availableAt := now }) fun _ => rfl

/-- `WHERE id = $1 AND status = 'leased'`. -/
def leasedRow (claimed : ClaimedRow) (row : OutboxRow) : Bool :=
  row.id = claimed.id ∧ row.status = .leased

def recordDeliverySuccess (t : OutboxTable) (claimed : ClaimedRow) : OutboxTable :=
  t.update (leasedRow claimed) (fun row => { row with status := .published }) fun _ => rfl

end OutboxTable

inductive FailureOutcome where
  | quarantined
  | retried
  deriving DecidableEq

def PostgresOutboxPublisher.recordDeliveryFailure (publisher : PostgresOutboxPublisher)
    (t : OutboxTable) (claimed : ClaimedRow) (error : String) (now : ℤ) :
    FailureOutcome × OutboxTable :=
  let attempts := claimed.attempts + 1
  let lastError := String.ofList (error.toList.take 2000)
  if publisher.maxAttempts ≤ attempts then
    (.quarantined, t.update (OutboxTable.leasedRow claimed) (fun row => { row with
      status := .quarantined, attempts := attempts, lastError := some lastError }) fun _ => rfl)
  else
    (.retried, t.update (OutboxTable.leasedRow claimed) (fun row => { row with
      status := .pending, attempts := attempts, lastError := some lastError
      availableAt := now + publisher.retryBackoffSeconds * 1000000 }) fun _ => rfl)

namespace Outbox

/-- How far a call of `publish_pending` has come. Of the claimed rows, the first one is next. -/
inductive Call where
  | idle
  | publishing (claimed : List ClaimedRow) (report : OutboxPublicationReport)
  /-- The sink has answered, with an error or none, and the answer is not recorded. -/
  | delivered (row : ClaimedRow) (error : Option String) (rest : List ClaimedRow)
      (report : OutboxPublicationReport)
  | returned (report : OutboxPublicationReport)
  /-- Crashed, or ended by an exception. -/
  | stopped

/-- A delivery that the sink accepted or failed with an error. -/
structure Delivery where
  event : OutboxDeliveryEvent
  error : Option String

/-- The table, the calls, and what only an observer keeps: the deliveries, and for a row the call
that leased it last. -/
structure State (ι : Type) where
  table : OutboxTable
  calls : ι → Call
  deliveries : List Delivery
  holder : String → Option ι

inductive Action (ι : Type) where
  | claim (i : ι)
  | deliver (i : ι)
  | record (i : ι)
  | finish (i : ι)
  | stop (i : ι)
  | repair (now leaseTimeoutSeconds : ℤ)
  | insert (event : OutboxEvent) (availableAt : ℤ)

variable {ι : Type}

/-- Deliveries of an event that the sink accepted. -/
def State.accepted (s : State ι) (eventId : String) : ℕ :=
  s.deliveries.countP fun d => d.event.eventId = eventId ∧ d.error = none

/-- Deliveries of an event that failed. -/
def State.failed (s : State ι) (eventId : String) : ℕ :=
  s.deliveries.countP fun d => d.event.eventId = eventId ∧ d.error ≠ none

/-- The record of the answer to a delivery: the report and the table after it. -/
def recordDelivery (publisher : PostgresOutboxPublisher) (t : OutboxTable) (row : ClaimedRow)
    (error : Option String) (report : OutboxPublicationReport) (now : ℤ) :
    OutboxPublicationReport × OutboxTable :=
  match error with
  | none =>
    ({ report with published := report.published ++ [row.eventId] }, t.recordDeliverySuccess row)
  | some error =>
    match publisher.recordDeliveryFailure t row error now with
    | (.quarantined, t') =>
      ({ report with quarantined := report.quarantined ++ [row.eventId] }, t')
    | (.retried, t') => ({ report with retried := report.retried ++ [row.eventId] }, t')

/-- A record changes rows leased under the claimed id, by how the delivery went. -/
theorem recordDelivery_eq {publisher : PostgresOutboxPublisher} {t t' : OutboxTable}
    {row : ClaimedRow} {error : Option String} {report report' : OutboxPublicationReport} {now : ℤ}
    (h : recordDelivery publisher t row error report now = (report', t')) :
    ∃ f hf, t' = t.update (OutboxTable.leasedRow row) f hf ∧
      ((error = none ∧ (∀ r, (f r).status = .published ∧ (f r).attempts = r.attempts) ∧
          report' = { report with published := report.published ++ [row.eventId] }) ∨
        (error ≠ none ∧ publisher.maxAttempts ≤ row.attempts + 1 ∧
          (∀ r, (f r).status = .quarantined ∧ (f r).attempts = row.attempts + 1) ∧
          report' = { report with quarantined := report.quarantined ++ [row.eventId] }) ∨
        (error ≠ none ∧ (∀ r, (f r).status = .pending ∧ (f r).attempts = row.attempts + 1) ∧
          report' = { report with retried := report.retried ++ [row.eventId] })) := by
  cases error with
  | none =>
    cases h
    exact ⟨_, _, rfl, Or.inl ⟨rfl, fun _ => ⟨rfl, rfl⟩, rfl⟩⟩
  | some error =>
    have hsome : some error ≠ none := Option.some_ne_none error
    unfold recordDelivery PostgresOutboxPublisher.recordDeliveryFailure at h
    by_cases hmax : publisher.maxAttempts ≤ ((row.attempts + 1 : ℕ) : ℤ)
    · simp only [if_pos hmax] at h
      cases h
      refine ⟨_, _, rfl, Or.inr (Or.inl ⟨hsome, ?_, fun _ => ⟨rfl, rfl⟩, rfl⟩)⟩
      omega
    · simp only [if_neg hmax] at h
      cases h
      exact ⟨_, _, rfl, Or.inr (Or.inr ⟨hsome, fun _ => ⟨rfl, rfl⟩, rfl⟩)⟩

def insertRow (t : OutboxTable) (event : OutboxEvent) (availableAt : ℤ)
    (hid : event.id ∉ t.rows.map (·.id)) (hevent : event.eventId ∉ t.rows.map (·.eventId)) :
    OutboxTable where
  rows := t.rows ++ [⟨event, .pending, availableAt, 0, none, none⟩]
  primary := by
    rw [List.map_append, List.map_singleton, List.nodup_append_comm]
    exact List.nodup_cons.mpr ⟨hid, t.primary⟩
  unique := by
    rw [List.map_append, List.map_singleton, List.nodup_append_comm]
    exact List.nodup_cons.mpr ⟨hevent, t.unique⟩

namespace State
variable [DecidableEq ι]

def setCall (s : State ι) (i : ι) (call : Call) : State ι :=
  { s with calls := Function.update s.calls i call }

def claim (s : State ι) (i : ι) (now : ℤ) (ids : List String) (claimed : List ClaimedRow) :
    State ι :=
  { s.setCall i (.publishing claimed {}) with
    table := s.table.lease now ids
    holder := fun id => if id ∈ ids then some i else s.holder id }

def answer (s : State ι) (event : OutboxDeliveryEvent) (error : Option String) : State ι :=
  { s with deliveries := ⟨event, error⟩ :: s.deliveries }

def setTable (s : State ι) (table : OutboxTable) : State ι := { s with table := table }

end State

/-- One step of one call, of the repair scan, or of a writer of the table. -/
inductive Step [DecidableEq ι] (publisher : ι → PostgresOutboxPublisher) :
    State ι → Action ι → State ι → Prop
  | claim {s : State ι} {i : ι} {limit : ℕ} {now : ℤ} {locked : String → Bool} {ids : List String}
      {claimed : List ClaimedRow} (hidle : s.calls i = .idle)
      (hpicks : s.table.Picks limit now locked ids)
      (hreturns : (s.table.lease now ids).Returns ids claimed) :
      Step publisher s (.claim i) (s.claim i now ids claimed)
  | deliver {s : State ι} {i : ι} {row : ClaimedRow} {rest : List ClaimedRow}
      {report : OutboxPublicationReport} {event : OutboxDeliveryEvent} {error : Option String}
      (hcall : s.calls i = .publishing (row :: rest) report)
      (hevent : row.toDeliveryEvent = .ok event) :
      Step publisher s (.deliver i)
        ((s.answer event error).setCall i (.delivered row error rest report))
  | undeliverable {s : State ι} {i : ι} {row : ClaimedRow} {rest : List ClaimedRow}
      {report : OutboxPublicationReport} {e : Problem}
      (hcall : s.calls i = .publishing (row :: rest) report)
      (hevent : row.toDeliveryEvent = .error e) :
      Step publisher s (.deliver i) (s.setCall i .stopped)
  | record {s : State ι} {i : ι} {row : ClaimedRow} {error : Option String}
      {rest : List ClaimedRow} {report report' : OutboxPublicationReport} {now : ℤ}
      {table : OutboxTable} (hcall : s.calls i = .delivered row error rest report)
      (hrecord : recordDelivery (publisher i) s.table row error report now = (report', table)) :
      Step publisher s (.record i) ((s.setTable table).setCall i (.publishing rest report'))
  | finish {s : State ι} {i : ι} {report : OutboxPublicationReport}
      (hcall : s.calls i = .publishing [] report) :
      Step publisher s (.finish i) (s.setCall i (.returned report))
  | stop {s : State ι} (i : ι) : Step publisher s (.stop i) (s.setCall i .stopped)
  | repair {s : State ι} (now leaseTimeoutSeconds : ℤ) :
      Step publisher s (.repair now leaseTimeoutSeconds)
        (s.setTable (s.table.repairStuckLeases now leaseTimeoutSeconds))
  | insert {s : State ι} {event : OutboxEvent} {availableAt : ℤ}
      (hid : event.id ∉ s.table.rows.map (·.id))
      (hevent : event.eventId ∉ s.table.rows.map (·.eventId)) :
      Step publisher s (.insert event availableAt)
        (s.setTable (insertRow s.table event availableAt hid hevent))

/-- Rows as their writers inserted them, and no call begun. -/
structure Initial (s : State ι) : Prop where
  fresh : ∀ row ∈ s.table.rows, row.status = .pending ∧ row.attempts = 0
  idle : ∀ i, s.calls i = .idle
  undelivered : s.deliveries = []

end Outbox
end QaRunner
