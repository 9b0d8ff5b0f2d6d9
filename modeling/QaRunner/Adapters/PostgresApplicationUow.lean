import QaRunner.Domain.Digest
import QaRunner.Lib.PublishOnce
import QaRunner.Lib.Transactions
import Mathlib.Data.Prod.Lex

/-! The unit of work over generic facts and the audit log: versioned facts committed by
compare-and-set under an idempotency key, and audit records that are only appended. -/
namespace QaRunner
open Guarded PublishOnce Transactions

/-- An immutable fact carrying an optimistic-concurrency version. -/
class VersionedFact (F : Type) where
  id : F → String
  version : F → ℤ

/-- What a call raises: a port contract, a domain error, an error of the codec, a value no column of
its type can hold, or a constraint. -/
inductive UowError where
  | portContract (resource field reason : String)
  | domain (e : DomainError)
  | codec
  | dataError (column : String)
  | integrity (constraint : String)
  deriving DecidableEq

abbrev Uow := Except UowError

structure FactKey.Fields where
  kind : String
  value : String
  deriving DecidableEq

def FactKey.Fields.postInit (k : FactKey.Fields) : Uow Unit := do
  raiseIf (isBlank k.kind) (.portContract "fact_key" "kind" "empty")
  raiseIf (isBlank k.value) (.portContract "fact_key" "value" "empty")

/-- Stable store identity independent of a persistence table key. -/
structure FactKey extends FactKey.Fields where
  accepted : toFields.postInit = .ok ()
  deriving DecidableEq

/-- The binding of one scoped key to its request digest and response. -/
structure IdempotencyRecord where
  scope : String
  key : String
  requestDigest : Digest
  responseStatus : ℤ
  responseRef : String
  deriving DecidableEq

structure VersionedFactCommand.Fields (F : Type) where
  key : FactKey
  expectedVersion : Option ℤ
  fact : F
  idempotency : IdempotencyRecord

def VersionedFactCommand.Fields.postInit {F : Type} (c : VersionedFactCommand.Fields F) :
    Uow Unit :=
  raiseIf (∃ version ∈ c.expectedVersion, version < 0)
    (.portContract "fact_command" "expected_version" "negative")

/-- Create one versioned fact, or replace it at a version, under an idempotency key. -/
structure VersionedFactCommand (F : Type) extends VersionedFactCommand.Fields F where
  accepted : toFields.postInit = .ok ()

/-- The first durable fact, or its exact replay. -/
structure FactCommitResult (F : Type) where
  fact : F
  replayed : Bool
  deriving DecidableEq

/-- The encoder and decoder registered for one kind; decoding may raise. -/
structure FactCodec (F : Type) where
  schemaVersion : String
  encode : F → Json
  decode : Json → Option F

structure AuditRecord.Fields where
  eventId : String
  actorId : String
  authenticationStrength : String
  requestId : String
  objectKind : String
  objectId : String
  action : String
  decision : String
  reason : String
  beforeDigest : Option Digest
  afterDigest : Option Digest
  occurredAt : Datetime
  source : String
  deriving DecidableEq

/-- `[A-Za-z0-9][A-Za-z0-9_.:-]*` -/
def isAuditCode (value : String) : Bool :=
  match value.toList with
  | [] => false
  | c :: cs => c.isAlphanum && cs.all fun c => c.isAlphanum || c ∈ ['_', '.', ':', '-']

def isControl (c : Char) : Bool := c.toNat < 32 || c.toNat == 127

namespace AuditRecord.Fields

def codeFields (r : AuditRecord.Fields) : List (String × String) :=
  [("authentication_strength", r.authenticationStrength), ("object_kind", r.objectKind),
    ("action", r.action), ("decision", r.decision), ("reason", r.reason), ("source", r.source)]

def identityFields (r : AuditRecord.Fields) : List (String × String) :=
  [("event_id", r.eventId), ("actor_id", r.actorId), ("request_id", r.requestId),
    ("object_id", r.objectId)]

def postInit (r : AuditRecord.Fields) : Uow Unit := do
  each (r.identityFields ++ r.codeFields) fun (field, value) => do
    raiseIf (isBlank value) (.portContract "audit_record" field "empty")
    raiseIf (value.toList.any isControl)
      (.portContract "audit_record" field "contains_control_character")
  each r.codeFields fun (field, value) =>
    raiseIf (isAuditCode value = false) (.portContract "audit_record" field "not_code")
  raiseIf (¬ r.occurredAt.IsUtc) (.portContract "audit_record" "occurred_at" "not_utc")

end AuditRecord.Fields

/-- One immutable security or governance decision record. -/
structure AuditRecord extends AuditRecord.Fields where
  accepted : toFields.postInit = .ok ()
  deriving DecidableEq

def AuditRecord.new : AuditRecord.Fields → Uow AuditRecord :=
  construct AuditRecord.Fields.postInit AuditRecord.mk

structure FactSnapshotRow where
  factKind : String
  factKey : String
  version : ℤ
  factId : String
  codecSchemaVersion : String
  payloadDigest : String
  payload : Json

structure FactCommandRow where
  idempotencyScope : String
  idempotencyKey : String
  requestDigest : String
  commandDigest : String
  responseStatus : ℤ
  responseRef : String
  factKind : String
  factKey : String
  factVersion : ℤ
  factPayloadDigest : String

structure AuditLogRow where
  id : String
  actorId : String
  action : String
  objectType : String
  objectId : String
  decision : String
  reasonCode : String
  beforeDigest : Option String
  afterDigest : Option String
  payload : Json
  occurredAt : Datetime

/-- A row of `qep_versioned_fact_snapshots`, `qep_versioned_fact_commands` or `qep_audit_events`. -/
inductive UowRow where
  | snapshot (row : FactSnapshotRow)
  | command (row : FactCommandRow)
  | audit (row : AuditLogRow)

namespace UowRow

/-- Both rows have the same primary key in the same table. -/
def Clash : UowRow → UowRow → Prop
  | .snapshot a, .snapshot b =>
    a.factKind = b.factKind ∧ a.factKey = b.factKey ∧ a.version = b.version
  | .command a, .command b =>
    a.idempotencyScope = b.idempotencyScope ∧ a.idempotencyKey = b.idempotencyKey
  | .audit a, .audit b => a.id = b.id
  | _, _ => False

instance : DecidableRel Clash
  | .snapshot _, .snapshot _ => inferInstanceAs (Decidable (_ ∧ _))
  | .command _, .command _ => inferInstanceAs (Decidable (_ ∧ _))
  | .audit a, .audit b => inferInstanceAs (Decidable (a.id = b.id))
  | .snapshot _, .command _ => isFalse id
  | .snapshot _, .audit _ => isFalse id
  | .command _, .snapshot _ => isFalse id
  | .command _, .audit _ => isFalse id
  | .audit _, .snapshot _ => isFalse id
  | .audit _, .command _ => isFalse id

theorem Clash.symm {a b : UowRow} (h : Clash a b) : Clash b a := by
  cases a <;> cases b <;> simp_all [Clash]

def snapshot? : UowRow → Option FactSnapshotRow
  | .snapshot row => some row
  | _ => none

def command? : UowRow → Option FactCommandRow
  | .command row => some row
  | _ => none

def audit? : UowRow → Option AuditLogRow
  | .audit row => some row
  | _ => none

end UowRow

namespace ApplicationUow

def domain {α : Type} (x : Result α) : Uow α :=
  match x with
  | .ok a => .ok a
  | .error e => .error (.domain e)

def digest (value : String) : Uow Digest := domain (Digest.new ("sha256:" ++ value))

def isObject : Json → Bool
  | .dict _ => true
  | _ => false

/-- Equal as JSON values, the keys of an object in any order. -/
def Alike (v w : Json) : Prop := v.render = w.render

instance (v w : Json) : Decidable (Alike v w) := inferInstanceAs (Decidable (_ = _))

abbrev UowScript := Script UowRow UowError

section
variable {F : Type} [VersionedFact F] [DecidableEq F]

def codecOf (codecs : String → Option (FactCodec F)) (kind : String) : Uow (FactCodec F) := do
  let codec ← need (codecs kind) (.portContract "fact_store" "key.kind" "unsupported")
  raiseIf (isBlank codec.schemaVersion) (.portContract "fact_store" "codec" "invalid")
  return codec

/-- Encode a fact that decodes to itself and has a digest. -/
def codecPayload (codec : FactCodec F) (fact : F) : Uow Json := do
  let payload := codec.encode fact
  raiseIf (isObject payload = false) (.portContract "fact_store" "codec" "invalid_payload")
  let decoded ← need (codec.decode payload) .codec
  raiseIf (decoded ≠ fact) (.portContract "fact_store" "codec" "round_trip_mismatch")
  let _ ← domain (canonicalDigest codec.schemaVersion payload)
  return payload

/-- What an unread or changed stored value is reported as. -/
def integrityInvalid (resource field : String) : UowError :=
  .portContract resource field "integrity_invalid"

def decodeFact (key : FactKey) (codec : FactCodec F) (row : FactSnapshotRow) : Uow F := do
  let invalid := integrityInvalid "fact_store" "stored_fact"
  raiseIf (isObject row.payload = false) invalid
  let payloadDigest ← orFail (domain (canonicalDigest codec.schemaVersion row.payload)) invalid
  let fact ← need (codec.decode row.payload) invalid
  raiseIf (row.factId ≠ key.value ∨ row.codecSchemaVersion ≠ codec.schemaVersion ∨
    row.payloadDigest ≠ digestHex payloadDigest ∨ VersionedFact.id fact ≠ key.value ∨
    VersionedFact.version fact ≠ row.version ∨ ¬ Alike (codec.encode fact) row.payload) invalid
  return fact

def commandDigest (command : VersionedFactCommand F) (payloadDigest : Digest) : Uow Digest :=
  domain <| canonicalDigest "qep.versioned-fact-command.v1" <| .dict
    [("fact_kind", .str command.key.kind), ("fact_key", .str command.key.value),
      ("expected_version", optionalInt command.expectedVersion),
      ("fact_version", .int (VersionedFact.version command.fact)),
      ("fact_payload_digest", .str payloadDigest.value),
      ("response_status", .int command.idempotency.responseStatus),
      ("response_ref", .str command.idempotency.responseRef)]

/-- The versions of a key. -/
def snapshots (rows : List UowRow) (key : FactKey) : List FactSnapshotRow :=
  (rows.filterMap UowRow.snapshot?).filter fun row =>
    row.factKind = key.kind ∧ row.factKey = key.value

def latest (rows : List UowRow) (key : FactKey) : Option FactSnapshotRow :=
  (Sorting.sortOn (·.version) (snapshots rows key)).getLast?

def storedCommand (rows : List UowRow) (record : IdempotencyRecord) : Option FactCommandRow :=
  (rows.filterMap UowRow.command?).find? fun row =>
    row.idempotencyScope = record.scope ∧ row.idempotencyKey = record.key

def readLatest (codec : FactCodec F) (key : FactKey) (rows : List UowRow) : Uow (Option F) :=
  match latest rows key with
  | none => return none
  | some row => return some (← decodeFact key codec row)

def getFact (codecs : String → Option (FactCodec F)) (key : FactKey) : UowScript (Option F) := do
  let codec ← Script.lift (codecOf codecs key.kind)
  Script.look (readLatest codec key)

/-- A stored command under the key answers this one only if it is exactly this one. -/
def checkReplay (command : VersionedFactCommand F) (payloadDigest commandDigest : Digest)
    (stored : FactCommandRow) : Uow Unit := do
  let record := command.idempotency
  whenever (stored.requestDigest ≠ digestHex record.requestDigest) do
    let storedDigest ← digest stored.requestDigest
    throw (.domain (.idempotencyConflict record.scope record.key storedDigest.value
      record.requestDigest.value))
  raiseIf (stored.commandDigest ≠ digestHex commandDigest ∨
    stored.responseStatus ≠ record.responseStatus ∨ stored.responseRef ≠ record.responseRef ∨
    stored.factKind ≠ command.key.kind ∨ stored.factKey ≠ command.key.value ∨
    stored.factVersion ≠ VersionedFact.version command.fact ∨
    stored.factPayloadDigest ≠ digestHex payloadDigest)
    (.portContract "fact_store" "idempotency" "non_exact_replay")

/-- The version that was stored, while the key may have moved on. -/
def replayFact (codecs : String → Option (FactCodec F)) (codec : FactCodec F)
    (command : VersionedFactCommand F) : UowScript (FactCommitResult F) := do
  let missing := UowError.portContract "fact_store" "idempotency" "stored_result_missing"
  let stored ← getFact codecs command.key
  Script.lift (raiseIf (¬ ∃ fact ∈ stored,
    VersionedFact.version command.fact ≤ VersionedFact.version fact) missing)
  let historical ← Script.look fun rows => need ((snapshots rows command.key).find?
    (·.version = VersionedFact.version command.fact)) missing
  let fact ← Script.lift (decodeFact command.key codec historical)
  return ⟨fact, true⟩

/-- The version a command has to carry. -/
def requiredVersion (codec : FactCodec F) (command : VersionedFactCommand F)
    (current : Option FactSnapshotRow) : Uow ℤ := do
  whenSome current fun row => do let _ ← decodeFact command.key codec row
  match command.expectedVersion with
  | none =>
    raiseIf (current.isSome) (.portContract "fact_store" "expected_version" "already_exists")
    return 0
  | some expectedVersion =>
    let row ← need current (.portContract "fact_store" "key" "not_found")
    raiseIf (row.version ≠ expectedVersion) (.domain (.versionConflict command.key.kind
      command.key.value row.version expectedVersion))
    return expectedVersion + 1

def snapshotRow (codec : FactCodec F) (command : VersionedFactCommand F) (payload : Json)
    (payloadDigest : Digest) : FactSnapshotRow :=
  { factKind := command.key.kind
    factKey := command.key.value
    version := VersionedFact.version command.fact
    factId := VersionedFact.id command.fact
    codecSchemaVersion := codec.schemaVersion
    payloadDigest := digestHex payloadDigest
    payload := payload }

def commandRow (command : VersionedFactCommand F) (payloadDigest commandDigest : Digest) :
    FactCommandRow :=
  { idempotencyScope := command.idempotency.scope
    idempotencyKey := command.idempotency.key
    requestDigest := digestHex command.idempotency.requestDigest
    commandDigest := digestHex commandDigest
    responseStatus := command.idempotency.responseStatus
    responseRef := command.idempotency.responseRef
    factKind := command.key.kind
    factKey := command.key.value
    factVersion := VersionedFact.version command.fact
    factPayloadDigest := digestHex payloadDigest }

/-- The columns of a command row that its own checks or their types can refuse. -/
def checkCommandRow (row : FactCommandRow) : Uow Unit := do
  raiseIf (row.responseStatus < -2147483648 ∨ 2147483647 < row.responseStatus)
    (.dataError "response_status")
  raiseIf (row.idempotencyScope = "")
    (.integrity "qep_versioned_fact_commands_idempotency_scope_check")
  raiseIf (row.idempotencyKey = "")
    (.integrity "qep_versioned_fact_commands_idempotency_key_check")

def insertFact (codec : FactCodec F) (command : VersionedFactCommand F) (payload : Json)
    (payloadDigest commandDigest : Digest) : UowScript (FactCommitResult F) := do
  Script.lift (raiseIf (9223372036854775807 < VersionedFact.version command.fact)
    (.dataError "version"))
  Script.add (.snapshot (snapshotRow codec command payload payloadDigest))
    (.integrity "qep_versioned_fact_snapshots_pkey")
  let row := commandRow command payloadDigest commandDigest
  Script.lift (checkCommandRow row)
  Script.add (.command row) (.integrity "qep_versioned_fact_commands_pkey")
  return ⟨command.fact, false⟩

def commitFact (codecs : String → Option (FactCodec F)) (command : VersionedFactCommand F) :
    UowScript (FactCommitResult F) := do
  let codec ← Script.lift (codecOf codecs command.key.kind)
  Script.lift (raiseIf (command.key.value ≠ VersionedFact.id command.fact)
    (.portContract "fact_store" "key.value" "fact_id_mismatch"))
  let payload ← Script.lift (codecPayload codec command.fact)
  let payloadDigest ← Script.lift (domain (canonicalDigest codec.schemaVersion payload))
  let commandDigest ← Script.lift (commandDigest command payloadDigest)
  let replay ← Script.look fun rows => .ok (storedCommand rows command.idempotency)
  match replay with
  | some stored => do
    Script.lift (checkReplay command payloadDigest commandDigest stored)
    replayFact codecs codec command
  | none => do
    let current ← Script.look fun rows => .ok (latest rows command.key)
    let version ← Script.lift (requiredVersion codec command current)
    Script.lift (raiseIf (VersionedFact.version command.fact ≠ version)
      (.portContract "fact_store" "fact.version" "not_next_version"))
    insertFact codec command payload payloadDigest commandDigest

end

def auditSchemaVersion : String := "qep.application-audit.v1"

def auditPayload (record : AuditRecord) : Json :=
  .dict [("schema_version", .str auditSchemaVersion),
    ("authentication_strength", .str record.authenticationStrength),
    ("request_id", .str record.requestId), ("source", .str record.source)]

def auditRow (record : AuditRecord) : AuditLogRow :=
  { id := record.eventId
    actorId := record.actorId
    action := record.action
    objectType := record.objectKind
    objectId := record.objectId
    decision := record.decision
    reasonCode := record.reason
    beforeDigest := record.beforeDigest.map digestHex
    afterDigest := record.afterDigest.map digestHex
    payload := auditPayload record
    occurredAt := record.occurredAt }

/-- The value of a key of an object. -/
def entry (key : String) : Json → Option Json
  | .dict fields => (fields.find? (·.1 = (key : Str))).map Prod.snd
  | _ => none

/-- A text of a stored payload, which no column holds unless it is valid Unicode. -/
def text : Json → Option String
  | .str (.text s) => some s
  | _ => none

/-- `payload ->> key` of a text. -/
def entryText (key : String) (payload : Json) : Option String := (entry key payload).bind text

/-- A text that a record takes from a payload; the record names it when it is not a text. -/
def recordText (key : String) (payload : Json) : Uow String := do
  let value ← need (entry key payload) (integrityInvalid "audit_log" "stored_record")
  need (text value) (.portContract "audit_record" key "not_string")

def optionalDigest : Option String → Uow (Option Digest)
  | none => return none
  | some value => return some (← orFail (digest value)
      (integrityInvalid "audit_log" "stored_record"))

def decodeAudit (row : AuditLogRow) : Uow AuditRecord := do
  let invalid := integrityInvalid "audit_log" "stored_record"
  raiseIf (entryText "schema_version" row.payload ≠ some auditSchemaVersion) invalid
  let authenticationStrength ← recordText "authentication_strength" row.payload
  let requestId ← recordText "request_id" row.payload
  let beforeDigest ← optionalDigest row.beforeDigest
  let afterDigest ← optionalDigest row.afterDigest
  let source ← recordText "source" row.payload
  let record ← AuditRecord.new
    { eventId := row.id
      actorId := row.actorId
      authenticationStrength := authenticationStrength
      requestId := requestId
      objectKind := row.objectType
      objectId := row.objectId
      action := row.action
      decision := row.decision
      reason := row.reasonCode
      beforeDigest := beforeDigest
      afterDigest := afterDigest
      occurredAt := row.occurredAt
      source := source }
  raiseIf (¬ Alike row.payload (auditPayload record)) invalid
  return record

def auditEvents (rows : List UowRow) : List AuditLogRow := rows.filterMap UowRow.audit?

def appendAudit (record : AuditRecord) : UowScript (ReplayResult AuditRecord) := do
  let stored ← Script.look fun rows => .ok ((auditEvents rows).find? (·.id = record.eventId))
  match stored with
  | some row => do
    let decoded ← Script.lift (decodeAudit row)
    Script.lift (raiseIf (decoded ≠ record)
      (.portContract "audit_log" "event_id" "conflicting_content"))
    return ⟨decoded, true⟩
  | none => do
    Script.add (.audit (auditRow record)) (.integrity "qep_audit_events_pkey")
    return ⟨record, false⟩

/-- The rows of an object that this log wrote, by instant and id. -/
def objectEvents (objectKind objectId : String) (rows : List UowRow) : List AuditLogRow :=
  Sorting.sortOn (fun row => toLex (row.occurredAt.micros, row.id)) <|
    (auditEvents rows).filter fun row => row.objectType = objectKind ∧ row.objectId = objectId ∧
      entryText "schema_version" row.payload = some auditSchemaVersion

def listForObject (objectKind objectId : String) (rows : List UowRow) : Uow (List AuditRecord) :=
  collect (objectEvents objectKind objectId rows) decodeAudit

end ApplicationUow

open ApplicationUow

inductive UowCall (F : Type) where
  | getFact (key : FactKey)
  | commitFact (command : VersionedFactCommand F)
  | appendAudit (record : AuditRecord)
  | listForObject (objectKind objectId : String)

inductive UowResult (F : Type) where
  | fact (fact : Option F)
  | committed (result : FactCommitResult F)
  | appended (result : ReplayResult AuditRecord)
  | listed (records : List AuditRecord)

namespace ApplicationUow

variable {F : Type} [VersionedFact F] [DecidableEq F]

def script (codecs : String → Option (FactCodec F)) : UowCall F → UowScript (UowResult F)
  | .getFact key => do return .fact (← getFact codecs key)
  | .commitFact command => do return .committed (← commitFact codecs command)
  | .appendAudit record => do return .appended (← appendAudit record)
  | .listForObject objectKind objectId => do
    return .listed (← Script.look (listForObject objectKind objectId))

/-- A write that raises aborts its unit of work for good. -/
def aborts : UowCall F → Bool
  | .commitFact _ => true
  | .appendAudit _ => true
  | _ => false

/-- Units of work on one database. -/
def rules (codecs : String → Option (FactCodec F)) : Rules (UowCall F) UowRow UowError (UowResult F)
    where
  script := script codecs
  dooms := aborts
  clash := UowRow.Clash
  symm _ _ := UowRow.Clash.symm

instance (codecs : String → Option (FactCodec F)) : DecidableRel (rules codecs).clash :=
  inferInstanceAs (DecidableRel UowRow.Clash)

end ApplicationUow
end QaRunner
