import QaRunner.Adapters.PostgresApplicationUow
import QaRunner.Lib.NumberedLog

/-! What units of work leave behind, however their statements interleave: histories of facts without
gaps, one fact for each idempotency key, and an audit log that is only added to. -/
namespace QaRunner
open Guarded PublishOnce Transactions

namespace ApplicationUow

theorem domain_eq_ok {α : Type} {x : Result α} {a : α} : domain x = .ok a ↔ x = .ok a := by
  cases x <;> simp [domain]

theorem digest_digestHex (d : Digest) : digest (digestHex d) = .ok d :=
  domain_eq_ok.mpr (Digest.new_removeprefix d)

theorem digestHex_inj {d e : Digest} (h : digestHex d = digestHex e) : d = e := by
  have hd := digest_digestHex d
  rw [h, digest_digestHex e] at hd
  exact (Except.ok.inj hd).symm

section
variable {F : Type} [VersionedFact F] {codecs : String → Option (FactCodec F)} {codec : FactCodec F}
  {command : VersionedFactCommand F} {key key' : FactKey} {fact fact' : F}
  {rows rows' added : List UowRow} {row : FactSnapshotRow} {payload : Json}
  {payloadDigest commandDigest : Digest}

/-- A row that reads back holds a fact of its key and version. -/
theorem of_decodeFact (h : decodeFact key codec row = .ok fact) :
    VersionedFact.id fact = key.value ∧ VersionedFact.version fact = row.version := by
  simp only [decodeFact, bind_eq_ok, exists_unit, raiseIf_eq_ok, not_or, not_not, pure_eq_ok] at h
  obtain ⟨-, _, -, _, -, ⟨-, -, -, hid, hversion, -⟩, rfl⟩ := h
  exact ⟨hid, hversion⟩

/-- The row is of the key, and reads back as the fact. -/
structure ReadsAs (codecs : String → Option (FactCodec F)) (key : FactKey) (row : FactSnapshotRow)
    (fact : F) : Prop where
  kind_eq : row.factKind = key.kind
  key_eq : row.factKey = key.value
  decoded : ∃ codec, codecOf codecs key.kind = .ok codec ∧ decodeFact key codec row = .ok fact

theorem ReadsAs.decodeFact_eq (h : ReadsAs codecs key row fact)
    (hcodec : codecOf codecs key.kind = .ok codec) : decodeFact key codec row = .ok fact := by
  obtain ⟨codec', hcodec', hdecoded⟩ := h.decoded
  rw [hcodec] at hcodec'
  cases hcodec'
  exact hdecoded

theorem ReadsAs.key_inj (h : ReadsAs codecs key row fact) (h' : ReadsAs codecs key' row fact') :
    key = key' := by
  obtain ⟨⟨kind, value⟩, _⟩ := key
  obtain ⟨⟨kind', value'⟩, _⟩ := key'
  obtain rfl : kind = kind' := h.kind_eq.symm.trans h'.kind_eq
  obtain rfl : value = value' := h.key_eq.symm.trans h'.key_eq
  rfl

theorem ReadsAs.fact_inj (h : ReadsAs codecs key row fact) (h' : ReadsAs codecs key' row fact') :
    fact = fact' := by
  have hkey := h.key_inj h'
  subst hkey
  obtain ⟨codec, hcodec, hdecoded⟩ := h.decoded
  exact Except.ok.inj (hdecoded.symm.trans (h'.decodeFact_eq hcodec))

theorem mem_snapshots :
    row ∈ snapshots rows key ↔
      UowRow.snapshot row ∈ rows ∧ row.factKind = key.kind ∧ row.factKey = key.value := by
  simp only [snapshots, List.mem_filter, List.mem_filterMap, decide_eq_true_eq]
  constructor
  · rintro ⟨⟨r, hr, hsome⟩, hkey⟩
    cases r <;> cases hsome
    exact ⟨hr, hkey⟩
  · rintro ⟨hr, hkey⟩
    exact ⟨⟨_, hr, rfl⟩, hkey⟩

/-- A stored version reads back, and unless it is the first the one before it is stored. -/
def Justified (codecs : String → Option (FactCodec F)) (rows : List UowRow) : UowRow → Prop
  | .snapshot row => (∃ key fact, ReadsAs codecs key row fact) ∧ 0 ≤ row.version ∧
    (row.version = 0 ∨ ∃ prior, .snapshot prior ∈ rows ∧ prior.factKind = row.factKind ∧
      prior.factKey = row.factKey ∧ prior.version + 1 = row.version)
  | .command _ => True
  | .audit row => ∃ record, row = auditRow record

theorem Justified.mono {row : UowRow} (hrows : rows ⊆ rows') (h : Justified codecs rows row) :
    Justified codecs rows' row := by
  cases row with
  | snapshot row =>
    obtain ⟨hreads, hnonneg, hprior⟩ := h
    refine ⟨hreads, hnonneg, hprior.imp_right ?_⟩
    rintro ⟨prior, hmem, hrest⟩
    exact ⟨prior, hrows hmem, hrest⟩
  | command row => trivial
  | audit row => exact h

theorem storedCommand_some {record : IdempotencyRecord} {stored : FactCommandRow}
    (h : storedCommand rows record = some stored) : UowRow.command stored ∈ rows ∧
      stored.idempotencyScope = record.scope ∧ stored.idempotencyKey = record.key := by
  have hmem := List.mem_of_find?_eq_some h
  have hkey := List.find?_some h
  simp only [decide_eq_true_eq] at hkey
  rw [List.mem_filterMap] at hmem
  obtain ⟨r, hr, hsome⟩ := hmem
  cases r <;> cases hsome
  exact ⟨hr, hkey⟩

/-- Only the command that is stored is replayed. -/
theorem of_checkReplay {stored : FactCommandRow}
    (h : checkReplay command payloadDigest commandDigest stored = .ok ())
    (hscope : stored.idempotencyScope = command.idempotency.scope)
    (hkey : stored.idempotencyKey = command.idempotency.key) :
    stored = commandRow command payloadDigest commandDigest := by
  simp only [checkReplay, bind_eq_ok, exists_unit, whenever_eq_ok, raiseIf_eq_ok, not_or, not_not,
    throw_eq_ok, and_false, exists_false, imp_false] at h
  obtain ⟨hrequest, hdigest, hstatus, href, hkind, hvalue, hversion, hpayload⟩ := h
  obtain ⟨_, _, _, _, _, _, _, _, _, _⟩ := stored
  simp only [commandRow, FactCommandRow.mk.injEq]
  exact ⟨hscope, hkey, hrequest, hdigest, hstatus, href, hkind, hvalue, hversion, hpayload⟩

theorem getFact_sound (codecs : String → Option (FactCodec F)) (key : FactKey)
    (J : List UowRow → UowRow → Prop) (rows added : List UowRow) :
    Sound J (fun rows' added' _ => rows ⊆ rows' ∧ added' = added) rows added
      (getFact codecs key) := by
  refine .lift_bind (fun _ _ => ⟨List.Subset.refl _, rfl⟩) fun codec _ => ?_
  exact .query fun rows' hrows => .done ⟨hrows, rfl⟩

/-- The version a command has to carry is free and follows the one that was read. -/
theorem of_requiredVersion {current : Option FactSnapshotRow} {version : ℤ}
    (h : requiredVersion codec command current = .ok version) :
    0 ≤ version ∧ (version = 0 ∨ ∃ prior ∈ current, prior.version + 1 = version) := by
  have haccepted := command.accepted
  simp only [VersionedFactCommand.Fields.postInit, raiseIf_eq_ok, not_exists, not_and,
    not_lt] at haccepted
  unfold requiredVersion at h
  rw [then_eq_ok] at h
  obtain ⟨-, h⟩ := h
  cases hexpected : command.expectedVersion with
  | none =>
    simp only [hexpected, then_eq_ok, pure_eq_ok] at h
    exact ⟨h.2.le, Or.inl h.2.symm⟩
  | some expected =>
    simp only [hexpected, bind_eq_ok, need_eq_ok, exists_unit, raiseIf_eq_ok, not_not,
      pure_eq_ok] at h
    obtain ⟨prior, hprior, hversion, rfl⟩ := h
    have hnonneg := haccepted expected hexpected
    exact ⟨by omega, Or.inr ⟨prior, hprior, by rw [hversion]⟩⟩

theorem latest_mem {current : FactSnapshotRow} (h : latest rows key = some current) :
    UowRow.snapshot current ∈ rows ∧ current.factKind = key.kind ∧ current.factKey = key.value :=
  mem_snapshots.mp (Sorting.mem_sortOn.mp (List.mem_of_getLast? h))

variable [DecidableEq F]

/-- What a command encoded reads back as its fact. -/
theorem decodeFact_snapshotRow (hid : command.key.value = VersionedFact.id command.fact)
    (hpayload : codecPayload codec command.fact = .ok payload)
    (hdigest : domain (canonicalDigest codec.schemaVersion payload) = .ok payloadDigest) :
    decodeFact command.key codec (snapshotRow codec command payload payloadDigest) =
      .ok command.fact := by
  simp only [codecPayload, bind_eq_ok, exists_unit, raiseIf_eq_ok, need_eq_ok, not_not,
    pure_eq_ok] at hpayload
  obtain ⟨hobject, _, hdecoded, rfl, -, -, rfl⟩ := hpayload
  simp only [decodeFact, bind_eq_ok, exists_unit, need_eq_ok, orFail_eq_ok, pure_eq_ok]
  refine ⟨raiseIf_of_not hobject, payloadDigest, hdigest, _, hdecoded, raiseIf_of_not ?_, rfl⟩
  simp [snapshotRow, hid, Alike]

/-- What a commit makes of its command before it looks at the rows. -/
structure Prepared (codecs : String → Option (FactCodec F)) (command : VersionedFactCommand F)
    (codec : FactCodec F) (payload : Json) (payloadDigest digest : Digest) : Prop where
  codec_eq : codecOf codecs command.key.kind = .ok codec
  id_eq : command.key.value = VersionedFact.id command.fact
  payload_eq : codecPayload codec command.fact = .ok payload
  payloadDigest_eq : domain (canonicalDigest codec.schemaVersion payload) = .ok payloadDigest
  digest_eq : ApplicationUow.commandDigest command payloadDigest = .ok digest

/-- A command is stored as it is, next to the version it made. -/
structure StoredCommand (codecs : String → Option (FactCodec F)) (command : VersionedFactCommand F)
    (rows : List UowRow) (row : FactSnapshotRow) (stored : FactCommandRow) (fact : F) : Prop where
  row_mem : .snapshot row ∈ rows
  stored_mem : .command stored ∈ rows
  reads : ReadsAs codecs command.key row fact
  version : row.version = VersionedFact.version command.fact
  stored_eq : ∃ codec payload payloadDigest digest,
    Prepared codecs command codec payload payloadDigest digest ∧
      stored = commandRow command payloadDigest digest

theorem StoredCommand.fields {stored : FactCommandRow}
    (h : StoredCommand codecs command rows row stored fact) :
    (stored.idempotencyScope = command.idempotency.scope ∧
      stored.idempotencyKey = command.idempotency.key) ∧
      stored.requestDigest = digestHex command.idempotency.requestDigest ∧
      stored.factKind = row.factKind ∧ stored.factKey = row.factKey ∧
      stored.factVersion = row.version := by
  obtain ⟨_, _, _, _, -, rfl⟩ := h.stored_eq
  exact ⟨⟨rfl, rfl⟩, rfl, h.reads.kind_eq.symm, h.reads.key_eq.symm, h.version.symm⟩

/-- What a commit is answered with is stored, and was added unless it is a replay. -/
def Committed (codecs : String → Option (FactCodec F)) (command : VersionedFactCommand F)
    (rows added : List UowRow) (result : Uow (FactCommitResult F)) : Prop :=
  ∀ r, result = .ok r → ∃ row stored, StoredCommand codecs command rows row stored r.fact ∧
    if r.replayed then added = []
    else added = [.snapshot row, .command stored] ∧ r.fact = command.fact

def Appended (record : AuditRecord) (rows added : List UowRow)
    (result : Uow (ReplayResult AuditRecord)) : Prop :=
  ∀ r, result = .ok r → r.value = record ∧
    (∃ row, .audit row ∈ rows ∧ row.id = record.eventId ∧ decodeAudit row = .ok record) ∧
    if r.replayed then added = [] else added = [.audit (auditRow record)]

/-- What the answer to a call says about the rows. -/
def Answered (codecs : String → Option (FactCodec F)) (call : UowCall F) (rows added : List UowRow)
    (result : Uow (UowResult F)) : Prop :=
  match call with
  | .commitFact command => ∃ inner, result = inner.map .committed ∧
    Committed codecs command rows added inner
  | .appendAudit record => ∃ inner, result = inner.map .appended ∧
    Appended record rows added inner
  | .getFact _ => added = []
  | .listForObject _ _ => added = []

theorem replayFact_sound {J : List UowRow → UowRow → Prop} {digest : Digest}
    (h : Prepared codecs command codec payload payloadDigest digest)
    (hmem : UowRow.command (commandRow command payloadDigest digest) ∈ rows) :
    Sound J (Committed codecs command) rows [] (replayFact codecs codec command) := by
  refine .bind (getFact_sound codecs command.key J rows []) (fun _ _ _ _ => nofun) ?_
  rintro rows₁ _ current ⟨hrows₁, rfl⟩
  refine .lift_bind (fun _ _ => nofun) fun _ _ => ?_
  refine .look_bind (fun _ _ _ _ => nofun) fun rows₂ row hrows₂ hrow => ?_
  rw [need_eq_ok] at hrow
  have hfound := List.find?_some hrow
  obtain ⟨hrowmem, hrowkind, hrowkey⟩ := mem_snapshots.mp (List.mem_of_find?_eq_some hrow)
  refine .lift_bind (fun _ _ => nofun) fun fact hfact => .done ?_
  rintro _ ⟨⟩
  refine ⟨row, _, ⟨hrowmem, hrows₂ (hrows₁ hmem), ⟨hrowkind, hrowkey, codec, h.codec_eq, hfact⟩,
    of_decide_eq_true hfound, codec, payload, payloadDigest, digest, h, rfl⟩, ?_⟩
  exact rfl

theorem insertFact_sound {digest : Digest}
    (h : Prepared codecs command codec payload payloadDigest digest)
    (hnonneg : 0 ≤ VersionedFact.version command.fact)
    (hprior : VersionedFact.version command.fact = 0 ∨ ∃ prior, UowRow.snapshot prior ∈ rows ∧
      prior.factKind = command.key.kind ∧ prior.factKey = command.key.value ∧
      prior.version + 1 = VersionedFact.version command.fact) :
    Sound (Justified codecs) (Committed codecs command) rows []
      (insertFact codec command payload payloadDigest digest) := by
  have hreads : ReadsAs codecs command.key (snapshotRow codec command payload payloadDigest)
      command.fact := ⟨rfl, rfl, codec, h.codec_eq,
    decodeFact_snapshotRow h.id_eq h.payload_eq h.payloadDigest_eq⟩
  refine .lift_bind (fun _ _ => nofun) fun _ _ => ?_
  refine .add_bind ⟨⟨_, _, hreads⟩, hnonneg, hprior⟩ nofun fun rows₁ hrows₁ hrow => ?_
  refine .lift_bind (fun _ _ => nofun) fun _ _ => ?_
  refine .add_bind trivial nofun fun rows₂ hrows₂ hstored => .done ?_
  rintro _ ⟨⟩
  refine ⟨_, _, ⟨hrows₂ hrow, hstored, hreads, rfl, codec, payload, payloadDigest, digest, h, rfl⟩,
    ?_⟩
  exact ⟨rfl, rfl⟩

/-- A commit adds a justified version or replays the one it once added. -/
theorem commitFact_sound (command : VersionedFactCommand F) (rows : List UowRow) :
    Sound (Justified codecs) (Committed codecs command) rows [] (commitFact codecs command) := by
  refine .lift_bind (fun _ _ => nofun) fun codec hcodec => ?_
  refine .lift_bind (fun _ _ => nofun) fun _ hid => ?_
  refine .lift_bind (fun _ _ => nofun) fun payload hpayload => ?_
  refine .lift_bind (fun _ _ => nofun) fun payloadDigest hpayloadDigest => ?_
  refine .lift_bind (fun _ _ => nofun) fun digest hdigest => ?_
  rw [raiseIf_eq_ok, not_not] at hid
  have hprepared : Prepared codecs command codec payload payloadDigest digest :=
    ⟨hcodec, hid, hpayload, hpayloadDigest, hdigest⟩
  refine .look_bind (fun _ _ _ => nofun) fun rows₁ replay hrows₁ hreplay => ?_
  cases hreplay
  cases hfound : storedCommand rows₁ command.idempotency with
  | some stored =>
    obtain ⟨hmem, hscope, hkey⟩ := storedCommand_some hfound
    refine .lift_bind (fun _ _ => nofun) fun _ hcheck => ?_
    obtain rfl := of_checkReplay hcheck hscope hkey
    exact replayFact_sound hprepared hmem
  | none =>
    refine .look_bind (fun _ _ _ => nofun) fun rows₂ current hrows₂ hcurrent => ?_
    cases hcurrent
    refine .lift_bind (fun _ _ => nofun) fun version hversion => ?_
    refine .lift_bind (fun _ _ => nofun) fun _ hnext => ?_
    obtain ⟨hnonneg, hprior⟩ := of_requiredVersion hversion
    rw [raiseIf_eq_ok, not_not] at hnext
    rw [← hnext] at hnonneg hprior
    refine insertFact_sound hprepared hnonneg (hprior.imp_right ?_)
    rintro ⟨prior, hlatest, hsucc⟩
    obtain ⟨hmem, hkind, hvalue⟩ := latest_mem hlatest
    exact ⟨prior, hmem, hkind, hvalue, hsucc⟩

end

theorem optionalDigest_map (value : Option Digest) :
    optionalDigest (value.map digestHex) = .ok value := by
  cases value with
  | none => rfl
  | some d =>
    show (do return some (← orFail (digest (digestHex d)) _)) = _
    rw [digest_digestHex]
    rfl

/-- A record that was appended is read as it is. -/
theorem decodeAudit_auditRow (record : AuditRecord) :
    decodeAudit (auditRow record) = .ok record := by
  have hnew : AuditRecord.new record.toFields = .ok record := construct_of_ok record.accepted
  have hstrength : recordText "authentication_strength" (auditPayload record) =
      .ok record.authenticationStrength := rfl
  have hrequest : recordText "request_id" (auditPayload record) = .ok record.requestId := rfl
  have hsource : recordText "source" (auditPayload record) = .ok record.source := rfl
  have hschema : ¬ entryText "schema_version" (auditPayload record) ≠ some auditSchemaVersion :=
    not_not.mpr rfl
  have hsame : ¬ ¬ Alike (auditRow record).payload (auditPayload record) := not_not.mpr rfl
  simp only [decodeAudit, bind_eq_ok, exists_unit, pure_eq_ok]
  exact ⟨raiseIf_of_not hschema, _, hstrength, _, hrequest, _, optionalDigest_map _, _,
    optionalDigest_map _, _, hsource, record, hnew, raiseIf_of_not hsame, rfl⟩

theorem appendAudit_sound {J : List UowRow → UowRow → Prop} (record : AuditRecord)
    (hrow : ∀ rows, J rows (.audit (auditRow record))) (rows : List UowRow) :
    Sound J (Appended record) rows [] (appendAudit record) := by
  refine .look_bind (fun _ _ _ => nofun) fun rows₁ stored _ hstored => ?_
  cases hstored
  cases hfound : (auditEvents rows₁).find? (·.id = record.eventId) with
  | some row =>
    have hid := List.find?_some hfound
    have hmem := List.mem_of_find?_eq_some hfound
    obtain ⟨r, hr, hsome⟩ := List.mem_filterMap.mp hmem
    refine .lift_bind (fun _ _ => nofun) fun decoded hdecoded => ?_
    refine .lift_bind (fun _ _ => nofun) fun _ hsame => .done ?_
    rw [raiseIf_eq_ok, not_not] at hsame
    subst hsame
    rintro _ ⟨⟩
    cases r <;> cases hsome
    exact ⟨rfl, ⟨row, hr, of_decide_eq_true hid, hdecoded⟩, rfl⟩
  | none =>
    refine .add_bind (hrow rows₁) nofun fun rows₂ _ hadded => .done ?_
    rintro _ ⟨⟩
    exact ⟨rfl, ⟨_, hadded, rfl, decodeAudit_auditRow record⟩, rfl⟩

section
variable {F : Type} [VersionedFact F] [DecidableEq F] {codecs : String → Option (FactCodec F)}
  {rows rows' added : List UowRow}

theorem StoredCommand.mono {command : VersionedFactCommand F} {row : FactSnapshotRow}
    {stored : FactCommandRow} {fact : F} (hrows : rows ⊆ rows')
    (h : StoredCommand codecs command rows row stored fact) :
    StoredCommand codecs command rows' row stored fact :=
  { h with
    row_mem := hrows h.row_mem
    stored_mem := hrows h.stored_mem }

theorem Answered.mono {call : UowCall F} {result : Uow (UowResult F)} (hrows : rows ⊆ rows')
    (h : Answered codecs call rows added result) : Answered codecs call rows' added result := by
  cases call with
  | getFact key => exact h
  | listForObject objectKind objectId => exact h
  | commitFact command =>
    obtain ⟨inner, rfl, hinner⟩ := h
    refine ⟨inner, rfl, fun r hr => ?_⟩
    obtain ⟨row, stored, hstored, hadded⟩ := hinner r hr
    exact ⟨row, stored, hstored.mono hrows, hadded⟩
  | appendAudit record =>
    obtain ⟨inner, rfl, hinner⟩ := h
    refine ⟨inner, rfl, fun r hr => ?_⟩
    obtain ⟨hvalue, ⟨row, hrow, hread⟩, hadded⟩ := hinner r hr
    exact ⟨hvalue, ⟨row, hrows hrow, hread⟩, hadded⟩

theorem script_sound (call : UowCall F) (rows : List UowRow) :
    Sound (Justified codecs) (Answered codecs call) rows [] (script codecs call) := by
  cases call with
  | getFact key =>
    refine .bind (getFact_sound codecs key _ rows []) (fun _ _ _ h => h.2) ?_
    exact fun _ _ _ h => .done h.2
  | commitFact command =>
    refine .bind (commitFact_sound command rows) (fun _ _ e h => ⟨.error e, rfl, h⟩) ?_
    exact fun _ _ r h => .done ⟨.ok r, rfl, h⟩
  | appendAudit record =>
    refine .bind (appendAudit_sound record (fun _ => ⟨record, rfl⟩) rows)
      (fun _ _ e h => ⟨.error e, rfl, h⟩) ?_
    exact fun _ _ r h => .done ⟨.ok r, rfl, h⟩
  | listForObject objectKind objectId =>
    exact .look_bind (fun _ _ _ _ => rfl) fun _ _ _ _ => .done rfl

theorem lawful (codecs : String → Option (FactCodec F)) :
    Lawful (rules codecs) (Justified codecs) (Answered codecs) where
  grows := Justified.mono
  lasts := Answered.mono
  sound := script_sound

end

section
variable {F : Type} [VersionedFact F] [DecidableEq F] {codecs : String → Option (FactCodec F)}
  {codec : FactCodec F} {command : VersionedFactCommand F} {rows : List UowRow} {payload : Json}
  {payloadDigest digest : Digest}

/-- A new command with the version that is due is stored, where no row is in its way. -/
theorem run_commit (h : Prepared codecs command codec payload payloadDigest digest)
    (hnew : storedCommand rows command.idempotency = none)
    (hdue : requiredVersion codec command (latest rows command.key) =
      .ok (VersionedFact.version command.fact))
    (hfits : VersionedFact.version command.fact ≤ 9223372036854775807)
    (hcolumns : checkCommandRow (commandRow command payloadDigest digest) = .ok ())
    (hfree : ∀ row ∈ rows,
      ¬ UowRow.Clash (.snapshot (snapshotRow codec command payload payloadDigest)) row ∧
        ¬ UowRow.Clash (.command (commandRow command payloadDigest digest)) row) :
    (script codecs (.commitFact command)).run UowRow.Clash rows [] =
      ([.snapshot (snapshotRow codec command payload payloadDigest),
        .command (commandRow command payloadDigest digest)],
        .ok (.committed ⟨command.fact, false⟩)) := by
  simp only [script, commitFact, Script.bind_assoc]
  rw [Script.run_lift_bind h.codec_eq, Script.run_lift_bind (raiseIf_of_not (not_not.mpr h.id_eq)),
    Script.run_lift_bind h.payload_eq, Script.run_lift_bind h.payloadDigest_eq,
    Script.run_lift_bind h.digest_eq, Script.run_look_bind (b := none) (by rw [hnew])]
  simp only [insertFact, Script.bind_assoc]
  rw [Script.run_look_bind (b := latest rows command.key) rfl, Script.run_lift_bind hdue,
    Script.run_lift_bind (raiseIf_of_not (not_not.mpr rfl)),
    Script.run_lift_bind (raiseIf_of_not (not_lt.mpr hfits)),
    Script.run_add_bind fun row hrow => (hfree row hrow).1, Script.run_lift_bind hcolumns,
    Script.run_add_bind fun row hrow => ?_]
  · rfl
  · rcases List.mem_append.mp hrow with hold | hsnapshot
    · exact (hfree row hold).2
    · rw [List.mem_singleton] at hsnapshot
      subst hsnapshot
      exact id

end

/-- The smallest fact: an id and a version. -/
structure Draft where
  id : String
  version : ℤ
  deriving DecidableEq

instance : VersionedFact Draft := ⟨Draft.id, Draft.version⟩

def draftCodec : FactCodec Draft where
  schemaVersion := "draft.v1"
  encode draft := .dict [("id", .str draft.id), ("version", .int draft.version)]
  decode
    | .dict [(.text "id", .str (.text id)), (.text "version", .int version)] => some ⟨id, version⟩
    | _ => none

def draftCodecs (kind : String) : Option (FactCodec Draft) :=
  if kind = "draft" then some draftCodec else none

def draftKey : FactKey := ⟨⟨"draft", "draft-1"⟩, by decide⟩

def createDraft : VersionedFactCommand Draft :=
  ⟨⟨draftKey, none, ⟨"draft-1", 0⟩, ⟨"drafts", "create-1", Digest.zero, 201, "draft-1"⟩⟩, by decide⟩

/-- The draft as it is edited. -/
def updateDraft : VersionedFactCommand Draft :=
  ⟨⟨draftKey, some 0, ⟨"draft-1", 1⟩, ⟨"drafts", "update-1", Digest.zero, 200, "draft-1"⟩⟩, by decide⟩

abbrev DraftStore := Store ℕ (UowCall Draft) UowRow UowError (UowResult Draft)

theorem exists_prepared {command : VersionedFactCommand Draft}
    (h : command = createDraft ∨ command = updateDraft) :
    ∃ payload payloadDigest digest,
      Prepared draftCodecs command draftCodec payload payloadDigest digest := by
  obtain ⟨payloadDigest, hpayload⟩ :
      ∃ d, canonicalDigest draftCodec.schemaVersion (draftCodec.encode command.fact) = .ok d := by
    rcases h with rfl | rfl <;> exact canonicalDigest_of_valid rfl
  obtain ⟨digest, hdigest⟩ : ∃ d, commandDigest command payloadDigest = .ok d := by
    simp only [commandDigest, domain_eq_ok]
    rcases h with rfl | rfl <;> exact canonicalDigest_of_valid rfl
  refine ⟨draftCodec.encode command.fact, payloadDigest, digest, ?_, ?_, ?_,
    domain_eq_ok.mpr hpayload, hdigest⟩
  · rcases h with rfl | rfl <;> rfl
  · rcases h with rfl | rfl <;> rfl
  · simp only [codecPayload, bind_eq_ok, exists_unit, need_eq_ok, pure_eq_ok]
    refine ⟨raiseIf_of_not (by simp [draftCodec, isObject]), command.fact, ?_, raiseIf_of_not ?_,
      ⟨_, domain_eq_ok.mpr hpayload, trivial⟩⟩
    · rfl
    · exact not_not.mpr rfl

/-- One unit of work creates a draft and commits, and a second one edits it. -/
theorem exists_updated : ∃ (s : DraftStore) (first second : List UowRow),
    Reachable (rules draftCodecs) s ∧ s.order = [0, 1] ∧ (∀ u ∉ s.order, s.txs u = {}) ∧
    (s.txs 0).answers =
      [⟨.commitFact createDraft, first, .ok (.committed ⟨⟨"draft-1", 0⟩, false⟩)⟩] ∧
    (s.txs 1).answers =
      [⟨.commitFact updateDraft, second, .ok (.committed ⟨⟨"draft-1", 1⟩, false⟩)⟩] := by
  obtain ⟨payload, payloadDigest, digest, hcreate⟩ := exists_prepared (Or.inl rfl)
  obtain ⟨payload', payloadDigest', digest', hupdate⟩ := exists_prepared (Or.inr rfl)
  have hrun : ((rules draftCodecs).script (.commitFact createDraft)).run (rules draftCodecs).clash
      ({} : DraftStore).committed [] = _ := run_commit hcreate rfl rfl (by decide) rfl nofun
  obtain ⟨s, hs, horder, hidle, -, hfirst, hrows⟩ := Inv.commit_alone (R := rules draftCodecs)
    (s := ({} : DraftStore)) (t := 0) (fun _ _ => rfl) List.not_mem_nil hrun
  have hreads := decodeFact_snapshotRow hcreate.id_eq hcreate.payload_eq hcreate.payloadDigest_eq
  change s.committed = [_, _] at hrows
  have hlatest : latest s.committed draftKey =
      some (snapshotRow draftCodec createDraft payload payloadDigest) := by
    rw [hrows]
    rfl
  have hdue : requiredVersion draftCodec updateDraft (latest s.committed draftKey) = .ok 1 := by
    rw [hlatest, requiredVersion, then_eq_ok]
    refine ⟨whenSome_eq_ok.mpr fun row hrow => ?_, rfl⟩
    obtain rfl := Option.some.inj hrow
    exact bind_eq_ok.mpr ⟨_, hreads, rfl⟩
  have hrun' : ((rules draftCodecs).script (.commitFact updateDraft)).run (rules draftCodecs).clash
      s.committed [] = ([.snapshot (snapshotRow draftCodec updateDraft payload' payloadDigest'),
        .command (commandRow updateDraft payloadDigest' digest')],
        .ok (.committed ⟨⟨"draft-1", 1⟩, false⟩)) := by
    refine run_commit hupdate (by rw [hrows]; rfl) hdue (by decide) rfl ?_
    rw [hrows, List.forall_mem_cons, List.forall_mem_singleton]
    refine ⟨⟨?_, id⟩, id, ?_⟩
    · rintro ⟨-, -, hversion⟩
      cases hversion
    · rintro ⟨-, hkey⟩
      exact absurd (show "update-1" = "create-1" from hkey) (by decide)
  obtain ⟨s', hs', horder', hidle', hkept, hsecond, -⟩ := Inv.commit_alone
    (R := rules draftCodecs) (t := 1) hidle (by simp [horder]) hrun'
  refine ⟨s', _, _, hs.trans hs', by simp [horder', horder], hidle',
    (congrArg Tx.answers (hkept 0 (by simp [horder]))).trans hfirst, hsecond⟩

/-- One unit of work creates a draft and commits. -/
theorem exists_created : ∃ (s : DraftStore) (added : List UowRow), Reachable (rules draftCodecs) s ∧
    s.order = [0] ∧ (∀ u ≠ 0, s.txs u = {}) ∧ (s.txs 0).answers[0]? =
      some ⟨.commitFact createDraft, added, .ok (.committed ⟨⟨"draft-1", 0⟩, false⟩)⟩ := by
  obtain ⟨added, hrun⟩ : ∃ added, ((rules draftCodecs).script (.commitFact createDraft)).run
      UowRow.Clash [] [] = (added, .ok (.committed ⟨⟨"draft-1", 0⟩, false⟩)) := ⟨_, rfl⟩
  have halone : ∀ u ≠ 0, ({} : DraftStore).Live u → (({} : DraftStore).txs u).rows ⊆ [] :=
    fun _ _ _ => List.Subset.refl _
  have hcall := Inv.call_alone (R := rules draftCodecs) (s := ({} : DraftStore)) (t := 0)
    List.not_mem_nil halone rfl hrun
  refine ⟨_, added, hcall.tail (.commit 0 rfl), rfl, fun u hu => ?_, rfl⟩
  show (((({} : DraftStore).set 0 _).enter 0 _).txs u) = {}
  rw [Store.enter, Store.set_of_ne hu, Store.set_of_ne hu]

section
variable {F : Type} [VersionedFact F] [DecidableEq F] {codecs : String → Option (FactCodec F)}
  {rows rows' added : List UowRow}

variable {τ : Type} [DecidableEq τ] {s s' : Store τ (UowCall F) UowRow UowError (UowResult F)}
  {t u : τ} {key : FactKey} {codec : FactCodec F}

theorem inv_of_reachable (h : Reachable (rules codecs) s) :
    Inv (rules codecs) (Justified codecs) (Answered codecs) s := .of_reachable (lawful codecs) h

/-- The versions of a key in their order, each read back. -/
def history (codec : FactCodec F) (key : FactKey) (rows : List UowRow) : Uow (List F) :=
  collect (Sorting.sortOn (·.version) (snapshots rows key)) (decodeFact key codec)

/-- The stored versions of a key count up from zero. -/
theorem numbered_versions (h : Closed (rules codecs) (Justified codecs) rows) (key : FactKey) :
    NumberedLog.Numbered (fun row : FactSnapshotRow => row.version + 1) (fun row => row.version + 1)
      (Sorting.sortOn (·.version) (snapshots rows key)) := by
  have hrows : (snapshots rows key).Pairwise fun a b => a.version ≠ b.version := by
    rw [snapshots, List.pairwise_filter, List.pairwise_filterMap]
    refine h.apart.imp fun {p q} hpq a ha b hb hakey hbkey hversion => hpq ?_
    cases p <;> cases ha
    cases q <;> cases hb
    simp only [decide_eq_true_eq] at hakey hbkey
    exact ⟨hakey.1.trans hbkey.1.symm, hakey.2.trans hbkey.2.symm, hversion⟩
  apply NumberedLog.numbered_sortOn
  · intro a b hab
    omega
  · refine List.pairwise_map.mpr (hrows.imp fun hne hsame => hne ?_)
    omega
  · intro row hrow
    obtain ⟨-, hnonneg, -⟩ := h.justified _ (mem_snapshots.mp hrow).1
    omega
  · intro row hrow hne
    obtain ⟨hmem, hkind, hkey⟩ := mem_snapshots.mp hrow
    obtain ⟨-, -, hzero | ⟨prior, hprior, hpkind, hpkey, hsucc⟩⟩ := h.justified _ hmem
    · omega
    · refine ⟨prior, mem_snapshots.mpr ⟨hprior, hpkind.trans hkind, hpkey.trans hkey⟩, ?_⟩
      omega

theorem mem_sorted_versions {row : FactSnapshotRow} :
    row ∈ Sorting.sortOn (·.version) (snapshots rows key) ↔
      UowRow.snapshot row ∈ rows ∧ row.factKind = key.kind ∧ row.factKey = key.value :=
  Sorting.mem_sortOn.trans mem_snapshots

/-- A stored row of a key of a registered kind reads back. -/
theorem readsAs_of_mem (h : Closed (rules codecs) (Justified codecs) rows)
    {row : FactSnapshotRow} (hmem : UowRow.snapshot row ∈ rows) (hkind : row.factKind = key.kind)
    (hkey : row.factKey = key.value) : ∃ fact, ReadsAs codecs key row fact := by
  obtain ⟨⟨key', fact, hreads⟩, -⟩ := h.justified _ hmem
  obtain ⟨codec, hcodec, hdecoded⟩ := hreads.decoded
  obtain ⟨⟨kind, value⟩, _⟩ := key
  obtain ⟨⟨kind', value'⟩, _⟩ := key'
  obtain rfl : kind' = kind := hreads.kind_eq.symm.trans hkind
  obtain rfl : value' = value := hreads.key_eq.symm.trans hkey
  exact ⟨fact, hreads⟩

/-- The history is of the key, its versions are their places, and the latest version is its last. -/
structure IsHistory (codecs : String → Option (FactCodec F)) (codec : FactCodec F) (key : FactKey)
    (rows : List UowRow) (facts : List F) : Prop where
  history_eq : history codec key rows = .ok facts
  places : ∀ (i : ℕ) fact, facts[i]? = some fact → VersionedFact.id fact = key.value ∧
    VersionedFact.version fact = i
  latest_eq : readLatest codec key rows = .ok facts.getLast?
  stored : ∀ fact ∈ facts, ∃ row, .snapshot row ∈ rows ∧ ReadsAs codecs key row fact
  all : ∀ row fact, .snapshot row ∈ rows → ReadsAs codecs key row fact → fact ∈ facts

theorem exists_history (h : Closed (rules codecs) (Justified codecs) rows)
    (hcodec : codecOf codecs key.kind = .ok codec) :
    ∃ facts, IsHistory codecs codec key rows facts := by
  have hnumbered := numbered_versions h key
  have hmem : ∀ {row}, row ∈ Sorting.sortOn (·.version) (snapshots rows key) ↔
      UowRow.snapshot row ∈ rows ∧ row.factKind = key.kind ∧ row.factKey = key.value :=
    mem_sorted_versions
  have hlatest : latest rows key =
      (Sorting.sortOn (·.version) (snapshots rows key)).getLast? := rfl
  have hhistory : ∀ facts, history codec key rows = .ok facts ↔
      List.Forall₂ (fun row fact => decodeFact key codec row = .ok fact)
        (Sorting.sortOn (·.version) (snapshots rows key)) facts := fun facts => collect_eq_ok
  generalize Sorting.sortOn (·.version) (snapshots rows key) = sorted at *
  obtain ⟨facts, hfacts⟩ : ∃ facts,
      List.Forall₂ (fun row fact => decodeFact key codec row = .ok fact) sorted facts := by
    apply exists_forall₂
    intro row hrow
    obtain ⟨hstored, hkind, hkey⟩ := hmem.mp hrow
    obtain ⟨fact, hreads⟩ := readsAs_of_mem h hstored hkind hkey
    exact ⟨fact, hreads.decodeFact_eq hcodec⟩
  refine ⟨facts, (hhistory facts).mpr hfacts, ?_, ?_, ?_, ?_⟩
  · intro i fact hfact
    obtain ⟨hi, rfl⟩ := List.getElem?_eq_some_iff.mp hfact
    have hlength := hfacts.length_eq
    have hdecoded := hfacts.get (i := i) (by omega) hi
    obtain ⟨hid, hversion⟩ := of_decodeFact hdecoded
    have hplace := hnumbered.counts i (by omega)
    refine ⟨hid, hversion.trans ?_⟩
    simp only [List.get_eq_getElem]
    omega
  · unfold readLatest
    rw [hlatest]
    cases hlast : sorted.getLast? with
    | none =>
      rw [List.getLast?_eq_none_iff.mp hlast] at hfacts
      cases hfacts
      rfl
    | some last =>
      obtain ⟨init, rfl⟩ := List.getLast?_eq_some_iff.mp hlast
      obtain ⟨first, rest, -, hrest, rfl⟩ := forall₂_append_left hfacts
      cases hrest with
      | cons hfact hnil =>
        cases hnil
        simp only [hfact, ok_bind, List.getLast?_concat]
        rfl
  · intro fact hfact
    obtain ⟨row, hrow, hdecoded⟩ := exists_of_mem_right hfacts fact hfact
    obtain ⟨hstored, hkind, hkey⟩ := hmem.mp hrow
    exact ⟨row, hstored, hkind, hkey, codec, hcodec, hdecoded⟩
  · intro row fact hrow hreads
    obtain ⟨fact', hfact', hdecoded⟩ :=
      exists_of_mem_left hfacts row (hmem.mpr ⟨hrow, hreads.kind_eq, hreads.key_eq⟩)
    rw [hreads.decodeFact_eq hcodec] at hdecoded
    cases hdecoded
    exact hfact'

omit [DecidableEq F] in
/-- As rows are added, a history only grows at its end. -/
theorem IsHistory.isPrefix {facts later : List F} (h : IsHistory codecs codec key rows facts)
    (h' : IsHistory codecs codec key rows' later) (hrows : rows ⊆ rows') : facts <+: later := by
  rw [List.prefix_iff_getElem?]
  intro i hi
  obtain ⟨row, hrow, hreads⟩ := h.stored facts[i] (List.getElem_mem hi)
  obtain ⟨j, hj, hji⟩ := List.mem_iff_getElem.mp (h'.all row _ (hrows hrow) hreads)
  have hplace := (h.places i _ (List.getElem?_eq_getElem hi)).2
  have hplace' := (h'.places j _ (List.getElem?_eq_getElem hj)).2
  rw [hji, hplace] at hplace'
  obtain rfl : i = j := Int.ofNat_inj.mp hplace'
  rw [List.getElem?_eq_getElem hj, hji]

/-- What an accepted call adds: nothing, a version with its command, or an audit record. -/
inductive Adds (codecs : String → Option (FactCodec F)) (rows : List UowRow) :
    UowCall F → List UowRow → Uow (UowResult F) → Prop
  | nothing (call result) : Adds codecs rows call [] result
  | fact {command row stored} (h : StoredCommand codecs command rows row stored command.fact) :
    Adds codecs rows (.commitFact command) [.snapshot row, .command stored]
      (.ok (.committed ⟨command.fact, false⟩))
  | audit (record) : Adds codecs rows (.appendAudit record) [.audit (auditRow record)]
      (.ok (.appended ⟨record, false⟩))

theorem Answered.adds {call : UowCall F} {result : Uow (UowResult F)}
    (h : Answered codecs call rows added result)
    (hclean : aborts call = true → ∃ v, result = .ok v) : Adds codecs rows call added result := by
  cases call with
  | getFact key =>
    obtain rfl : added = [] := h
    exact .nothing _ _
  | listForObject objectKind objectId =>
    obtain rfl : added = [] := h
    exact .nothing _ _
  | commitFact command =>
    obtain ⟨v, rfl⟩ := hclean rfl
    obtain ⟨inner, hinner, hcommitted⟩ := h
    cases inner with
    | error e => cases hinner
    | ok r =>
      cases hinner
      obtain ⟨row, stored, hstored, hr⟩ := hcommitted r rfl
      obtain ⟨fact, replayed⟩ := r
      cases replayed with
      | true =>
        obtain rfl : added = [] := hr
        exact .nothing _ _
      | false =>
        obtain ⟨rfl, rfl⟩ : added = [.snapshot row, .command stored] ∧ fact = command.fact := hr
        exact .fact hstored
  | appendAudit record =>
    obtain ⟨v, rfl⟩ := hclean rfl
    obtain ⟨inner, hinner, happended⟩ := h
    cases inner with
    | error e => cases hinner
    | ok r =>
      cases hinner
      obtain ⟨hvalue, -, hr⟩ := happended r rfl
      obtain ⟨value, replayed⟩ := r
      obtain rfl : value = record := hvalue
      cases replayed with
      | true =>
        obtain rfl : added = [] := hr
        exact .nothing _ _
      | false =>
        obtain rfl : added = [.audit (auditRow value)] := hr
        exact .audit _

omit [DecidableEq τ] in
theorem exists_adds (hs : Inv (rules codecs) (Justified codecs) (Answered codecs) s) {row : UowRow}
    (hrow : row ∈ s.committed) : ∃ t ∈ s.order, ∃ a ∈ (s.txs t).answers, row ∈ a.added ∧
      Adds codecs s.committed a.call a.added a.result := by
  obtain ⟨t, ht, a, ha, hadded⟩ := hs.exists_answer hrow
  exact ⟨t, ht, a, ha, hadded,
    (hs.answer_committed (lawful codecs) ht ha).adds (hs.clean_committed ht a ha)⟩

omit [DecidableEq τ] in
/-- A version that is stored was committed by a command that was answered with it. -/
theorem exists_commit (hs : Inv (rules codecs) (Justified codecs) (Answered codecs) s)
    {row : FactSnapshotRow} (hrow : UowRow.snapshot row ∈ s.committed) :
    ∃ t ∈ s.order, ∃ a ∈ (s.txs t).answers, ∃ command, a.call = .commitFact command ∧
      a.result = .ok (.committed ⟨command.fact, false⟩) ∧
      ReadsAs codecs command.key row command.fact := by
  obtain ⟨t, ht, a, ha, hadded, hadds⟩ := exists_adds hs hrow
  refine ⟨t, ht, a, ha, ?_⟩
  obtain ⟨call, added, result⟩ := a
  cases hadds with
  | nothing => cases hadded
  | audit record => simp at hadded
  | @fact command row' stored hstored =>
    obtain rfl : row = row' := by simpa using hadded
    exact ⟨command, rfl, rfl, hstored.reads⟩

omit [DecidableEq τ] in
/-- What a committed commit was answered with is stored under its idempotency key. -/
theorem stored_of_answer (hs : Inv (rules codecs) (Justified codecs) (Answered codecs) s)
    (ht : t ∈ s.order) {i : ℕ} {command : VersionedFactCommand F} {result : FactCommitResult F}
    (ha : (s.txs t).answers[i]? = some ⟨.commitFact command, added, .ok (.committed result)⟩) :
    ∃ row stored, StoredCommand codecs command s.committed row stored result.fact ∧
      (result.replayed = false → added = [.snapshot row, .command stored]) := by
  obtain ⟨inner, hinner, hcommitted⟩ :=
    hs.answer_committed (lawful codecs) ht (List.mem_of_getElem? ha)
  cases inner with
  | error e => cases hinner
  | ok r =>
    cases hinner
    obtain ⟨row, stored, hstored, hadded⟩ := hcommitted _ rfl
    refine ⟨row, stored, hstored, fun hnew => ?_⟩
    obtain ⟨fact, replayed⟩ := result
    subst hnew
    exact hadded.1

/-- However the statements of any units of work interleave: every one of them that is open sees the
versions of a key count up from zero without a gap and reads the latest, the committed versions are
the facts of commands that were answered with them, and later ones are added behind them. -/
theorem fact_history (h : Reachable (rules codecs) s)
    (hcodec : codecOf codecs key.kind = .ok codec) :
    (∀ t ∉ s.order, s.Live t → ∃ facts, IsHistory codecs codec key (s.view t) facts) ∧
    ∃ facts, IsHistory codecs codec key s.committed facts ∧
      (∀ fact ∈ facts, ∃ t ∈ s.order, ∃ a ∈ (s.txs t).answers, ∃ command,
        a.call = .commitFact command ∧ command.key = key ∧ command.fact = fact ∧
        a.result = .ok (.committed ⟨fact, false⟩)) ∧
      ∀ s', Relation.ReflTransGen (Step (rules codecs)) s s' →
        ∃ later, IsHistory codecs codec key s'.committed later ∧ facts <+: later := by
  have hs := inv_of_reachable h
  have hlaw := lawful codecs
  obtain ⟨facts, hfacts⟩ := exists_history (hs.closed_committed hlaw) hcodec
  refine ⟨fun t ht hlive => exists_history (hs.closed_view hlaw ht hlive) hcodec, facts, hfacts,
    fun fact hfact => ?_, fun s' hrun => ?_⟩
  · obtain ⟨row, hrow, hreads⟩ := hfacts.stored fact hfact
    obtain ⟨t, ht, a, ha, command, hcall, hresult, hreads'⟩ := exists_commit hs hrow
    have hfacteq := hreads'.fact_inj hreads
    rw [hfacteq] at hresult
    exact ⟨t, ht, a, ha, command, hcall, hreads'.key_inj hreads, hfacteq, hresult⟩
  · obtain ⟨-, hs'⟩ := hs.run_frame hlaw hrun
    obtain ⟨later, hlater⟩ := exists_history (hs'.closed_committed hlaw) hcodec
    exact ⟨later, hlater, hfacts.isPrefix hlater (hs.committed_prefix hlaw hrun).subset⟩

/-- The draft is read back as it was created and as it was edited. -/
theorem fact_history_draft : ∃ s : DraftStore, s.order = [0, 1] ∧
    IsHistory draftCodecs draftCodec draftKey s.committed [⟨"draft-1", 0⟩, ⟨"draft-1", 1⟩] := by
  obtain ⟨s, _, _, hs, horder, -, hfirst, hsecond⟩ := exists_updated
  have hcodec : codecOf draftCodecs draftKey.kind = .ok draftCodec := rfl
  obtain ⟨-, facts, hfacts, hfrom, -⟩ := fact_history hs hcodec
  obtain ⟨row, _, hstored, -⟩ :=
    stored_of_answer (inv_of_reachable hs) (t := 1) (i := 0) (by simp [horder]) (by rw [hsecond]; rfl)
  have hedited := hfacts.all row _ hstored.row_mem hstored.reads
  have hnamed : ∀ fact ∈ facts, fact = ⟨"draft-1", 0⟩ ∨ fact = ⟨"draft-1", 1⟩ := by
    intro fact hfact
    obtain ⟨t, ht, a, ha, _, -, -, -, hresult⟩ := hfrom fact hfact
    rw [horder] at ht
    rcases List.mem_pair.mp ht with rfl | rfl
    · rw [hfirst, List.mem_singleton] at ha
      rw [ha] at hresult
      cases hresult
      exact Or.inl rfl
    · rw [hsecond, List.mem_singleton] at ha
      rw [ha] at hresult
      cases hresult
      exact Or.inr rfl
  have hplaced : ∀ i fact, facts[i]? = some fact → fact = ⟨"draft-1", i⟩ ∧ i < 2 := by
    intro i fact hi
    have hversion := (hfacts.places i fact hi).2
    rcases hnamed fact (List.mem_of_getElem? hi) with rfl | rfl
    · obtain rfl : i = 0 := Int.ofNat_inj.mp hversion.symm
      exact ⟨rfl, by decide⟩
    · obtain rfl : i = 1 := Int.ofNat_inj.mp hversion.symm
      exact ⟨rfl, by decide⟩
  refine ⟨s, horder, ?_⟩
  rcases facts with _ | ⟨f, _ | ⟨g, _ | ⟨h, rest⟩⟩⟩
  · cases hedited
  · rw [List.mem_singleton, (hplaced 0 f rfl).1] at hedited
    cases hedited
  · rw [(hplaced 0 f rfl).1, (hplaced 1 g rfl).1] at hfacts
    exact hfacts
  · exact absurd (hplaced 2 h rfl).2 (by decide)

/-- The rows that make up a stored command are the ones a replay finds. -/
theorem found_again {stored : FactCommandRow} {row : FactSnapshotRow} {fact : F}
    {command : VersionedFactCommand F} (hclosed : Closed (rules codecs) (Justified codecs) rows)
    (h : StoredCommand codecs command rows row stored fact) :
    storedCommand rows command.idempotency = some stored ∧
      (snapshots rows command.key).find? (·.version = VersionedFact.version command.fact) =
        some row := by
  obtain ⟨⟨hscope, hkey⟩, -⟩ := h.fields
  constructor
  · cases hfound : storedCommand rows command.idempotency with
    | none =>
      have hmem : stored ∈ rows.filterMap UowRow.command? :=
        List.mem_filterMap.mpr ⟨_, h.stored_mem, rfl⟩
      have hother := List.find?_eq_none.mp hfound stored hmem
      exact absurd (decide_eq_true ⟨hscope, hkey⟩) hother
    | some other =>
      obtain ⟨hmem, hscope', hkey'⟩ := storedCommand_some hfound
      have hsame := hclosed.eq_of_clash hmem h.stored_mem
        ⟨hscope'.trans hscope.symm, hkey'.trans hkey.symm⟩
      rw [UowRow.command.injEq] at hsame
      rw [hsame]
  · have hrow := mem_snapshots.mpr ⟨h.row_mem, h.reads.kind_eq, h.reads.key_eq⟩
    cases hfound : (snapshots rows command.key).find?
        (·.version = VersionedFact.version command.fact) with
    | none =>
      have hother := List.find?_eq_none.mp hfound row hrow
      exact absurd (decide_eq_true h.version) hother
    | some other =>
      obtain ⟨hmem, hkind, hvalue⟩ := mem_snapshots.mp (List.mem_of_find?_eq_some hfound)
      have hfoundAt := List.find?_some hfound
      have hversion := of_decide_eq_true hfoundAt
      have hsame := hclosed.eq_of_clash hmem h.row_mem ⟨hkind.trans h.reads.kind_eq.symm,
        hvalue.trans h.reads.key_eq.symm, hversion.trans h.version.symm⟩
      rw [UowRow.snapshot.injEq] at hsame
      rw [hsame]

/-- The key has not gone back behind a stored version. -/
theorem latest_not_older {stored : FactCommandRow} {row : FactSnapshotRow} {fact : F}
    {command : VersionedFactCommand F} (hclosed : Closed (rules codecs) (Justified codecs) rows)
    (h : StoredCommand codecs command rows row stored fact)
    (hcodec : codecOf codecs command.key.kind = .ok codec) :
    ∃ last, readLatest codec command.key rows = .ok (some last) ∧
      VersionedFact.version command.fact ≤ VersionedFact.version last := by
  obtain ⟨facts, hfacts⟩ := exists_history hclosed hcodec
  have hmem := hfacts.all row fact h.row_mem h.reads
  obtain ⟨init, last, rfl⟩ :=
    (List.eq_nil_or_concat' facts).resolve_left (List.ne_nil_of_mem hmem)
  refine ⟨last, by rw [hfacts.latest_eq, List.getLast?_concat], ?_⟩
  obtain ⟨i, hi, hplace⟩ := List.mem_iff_getElem.mp hmem
  have hversion := (hfacts.places i fact (by rw [List.getElem?_eq_getElem hi, hplace])).2
  have hlast := (hfacts.places init.length last (by simp)).2
  have hread := (of_decodeFact (h.reads.decodeFact_eq hcodec)).2
  have hrow := h.version
  rw [List.length_append, List.length_singleton] at hi
  omega

/-- Wherever the rows of a stored command are, a repetition of the command only looks, and is
answered with its fact. -/
theorem reads_replay {stored : FactCommandRow} {row : FactSnapshotRow} {fact : F}
    {command : VersionedFactCommand F} (h : StoredCommand codecs command rows row stored fact) :
    Reads (fun rows' => Closed (rules codecs) (Justified codecs) rows' ∧ rows ⊆ rows')
      (.ok (.committed ⟨fact, true⟩)) (script codecs (.commitFact command)) := by
  obtain ⟨codec, payload, payloadDigest, digest, hprepared, rfl⟩ := h.stored_eq
  have hcheck : checkReplay command payloadDigest digest
      (commandRow command payloadDigest digest) = .ok () := by
    simp [checkReplay, commandRow, whenever, raiseIf, ok_bind]
  simp only [script, commitFact, Script.bind_assoc]
  refine .lift_bind hprepared.codec_eq ?_
  refine .lift_bind (raiseIf_of_not (not_not.mpr hprepared.id_eq)) ?_
  refine .lift_bind hprepared.payload_eq ?_
  refine .lift_bind hprepared.payloadDigest_eq ?_
  refine .lift_bind hprepared.digest_eq ?_
  refine .look_bind fun rows' hrows' => ?_
  obtain ⟨hstored, -⟩ := found_again hrows'.1 (h.mono hrows'.2)
  refine ⟨_, by rw [hstored], ?_⟩
  simp only [replayFact, getFact, Script.bind_assoc]
  refine .lift_bind hcheck (.lift_bind hprepared.codec_eq (.look_bind fun rows' hrows' => ?_))
  obtain ⟨last, hlatest, hle⟩ := latest_not_older hrows'.1 (h.mono hrows'.2) hprepared.codec_eq
  refine ⟨_, hlatest, .lift_bind (raiseIf_of_not (not_not.mpr ⟨last, rfl, hle⟩)) ?_⟩
  refine .look_bind fun rows' hrows' => ?_
  obtain ⟨-, hhistorical⟩ := found_again hrows'.1 (h.mono hrows'.2)
  refine ⟨row, by rw [hhistorical]; rfl, .lift_bind (h.reads.decodeFact_eq hprepared.codec_eq) ?_⟩
  exact .done

/-- A second unit of work repeats the command of the first. -/
theorem exists_repeated : ∃ (s : DraftStore) (added : List UowRow),
    Reachable (rules draftCodecs) s ∧ s.order = [0, 1] ∧ (s.txs 0).answers[0]? =
      some ⟨.commitFact createDraft, added, .ok (.committed ⟨⟨"draft-1", 0⟩, false⟩)⟩ ∧
    (s.txs 1).answers[0]? =
      some ⟨.commitFact createDraft, [], .ok (.committed ⟨⟨"draft-1", 0⟩, true⟩)⟩ := by
  obtain ⟨s, added, hs, horder, hothers, hanswer⟩ := exists_created
  have hinv := inv_of_reachable hs
  have hnew : 1 ∉ s.order := by simp [horder]
  have htx : s.txs 1 = {} := hothers 1 (by decide)
  have hlive : s.Live 1 := by
    rw [Store.Live, htx]
    rintro ⟨⟩
  obtain ⟨row, stored, hstored, -⟩ := stored_of_answer hinv (by simp [horder]) hanswer
  have hrun : ((rules draftCodecs).script (.commitFact createDraft)).run UowRow.Clash
      (s.view 1) [] = ([], .ok (.committed ⟨⟨"draft-1", 0⟩, true⟩)) :=
    (reads_replay hstored).run_eq
      ⟨hinv.closed_view (lawful draftCodecs) hnew hlive, List.subset_append_left _ _⟩ []
  have halone : ∀ u ≠ 1, s.Live u → (s.txs u).rows ⊆ s.committed := by
    intro u hu _
    by_cases hzero : u = 0
    · exact Store.rows_of_committed (by simp [horder, hzero])
    · rw [hothers u hzero]
      exact List.nil_subset _
  have hcall := Inv.call_alone (R := rules draftCodecs) hnew halone (by rw [htx]) hrun
  refine ⟨_, added, (hs.trans hcall).tail (.commit 1 (by rw [Store.set_self]; rfl)), ?_, ?_, ?_⟩
  · simp [horder]
  · simp only [Store.enter, Store.set_of_ne (show (0 : ℕ) ≠ 1 by decide), hanswer]
  · simp only [Store.enter, Store.set_self, htx]
    rfl

/-- However the statements interleave, committed units of work agree on what was committed: under
one idempotency key one request with one fact, at one version of a key one fact, and of the commits
that were not replays at most one of each. -/
theorem commit_once (h : Reachable (rules codecs) s) (ht : t ∈ s.order) (hu : u ∈ s.order)
    {i j : ℕ} {c d : VersionedFactCommand F} {p q : FactCommitResult F} {added added' : List UowRow}
    (ha : (s.txs t).answers[i]? = some ⟨.commitFact c, added, .ok (.committed p)⟩)
    (hb : (s.txs u).answers[j]? = some ⟨.commitFact d, added', .ok (.committed q)⟩) :
    (c.idempotency.scope = d.idempotency.scope → c.idempotency.key = d.idempotency.key →
      c.idempotency.requestDigest = d.idempotency.requestDigest ∧ c.key = d.key ∧
        p.fact = q.fact ∧ (p.replayed = false → q.replayed = false → t = u ∧ i = j)) ∧
    (c.key = d.key → VersionedFact.version c.fact = VersionedFact.version d.fact →
      p.fact = q.fact ∧ (p.replayed = false → q.replayed = false → t = u ∧ i = j)) := by
  have hs := inv_of_reachable h
  have hclosed := hs.closed_committed (lawful codecs)
  obtain ⟨row, stored, hstored, hadded⟩ := stored_of_answer hs ht ha
  obtain ⟨row', stored', hstored', hadded'⟩ := stored_of_answer hs hu hb
  have hfact : UowRow.Clash (.snapshot row) (.snapshot row') → p.fact = q.fact := by
    intro hclash
    have hsame := hclosed.eq_of_clash hstored.row_mem hstored'.row_mem hclash
    rw [UowRow.snapshot.injEq] at hsame
    subst hsame
    exact hstored.reads.fact_inj hstored'.reads
  obtain ⟨hkeys, hrequest, hkind, hvalue, hversion⟩ := hstored.fields
  obtain ⟨hkeys', hrequest', hkind', hvalue', hversion'⟩ := hstored'.fields
  refine ⟨fun hscope hkey => ?_, fun hkey hversion => ?_⟩
  · have hclash : UowRow.Clash (.command stored) (.command stored') :=
      ⟨by rw [hkeys.1, hkeys'.1, hscope], by rw [hkeys.2, hkeys'.2, hkey]⟩
    have hsame := hclosed.eq_of_clash hstored.stored_mem hstored'.stored_mem hclash
    rw [UowRow.command.injEq] at hsame
    subst hsame
    have hrow := hclosed.eq_of_clash hstored.row_mem hstored'.row_mem
      ⟨hkind.symm.trans hkind', hvalue.symm.trans hvalue', hversion.symm.trans hversion'⟩
    rw [UowRow.snapshot.injEq] at hrow
    subst hrow
    refine ⟨digestHex_inj (hrequest.symm.trans hrequest'),
      hstored.reads.key_inj hstored'.reads, hstored.reads.fact_inj hstored'.reads,
      fun hp hq => ?_⟩
    rw [hadded hp] at ha
    rw [hadded' hq] at hb
    exact hs.answer_eq ht hu ha hb (p := .command stored) (q := .command stored) (by simp)
      (by simp) hclash
  · have hclash : UowRow.Clash (.snapshot row) (.snapshot row') :=
      ⟨by rw [hstored.reads.kind_eq, hstored'.reads.kind_eq, hkey],
        by rw [hstored.reads.key_eq, hstored'.reads.key_eq, hkey],
        by rw [hstored.version, hstored'.version, hversion]⟩
    refine ⟨hfact hclash, fun hp hq => ?_⟩
    rw [hadded hp] at ha
    rw [hadded' hq] at hb
    exact hs.answer_eq ht hu ha hb (p := .snapshot row) (q := .snapshot row') (by simp) (by simp)
      hclash

theorem commit_once_repeated : ∃ (s : DraftStore) (fact : Draft), s.order = [0, 1] ∧
    (∃ a ∈ (s.txs 1).answers, a.call = .commitFact createDraft ∧
      a.result = .ok (.committed ⟨fact, true⟩)) ∧ fact = ⟨"draft-1", 0⟩ := by
  obtain ⟨s, added, hs, horder, hfirst, hsecond⟩ := exists_repeated
  have honce := commit_once hs (by simp [horder]) (by simp [horder]) hsecond hfirst
  obtain ⟨-, -, hfact, -⟩ := honce.1 rfl rfl
  exact ⟨s, _, horder, ⟨_, List.mem_of_getElem? hsecond, rfl, rfl⟩, hfact⟩

/-- A command that was committed once is answered again with its fact by every later unit of work,
which adds nothing, however far the key has moved on: by one that runs by itself, and by one whose
statements others run between. -/
theorem replay_answered (h : Reachable (rules codecs) s) (ht : t ∈ s.order) {i : ℕ}
    {command : VersionedFactCommand F} {result : FactCommitResult F}
    (ha : (s.txs t).answers[i]? = some ⟨.commitFact command, added, .ok (.committed result)⟩)
    (hu : u ∉ s.order) (hlive : s.Live u) :
    (script codecs (.commitFact command)).run UowRow.Clash (s.view u) [] =
        ([], .ok (.committed ⟨result.fact, true⟩)) ∧
      ((s.txs u).phase = .idle → ∀ s', Relation.ReflTransGen (Step (rules codecs)) s s' →
        ∀ (j : ℕ) a, (s.txs u).answers.length ≤ j → (s'.txs u).answers[j]? = some a →
          a.call = .commitFact command →
          a.added = [] ∧ a.result = .ok (.committed ⟨result.fact, true⟩)) := by
  have hs := inv_of_reachable h
  have hlaw := lawful codecs
  obtain ⟨row, stored, hstored, -⟩ := stored_of_answer hs ht ha
  refine ⟨(reads_replay hstored).run_eq
    ⟨hs.closed_view hlaw hu hlive, List.subset_append_left _ _⟩ [], fun hidle s' hrun => ?_⟩
  refine (Inv.repeats_run hlaw hs (reads_replay hstored) (fun s₁ hrun₁ hopen hlive₁ => ?_) hidle
    hrun).answered
  obtain ⟨-, hs₁⟩ := hs.run_frame hlaw hrun₁
  exact ⟨hs₁.closed_view hlaw hopen hlive₁,
    List.Subset.trans (hs.committed_prefix hlaw hrun₁).subset (List.subset_append_left _ _)⟩

/-- The command that created the draft is repeated after the draft was edited. -/
theorem replay_answered_draft : ∃ (s s' : DraftStore) (repeated : Transactions.Answer _ _ _ _),
    s.order = [0, 1] ∧ Relation.ReflTransGen (Step (rules draftCodecs)) s s' ∧
    s'.order = [0, 1, 2] ∧ (s'.txs 2).answers = [repeated] ∧
    repeated.call = .commitFact createDraft ∧ repeated.added = [] ∧
    repeated.result = .ok (.committed ⟨⟨"draft-1", 0⟩, true⟩) := by
  obtain ⟨s, first, second, hs, horder, hidle, hfirst, hsecond⟩ := exists_updated
  have htx : s.txs 2 = {} := hidle 2 (by simp [horder])
  have hlive : s.Live 2 := by
    rw [Store.Live, htx]
    rintro ⟨⟩
  have hanswer : (s.txs 0).answers[0]? =
      some ⟨.commitFact createDraft, first, .ok (.committed ⟨⟨"draft-1", 0⟩, false⟩)⟩ := by
    rw [hfirst]
    rfl
  obtain ⟨halone, hrepeats⟩ :=
    replay_answered hs (by simp [horder]) hanswer (u := 2) (by simp [horder]) hlive
  have hview : s.view 2 = s.committed := by
    rw [Store.view, htx]
    exact List.append_nil _
  rw [hview] at halone
  have halone' : ((rules draftCodecs).script (.commitFact createDraft)).run (rules draftCodecs).clash
      s.committed [] = ([], .ok (.committed ⟨⟨"draft-1", 0⟩, true⟩)) := halone
  obtain ⟨s', hrun, horder', -, -, hrepeated, -⟩ := Inv.commit_alone (t := 2) hidle
    (by simp [horder]) halone'
  obtain ⟨hadded, hresult⟩ := hrepeats (by rw [htx]) s' hrun 0 _ (by rw [htx]; exact Nat.le_refl _)
    (by rw [hrepeated]; rfl) rfl
  exact ⟨s, s', _, horder, hrun, by simp [horder', horder], hrepeated, rfl, hadded, hresult⟩

/-- A unit of work in which a write was refused never commits, even if its caller swallows the
exception. -/
theorem refused_write_never_commits (h : Reachable (rules codecs) s)
    {a : Transactions.Answer (UowCall F) UowRow UowError (UowResult F)} {e : UowError}
    (ha : a ∈ (s.txs t).answers) (haborts : aborts a.call = true) (hrefused : a.result = .error e)
    (hrun : Relation.ReflTransGen (Step (rules codecs)) s s') : t ∉ s'.order :=
  (inv_of_reachable h).never_commits (lawful codecs) ha haborts hrefused hrun

/-- A command of a kind no codec is registered for. -/
def strayDraft : VersionedFactCommand Draft :=
  ⟨⟨⟨⟨"stray", "draft-1"⟩, by decide⟩, none, ⟨"draft-1", 0⟩,
    ⟨"drafts", "create-1", Digest.zero, 201, "draft-1"⟩⟩, by decide⟩

theorem refused_write_never_commits_stray : ∃ s : DraftStore, Reachable (rules draftCodecs) s ∧
    (s.txs 0).answers ≠ [] ∧ 0 ∉ s.order := by
  have hrun : ((rules draftCodecs).script (.commitFact strayDraft)).run UowRow.Clash [] [] =
      ([], .error (.portContract "fact_store" "key.kind" "unsupported")) := rfl
  have halone : ∀ u ≠ 0, ({} : DraftStore).Live u → (({} : DraftStore).txs u).rows ⊆ [] :=
    fun _ _ _ => List.Subset.refl _
  have hcall := Inv.call_alone (R := rules draftCodecs) (s := ({} : DraftStore)) (t := 0)
    List.not_mem_nil halone rfl hrun
  exact ⟨_, hcall, nofun,
    refused_write_never_commits hcall (List.mem_singleton_self _) rfl rfl .refl⟩

end

end ApplicationUow
end QaRunner
