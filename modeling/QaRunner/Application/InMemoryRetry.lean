import QaRunner.Application.RetryStore

/-! The copy-on-write store of the retry handlers, with the Run, the receipts and the starts in one
place. -/
namespace QaRunner
open Guarded Interleaving PublishOnce

/-- What is kept of one Run and its retries. -/
structure InMemoryRetry where
  run : Run
  attemptVersion : ℤ
  binding : UnknownRetryMutationBinding
  authority : Option RunRetryWriteAuthority
  unknownAuthority : Option UnknownRetryWriteAuthority
  results : RunRetryIdentityScope → Option RetryQueuePublicationResult
  queueReceipts : List RetryQueueReceipt
  acceptanceConsumptions : Str × Str → Option DuplicateRiskAcceptanceConsumption
  commits : RunRetryIdentityScope → Option StoredRetryCommit

namespace InMemoryRetry

def supersededIf {α : Type} (current : Option α) (p : α → Prop) [DecidablePred p]
    (reason : String) : Raises α := do
  let a ← need current (.problem (.authorityStateConflict reason))
  Raises.conflictIf (¬ p a) reason
  return a

def requireRetryAuthority (runId : Str) (t : InMemoryRetry) : Raises RunRetryWriteAuthority :=
  supersededIf t.authority (·.runId = runId) "retry_authority_superseded"

def requireUnknownRetryAuthority (runId : Str) (t : InMemoryRetry) :
    Raises UnknownRetryWriteAuthority :=
  supersededIf t.unknownAuthority (·.runId = runId) "unknown_retry_authority_superseded"

/-- Only the Run that is kept can be locked. -/
def locked {α : Type} (t : InMemoryRetry) (runId : Str) (snapshot : Port α) : Raises α := do
  Raises.refuseIf (runId ≠ t.run.id) (.crash .keyError)
  Raises.port snapshot

def getMutationSnapshotForUpdate (runId : Str) (t : InMemoryRetry) :
    Raises RunRetryMutationSnapshot :=
  t.locked runId (construct RunRetryMutationSnapshot.Fields.postInit RunRetryMutationSnapshot.mk
    ⟨t.run, t.attemptVersion⟩)

def getUnknownMutationSnapshotForUpdate (runId : Str) (t : InMemoryRetry) :
    Raises UnknownRetryMutationSnapshot :=
  t.locked runId (construct UnknownRetryMutationSnapshot.Fields.postInit
    UnknownRetryMutationSnapshot.mk ⟨t.run, t.attemptVersion, t.binding⟩)

/-- The publication was prepared under the current authority. -/
def AuthorityCurrent (t : InMemoryRetry) : RetryPublication → Prop
  | .policy p => t.authority = some p.authority
  | .unknown p => t.unknownAuthority = some p.authority

instance (t : InMemoryRetry) : (p : RetryPublication) → Decidable (t.AuthorityCurrent p)
  | .policy p => inferInstanceAs (Decidable (t.authority = some p.authority))
  | .unknown p => inferInstanceAs (Decidable (t.unknownAuthority = some p.authority))

/-- The publication was prepared from what is kept now. -/
def SnapshotCurrent (t : InMemoryRetry) : RetryPublication → Prop
  | .policy p => p.expectedSnapshot.toFields = ⟨t.run, t.attemptVersion⟩
  | .unknown p => p.expectedSnapshot.toFields = ⟨t.run, t.attemptVersion, t.binding⟩

instance (t : InMemoryRetry) : (p : RetryPublication) → Decidable (t.SnapshotCurrent p)
  | .policy p => inferInstanceAs (Decidable (p.expectedSnapshot.toFields = _))
  | .unknown p => inferInstanceAs (Decidable (p.expectedSnapshot.toFields = _))

/-- The acceptance of a publication is consumed once under its own key. -/
def consumed (t : InMemoryRetry) :
    RetryPublication → Result (Option DuplicateRiskAcceptanceConsumption)
  | .policy _ => .ok none
  | .unknown p =>
    match p.acceptanceRequest with
    | none => .ok none
    | some request => do
      match ← consumeDuplicateRiskAcceptance request
        (t.acceptanceConsumptions (request.scope, request.key)) with
      | .consumption consumption => return some consumption
      | .replay consumption => return some consumption

/-- The receipt that a publication leaves for the start of its retry. -/
def receiptOf (consumption : Option DuplicateRiskAcceptanceConsumption) :
    RetryPublication → Raises (Option RetryQueueReceipt)
  | .policy p =>
    match p.intent with
    | none => .ok none
    | some intent => do
      let receipt ← RetryQueueReceipt.new {
        intent := intent
        reservation := p.reservation
        duplicateAcceptanceConsumption := none
        queueDecisionDigest := p.projection.decisionDigest
        queueIdentityScope := p.identityScope
        queuedRunVersion := p.projection.run.version
        queueWriterDigest := p.authority.writerDigest
        queueWriteEpoch := p.authority.writeEpoch }
      return some receipt
  | .unknown p => do
    let receipt ← RetryQueueReceipt.new {
      intent := p.intent
      reservation := none
      duplicateAcceptanceConsumption := consumption
      queueDecisionDigest := p.projection.decisionDigest
      queueIdentityScope := p.identityScope
      queuedRunVersion := p.projection.run.version
      queueWriterDigest := p.authority.writerDigest
      queueWriteEpoch := p.authority.writeEpoch }
    return some receipt

/-- The key of the acceptance that a publication consumes. -/
def acceptanceKey : RetryPublication → Option (Str × Str)
  | .policy _ => none
  | .unknown p => p.acceptanceRequest.map fun request => (request.scope, request.key)

/-- What is stored under the scope answers a publication of the same decision and intent. -/
def replayResult (p : RetryPublication) (stored : RetryQueuePublicationResult) : Raises Unit :=
  Raises.refuseIf (stored.projection.retryIntentDigest ≠ p.projection.retryIntentDigest ∨
      stored.projection.decisionDigest ≠ p.projection.decisionDigest)
    (scopeConflict p.identityScope stored.projection.decisionDigest p.projection.decisionDigest)

def publishRetry (p : RetryPublication) (t : InMemoryRetry) :
    Raises (ReplayResult RetryQueuePublicationResult × InMemoryRetry) :=
  match t.results p.identityScope with
  | some stored => do
    replayResult p stored
    return (⟨stored, true⟩, t)
  | none => do
    Raises.conflictIf (¬ t.AuthorityCurrent p) "retry_publication_authority_superseded"
    Raises.refuseIf (¬ t.SnapshotCurrent p) (.versionConflict "run_retry_snapshot" t.run.id
      t.run.version p.snapshotRun.version)
    let consumption ← Raises.domain (t.consumed p)
    let receipt ← receiptOf consumption p
    let result ← Raises.port (RetryQueuePublicationResult.new ⟨p.projection, receipt⟩)
    return (⟨result, false⟩, { t with
      run := p.projection.run
      results := Function.update t.results p.identityScope (some result)
      queueReceipts := t.queueReceipts ++ receipt.toList
      acceptanceConsumptions := (acceptanceKey p).elim t.acceptanceConsumptions fun key =>
        Function.update t.acceptanceConsumptions key consumption })

def queueing : RunRetryGateway InMemoryRetry where
  requireRetryAuthority := requireRetryAuthority
  requireUnknownRetryAuthority := requireUnknownRetryAuthority
  lookupStored scope t := .ok (t.results scope)
  getMutationSnapshotForUpdate := getMutationSnapshotForUpdate
  getUnknownMutationSnapshotForUpdate := getUnknownMutationSnapshotForUpdate
  publishRetry := publishRetry

/-- The authority that a receipt was queued under. -/
def requireCurrentAuthority (receipt : RetryQueueReceipt) (t : InMemoryRetry) :
    Raises RetryCommitAuthority :=
  match receipt.intent.authority with
  | .policy _ => .policy <$> supersededIf t.authority (·.runId = receipt.intent.runId)
      "retry_commit_authority_superseded"
  | .unknownAdjudication _ => .unknown <$> supersededIf t.unknownAuthority
      (·.runId = receipt.intent.runId) "retry_commit_authority_superseded"

/-- The first receipt that was queued for the intent. -/
def requireReceiptForUpdate (retryIntentDigest : Digest) (t : InMemoryRetry) :
    Raises RetryQueueReceipt :=
  need (t.queueReceipts.find? fun receipt => receipt.intent.digest = .ok retryIntentDigest)
    (.problem (.authorityStateConflict "retry_queue_receipt_missing"))

def getSnapshotForUpdate (runId : Str) (t : InMemoryRetry) : Raises RetryCommitMutationSnapshot :=
  t.locked runId (construct RetryCommitMutationSnapshot.Fields.postInit
    RetryCommitMutationSnapshot.mk ⟨t.run, t.attemptVersion⟩)

def CommitAuthorityCurrent (t : InMemoryRetry) : RetryCommitAuthority → Prop
  | .policy authority => t.authority = some authority
  | .unknown authority => t.unknownAuthority = some authority

instance (t : InMemoryRetry) :
    (authority : RetryCommitAuthority) → Decidable (t.CommitAuthorityCurrent authority)
  | .policy authority => inferInstanceAs (Decidable (t.authority = some authority))
  | .unknown authority => inferInstanceAs (Decidable (t.unknownAuthority = some authority))

/-- The start that is stored under the scope answers a publication on the same intent. -/
def replayCommit (p : RetryCommitPublication) (stored : StoredRetryCommit) : Raises Unit := do
  let provenance ← need stored.commit.attempt.retryProvenance
    (.problem (.domain (.crash .attributeError)))
  let intentDigest ← Raises.domain p.receipt.intent.digest
  Raises.refuseIf (provenance.retryIntentDigest ≠ intentDigest)
    (scopeConflict p.identityScope provenance.retryIntentDigest intentDigest)

def publish (p : RetryCommitPublication) (t : InMemoryRetry) :
    Raises (ReplayResult CommitStartResult × InMemoryRetry) :=
  match t.commits p.identityScope with
  | some stored => do
    replayCommit p stored
    return (⟨stored.commit, true⟩, t)
  | none => do
    Raises.conflictIf (¬ t.CommitAuthorityCurrent p.authority) "retry_commit_authority_superseded"
    Raises.refuseIf (p.expectedSnapshot.toFields ≠ ⟨t.run, t.attemptVersion⟩)
      (.versionConflict "retry_commit_snapshot" p.receipt.intent.runId t.run.version
        p.expectedSnapshot.run.version)
    let receiptDigest ← Raises.domain p.receipt.digest
    return (⟨p.commit, false⟩, { t with
      run := p.commit.run
      commits := Function.update t.commits p.identityScope (some ⟨p.commit, receiptDigest⟩) })

def committing : RetryCommitStartGateway InMemoryRetry where
  requireCurrentAuthority := requireCurrentAuthority
  lookupStored scope t := .ok (t.commits scope)
  requireReceiptForUpdate := requireReceiptForUpdate
  getSnapshotForUpdate := getSnapshotForUpdate
  publish := publish

end InMemoryRetry

/-- The handlers over the one store. -/
def inMemoryRetry : RetryStore InMemoryRetry where
  queueing := InMemoryRetry.queueing
  committing := InMemoryRetry.committing
  run := InMemoryRetry.run

namespace InMemoryRetry

variable {t t' : InMemoryRetry} {runId : Str}

theorem locked_eq_ok {α : Type} {snapshot : Port α} {a : α} :
    t.locked runId snapshot = .ok a ↔ runId = t.run.id ∧ snapshot = .ok a := by
  simp only [locked, then_eq_ok, Raises.refuseIf_eq_ok, Raises.port_eq_ok, ne_eq, not_not]

theorem receiptOf_ok {consumption : Option DuplicateRiskAcceptanceConsumption}
    {p : RetryPublication} {r : Option RetryQueueReceipt} (h : receiptOf consumption p = .ok r) :
    ∀ receipt ∈ r, some receipt.intent = p.intent ∧
      receipt.queueDecisionDigest = p.projection.decisionDigest := by
  cases p with
  | policy p =>
    cases hintent : p.intent with
    | none =>
      simp only [receiptOf, hintent] at h
      cases h
      exact fun _ hmem => by cases hmem
    | some intent =>
      simp only [receiptOf, hintent, bind_eq_ok, RetryQueueReceipt.new, construct_eq_ok,
        pure_eq_ok] at h
      obtain ⟨_, ⟨_, rfl⟩, rfl⟩ := h
      rintro _ ⟨⟩
      exact ⟨hintent.symm, rfl⟩
  | unknown p =>
    simp only [receiptOf, bind_eq_ok, RetryQueueReceipt.new, construct_eq_ok, pure_eq_ok] at h
    obtain ⟨_, ⟨_, rfl⟩, rfl⟩ := h
    rintro _ ⟨⟩
    exact ⟨rfl, rfl⟩

theorem receipted_iff {d : Digest} {receipt : RetryQueueReceipt} :
    inMemoryRetry.Receipted d receipt t ↔
      t.queueReceipts.find? (fun r => r.intent.digest = .ok d) = some receipt := need_eq_ok

/-- A receipt that was queued stays the first one of its intent. -/
theorem receipted_append {receipts : List RetryQueueReceipt} {d : Digest}
    {receipt : RetryQueueReceipt} (h : inMemoryRetry.Receipted d receipt t)
    (hreceipts : t'.queueReceipts = t.queueReceipts ++ receipts) :
    inMemoryRetry.Receipted d receipt t' := by
  rw [receipted_iff, hreceipts, List.find?_append, receipted_iff.mp h]
  rfl

theorem published_of_publishRetry {p : RetryPublication}
    {r : ReplayResult RetryQueuePublicationResult} (h : publishRetry p t = .ok (r, t')) :
    inMemoryRetry.RetryPublished p t r t' := by
  unfold publishRetry at h
  cases hstored : t.results p.identityScope with
  | some stored =>
    simp only [hstored, bind_eq_ok, exists_unit, replayResult, Raises.refuseIf_eq_ok, not_or, ne_eq,
      not_not, pure_eq_ok] at h
    obtain ⟨⟨hintent, hdecision⟩, hsame⟩ := h
    cases hsame
    exact .repeated (congrArg Except.ok hstored) hdecision hintent
  | none =>
    simp only [hstored, bind_eq_ok, exists_unit, Raises.conflictIf_eq_ok, Raises.refuseIf_eq_ok,
      not_not, Raises.port_eq_ok, RetryQueuePublicationResult.new, construct_eq_ok,
      pure_eq_ok] at h
    obtain ⟨-, hsnapshot, consumption, -, receipt, hreceipt, _, ⟨_, rfl⟩, hsame⟩ := h
    cases hsame
    have hversion : p.snapshotRun = t.run := by
      cases p with
      | policy p => exact congrArg (·.run) hsnapshot
      | unknown p => exact congrArg (·.run) hsnapshot
    refine .first (congrArg Except.ok hstored) (congrArg (·.version) hversion) rfl ?_ rfl
      (receiptOf_ok hreceipt) (fun scope hscope => ?_) (fun scope => rfl)
      (fun d receipt hd => receipted_append hd rfl)
    · exact congrArg Except.ok (Function.update_self ..)
    · exact congrArg Except.ok (Function.update_of_ne hscope ..)

theorem published_of_publish {p : RetryCommitPublication} {r : ReplayResult CommitStartResult}
    (h : publish p t = .ok (r, t')) : inMemoryRetry.CommitPublished p t r t' := by
  unfold publish at h
  cases hstored : t.commits p.identityScope with
  | some stored =>
    simp only [hstored, bind_eq_ok, exists_unit, replayCommit, need_eq_ok, Raises.domain_eq_ok,
      Raises.refuseIf_eq_ok, ne_eq, not_not, pure_eq_ok] at h
    obtain ⟨⟨provenance, hprovenance, _, hintent, rfl⟩, hsame⟩ := h
    cases hsame
    exact .repeated (congrArg Except.ok hstored) hprovenance hintent
  | none =>
    simp only [hstored, bind_eq_ok, exists_unit, Raises.conflictIf_eq_ok, Raises.refuseIf_eq_ok,
      ne_eq, not_not, Raises.domain_eq_ok, pure_eq_ok] at h
    obtain ⟨-, hsnapshot, digest, hdigest, hsame⟩ := h
    cases hsame
    refine .first (v := ⟨p.commit, digest⟩) (congrArg Except.ok hstored)
      (congrArg (·.run.version) hsnapshot) rfl ?_ rfl hdigest (fun scope hscope => ?_)
      (fun scope => rfl) (fun d receipt hd => hd)
    · exact congrArg Except.ok (Function.update_self ..)
    · exact congrArg Except.ok (Function.update_of_ne hscope ..)

/-- The store does what the handlers rely on. -/
theorem lawful : inMemoryRetry.Lawful where
  snapshot h := by
    obtain ⟨-, hsnapshot⟩ := locked_eq_ok.mp h
    obtain ⟨_, rfl⟩ := construct_eq_ok.mp hsnapshot
    rfl
  unknownSnapshot h := by
    obtain ⟨-, hsnapshot⟩ := locked_eq_ok.mp h
    obtain ⟨_, rfl⟩ := construct_eq_ok.mp hsnapshot
    rfl
  commitSnapshot h := by
    obtain ⟨-, hsnapshot⟩ := locked_eq_ok.mp h
    obtain ⟨_, rfl⟩ := construct_eq_ok.mp hsnapshot
    rfl
  receipt h := by
    have hsame := List.find?_some (receipted_iff.mp h)
    exact of_decide_eq_true hsame
  publishRetry := published_of_publishRetry
  publish := published_of_publish

end InMemoryRetry

end QaRunner
