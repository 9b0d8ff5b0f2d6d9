import QaRunner.Application.RunRetry

/-! Commit one queued retry only after current authority revalidation. -/
namespace QaRunner
open Guarded Interleaving PublishOnce

inductive RetryCommitAuthority where
  | policy (authority : RunRetryWriteAuthority)
  | unknown (authority : UnknownRetryWriteAuthority)
  deriving DecidableEq

structure RetryCommitMutationSnapshot.Fields where
  run : Run
  sourceAttemptVersion : ℤ
  deriving DecidableEq

def RetryCommitMutationSnapshot.Fields.postInit (s : RetryCommitMutationSnapshot.Fields) :
    Port Unit :=
  Port.nonnegative "retry_commit_mutation_snapshot" "source_attempt_version" s.sourceAttemptVersion

structure RetryCommitMutationSnapshot extends RetryCommitMutationSnapshot.Fields where
  accepted : toFields.postInit = .ok ()

structure RetryCommitSideEffect.Fields where
  runId : Str
  retryIntentDigest : Digest
  attemptId : Str
  deriving DecidableEq

def RetryCommitSideEffect.Fields.postInit (e : RetryCommitSideEffect.Fields) : Port Unit := do
  Port.string "retry_commit_side_effect" "run_id" e.runId
  Port.string "retry_commit_side_effect" "attempt_id" e.attemptId

structure RetryCommitSideEffect extends RetryCommitSideEffect.Fields where
  accepted : toFields.postInit = .ok ()
  deriving DecidableEq

def RetryCommitSideEffect.new : RetryCommitSideEffect.Fields → Port RetryCommitSideEffect :=
  construct Fields.postInit RetryCommitSideEffect.mk

structure StoredRetryCommit where
  commit : CommitStartResult
  receiptDigest : Digest

structure RetryCommitPublication.Fields where
  identityScope : RunRetryIdentityScope
  authority : RetryCommitAuthority
  expectedSnapshot : RetryCommitMutationSnapshot
  receipt : RetryQueueReceipt
  commit : CommitStartResult
  sideEffect : RetryCommitSideEffect

namespace RetryCommitPublication.Fields

/-- The parts are not of one start of the retry of one receipt. -/
def bindingMismatch (p : Fields) : Raises Bool :=
  anyOf [.ok (decide (p.expectedSnapshot.run.id ≠ p.receipt.intent.runId ∨
      p.commit.run.id ≠ p.receipt.intent.runId)),
    match p.commit.attempt.retryProvenance with
    | none => .ok true
    | some provenance =>
      differs provenance.retryIntentDigest (Raises.domain p.receipt.intent.digest),
    do
      let intentDigest ← Raises.domain p.receipt.intent.digest
      return decide (p.sideEffect.toFields ≠
        ⟨p.receipt.intent.runId, intentDigest, p.commit.attempt.id⟩)]

def postInit (p : Fields) : Raises Unit := do
  Raises.port (Port.identityScope "retry_commit_publication" "identity_scope" p.identityScope)
  let mismatch ← p.bindingMismatch
  Raises.port (Port.invalidIf (mismatch = true) "retry_commit_publication" "binding" "invalid")

end RetryCommitPublication.Fields

/-- The start of a queued retry, and the receipt it is committed against. -/
structure RetryCommitPublication extends RetryCommitPublication.Fields where
  accepted : toFields.postInit = .ok ()

def RetryCommitPublication.new : RetryCommitPublication.Fields → Raises RetryCommitPublication :=
  construct Fields.postInit RetryCommitPublication.mk

/-- Authorize, lock and atomically publish the start of one queued retry. -/
structure RetryCommitStartGateway (σ : Type) where
  requireCurrentAuthority : RetryQueueReceipt → σ → Raises RetryCommitAuthority
  lookupStored : RunRetryIdentityScope → σ → Raises (Option StoredRetryCommit)
  requireReceiptForUpdate : (retryIntentDigest : Digest) → σ → Raises RetryQueueReceipt
  getSnapshotForUpdate : (runId : Str) → σ → Raises RetryCommitMutationSnapshot
  publish : RetryCommitPublication → σ → Raises (ReplayResult CommitStartResult × σ)

structure CommitRetryStartCommand.Fields where
  identityScope : RunRetryIdentityScope
  receipt : RetryQueueReceipt
  assignmentId : Str
  worker : WorkerRef
  startCommitKey : Str
  specDigest : Digest
  newAttemptId : Str
  observedAt : Datetime
  expectedRunVersion : ℤ
  expectedAttemptVersion : ℤ
  deriving DecidableEq

def CommitRetryStartCommand.Fields.postInit (c : CommitRetryStartCommand.Fields) :
    Result Unit := do
  let entity := "commit_retry_start_command"
  invalidIf (c.identityScope.1 = "" ∨ c.identityScope.2 = "") entity "identity_scope" "invalid"
  each [("assignment_id", c.assignmentId), ("start_commit_key", c.startCommitKey),
    ("new_attempt_id", c.newAttemptId)] fun f => invalidIf (f.2 = "") entity f.1 "invalid"
  each [("expected_run_version", c.expectedRunVersion),
    ("expected_attempt_version", c.expectedAttemptVersion)] fun f =>
      invalidIf (f.2 < 0) entity f.1 "invalid"

/-- A receipt, and the claimed reservation on which its retry is to be started. -/
structure CommitRetryStartCommand extends CommitRetryStartCommand.Fields where
  accepted : toFields.postInit = .ok ()
  deriving DecidableEq

structure CommitRetryStartResult where
  commit : CommitStartResult
  replayed : Bool

/-- The policy authority is still the one that the intent was made under. -/
def RunRetryWriteAuthority.Pins (current : RunRetryWriteAuthority) (runId : Str)
    (pinned : PolicyRetryAuthority) : Prop :=
  current.runId = runId ∧ current.policyDigest = pinned.policyDigest ∧
    current.authoritySchema = pinned.authoritySchema ∧ current.authorityId = pinned.authorityId ∧
    current.authorityVersion = pinned.authorityVersion ∧
    current.authorityDigest = pinned.authorityDigest

instance (current : RunRetryWriteAuthority) (runId : Str) (pinned : PolicyRetryAuthority) :
    Decidable (current.Pins runId pinned) := inferInstanceAs (Decidable (_ ∧ _))

/-- What is consumed is an acceptance on the current basis. -/
def acceptanceMatches (current : UnknownRetryWriteAuthority) (receipt : RetryQueueReceipt) :
    Result Bool :=
  match receipt.duplicateAcceptanceConsumption with
  | none => .ok true
  | some consumption => do
    let basisDigest ← need current.riskAcceptanceBasisDigest (.crash .attributeError)
    let intentDigest ← receipt.intent.digest
    let expected ← duplicateRiskAcceptanceDigest basisDigest intentDigest
    return decide (consumption.acceptanceDigest = expected)

def authorityMatches (authority : RetryCommitAuthority) (receipt : RetryQueueReceipt) :
    Result Bool :=
  match receipt.intent.authority, authority with
  | .policy pinned, .policy current => .ok (decide (current.Pins receipt.intent.runId pinned))
  | .unknownAdjudication _, .unknown current =>
    if current.runId = receipt.intent.runId ∧ current.Grants receipt.intent then
      acceptanceMatches current receipt
    else .ok false
  | _, _ => .ok false

namespace CommitRetryStart

variable {σ : Type} (gateway : RetryCommitStartGateway σ) (command : CommitRetryStartCommand)

def requireCurrent (authority : RetryCommitAuthority) : Raises Unit := do
  let matched ← Raises.domain (authorityMatches authority command.receipt)
  Raises.conflictIf (matched = false) "retry_commit_authority_superseded"

/-- The receipt is the one that is stored for its intent. -/
def requireCanonical (canonical : RetryQueueReceipt) : Raises Unit := do
  let canonicalDigest ← Raises.domain canonical.digest
  let digest ← Raises.domain command.receipt.digest
  Raises.conflictIf (canonicalDigest ≠ digest) "retry_queue_receipt_mismatch"

/-- The stored start is of another receipt, or of another Attempt than the command names. -/
def replayMismatch (receipt : RetryQueueReceipt) (stored : StoredRetryCommit) : Result Bool :=
  let attempt := stored.commit.attempt
  anyOf [differs stored.receiptDigest receipt.digest,
    match attempt.retryProvenance with
    | none => .ok true
    | some provenance => differs provenance.retryIntentDigest command.receipt.intent.digest,
    .ok (decide (attempt.id ≠ command.newAttemptId ∨
      attempt.assignmentId ≠ command.assignmentId ∨ attempt.worker ≠ command.worker ∨
      attempt.startCommitKey ≠ command.startCommitKey ∨
      attempt.specDigest ≠ command.specDigest))]

def replay (receipt : RetryQueueReceipt) (stored : StoredRetryCommit) :
    Raises CommitRetryStartResult := do
  let mismatch ← Raises.domain (replayMismatch command receipt stored)
  let digest ← Raises.domain command.receipt.intent.digest
  let storedDigest := ((stored.commit.attempt.retryProvenance).map (·.retryIntentDigest)).getD
    receipt.queueDecisionDigest
  Raises.refuseIf (mismatch = true) (scopeConflict command.identityScope storedDigest digest)
  return ⟨stored.commit, true⟩

def prepare (authority : RetryCommitAuthority) (receipt : RetryQueueReceipt)
    (snapshot : RetryCommitMutationSnapshot) : Raises RetryCommitPublication := do
  let intent := command.receipt.intent
  requireSnapshotVersions intent.sourceAttemptId intent.runId snapshot.sourceAttemptVersion
    command.expectedAttemptVersion snapshot.run.version command.expectedRunVersion
  let commit ← Raises.domain (snapshot.run.commitStart command.assignmentId command.worker
    command.startCommitKey command.specDigest command.newAttemptId command.observedAt
    command.expectedRunVersion)
  let intentDigest ← Raises.domain intent.digest
  let sideEffect ← Raises.port
    (RetryCommitSideEffect.new ⟨intent.runId, intentDigest, commit.attempt.id⟩)
  RetryCommitPublication.new {
    identityScope := command.identityScope
    authority := authority
    expectedSnapshot := snapshot
    receipt := receipt
    commit := commit
    sideEffect := sideEffect }

/-- The authority is revalidated, and the stored receipt read, before any replay. -/
def handler : Handler σ Raised (RetryCommitAuthority × RetryQueueReceipt) StoredRetryCommit
    CommitStartResult RetryCommitMutationSnapshot RetryCommitPublication
    CommitRetryStartResult where
  require := do
    let authority ← .read (gateway.requireCurrentAuthority command.receipt)
    .lift (requireCurrent command authority)
    let intentDigest ← .lift (Raises.domain command.receipt.intent.digest)
    let canonical ← .read (gateway.requireReceiptForUpdate intentDigest)
    .lift (requireCanonical command canonical)
    return (authority, canonical)
  lookup _ := gateway.lookupStored command.identityScope
  replay a := replay command a.2
  lock _ := gateway.getSnapshotForUpdate command.receipt.intent.runId
  prepare a := prepare command a.1 a.2
  publish := gateway.publish
  finish result := ⟨result.value, result.replayed⟩

def execute : Prog σ Raised CommitRetryStartResult := (handler gateway command).execute

end CommitRetryStart

end QaRunner
