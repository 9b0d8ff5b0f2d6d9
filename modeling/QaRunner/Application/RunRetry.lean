import QaRunner.Application.RunRetryPort
import QaRunner.Domain.RunCommands

/-! Queue a policy-authorized or an adjudicated Run retry and publish it atomically. -/
namespace QaRunner
open Guarded Interleaving PublishOnce

structure QueuePolicyRetryCommand.Fields where
  identityScope : RunRetryIdentityScope
  candidateIntent : Option RetryIntent
  decision : RunRetryDecision.Record
  expectedRunVersion : ℤ
  expectedAttemptVersion : ℤ
  deriving DecidableEq

def invalidPolicyRetryIf (c : Prop) [Decidable c] (field : String) : Result Unit :=
  invalidIf c "queue_policy_retry_command" field "invalid"

def QueuePolicyRetryCommand.Fields.postInit (c : QueuePolicyRetryCommand.Fields) :
    Result Unit := do
  invalidPolicyRetryIf ((c.decision.decision = .retry) ≠ (c.candidateIntent.isSome = true))
    "candidate_intent"
  let intentDigest ← optionalIntentDigest c.candidateIntent
  invalidPolicyRetryIf (c.decision.retryIntentDigest ≠ intentDigest) "decision_binding"
  invalidPolicyRetryIf (c.expectedRunVersion < 0) "expected_run_version"
  invalidPolicyRetryIf (c.expectedAttemptVersion < 0) "expected_attempt_version"
  invalidPolicyRetryIf (c.identityScope.1 = "" ∨ c.identityScope.2 = "") "identity_scope"

/-- A decision, and the intent when the decision is to retry. -/
structure QueuePolicyRetryCommand extends QueuePolicyRetryCommand.Fields where
  accepted : toFields.postInit = .ok ()
  deriving DecidableEq

structure QueuePolicyRetryResult where
  projection : RunRetryProjection
  receipt : Option RetryQueueReceipt
  replayed : Bool

/-- The conflict of a scope that is in use for something else. -/
def scopeConflict (scope : RunRetryIdentityScope) (stored received : Digest) : DomainError :=
  .idempotencyConflict scope.1 scope.2 stored.value received.value

/-- The snapshot is of the versions that a command was prepared against. -/
def requireSnapshotVersions (attemptId runId : Str)
    (attemptVersion expectedAttemptVersion runVersion expectedRunVersion : ℤ) : Raises Unit := do
  Raises.refuseIf (attemptVersion ≠ expectedAttemptVersion)
    (.versionConflict "attempt" attemptId attemptVersion expectedAttemptVersion)
  Raises.refuseIf (runVersion ≠ expectedRunVersion)
    (.versionConflict "run" runId runVersion expectedRunVersion)

namespace QueuePolicyRetry

variable {σ : Type} (gateway : RunRetryGateway σ) (command : QueuePolicyRetryCommand)

def requireCurrent (authority : RunRetryWriteAuthority) : Raises Unit :=
  Raises.conflictIf (¬ authority.Grants command.decision.toRunRetryDecision)
    "retry_authority_superseded"

/-- The stored result is of another decision or of another intent. -/
def replayMismatch (stored : RetryQueuePublicationResult) : Result Bool :=
  anyOf [.ok (decide (stored.projection.retryIntentDigest ≠ command.decision.retryIntentDigest)),
    differs stored.projection.decisionDigest command.decision.decisionDigest,
    .ok (decide (command.candidateIntent.isNone ≠ stored.receipt.isNone)),
    match command.candidateIntent, stored.receipt with
    | some intent, some receipt => anyOf [do
        let storedDigest ← receipt.intent.digest
        differs storedDigest intent.digest,
      differs receipt.queueDecisionDigest command.decision.decisionDigest]
    | _, _ => .ok false]

def replay (stored : RetryQueuePublicationResult) : Raises QueuePolicyRetryResult := do
  let mismatch ← Raises.domain (replayMismatch command stored)
  let digest ← Raises.domain command.decision.decisionDigest
  Raises.refuseIf (mismatch = true)
    (scopeConflict command.identityScope stored.projection.decisionDigest digest)
  return ⟨stored.projection, stored.receipt, true⟩

/-- A decision not to retry leaves the Run as it is. -/
def queued (run : Run) : Result Run :=
  match command.candidateIntent with
  | some intent =>
    run.queuePolicyRetry intent command.decision.toRunRetryDecision command.expectedRunVersion
  | none => .ok run

def reservation : Raises (Option RetryBudgetReservation) :=
  match command.candidateIntent with
  | some _ => some <$> RetryBudgetReservation.fromDecision command.decision
  | none => .ok none

def prepare (authority : RunRetryWriteAuthority) (snapshot : RunRetryMutationSnapshot) :
    Raises RetryPublication := do
  let source := command.decision.source
  requireSnapshotVersions source.attemptId source.runId snapshot.attemptVersion
    command.expectedAttemptVersion snapshot.run.version command.expectedRunVersion
  let queued ← Raises.domain (queued command snapshot.run)
  let decisionDigest ← Raises.domain command.decision.decisionDigest
  let reservation ← reservation command
  let sideEffect ← Raises.port (RunRetrySideEffect.new
    ⟨source.runId, decisionDigest, command.decision.retryIntentDigest⟩)
  let publication ← RunRetryPublication.new {
    identityScope := command.identityScope
    authority := authority
    expectedSnapshot := snapshot
    intent := command.candidateIntent
    decision := command.decision
    projection := ⟨queued, decisionDigest, command.decision.retryIntentDigest⟩
    reservation := reservation
    sideEffect := sideEffect }
  return .policy publication

def handler : Handler σ Raised RunRetryWriteAuthority RetryQueuePublicationResult
    RetryQueuePublicationResult RunRetryMutationSnapshot RetryPublication
    QueuePolicyRetryResult where
  require := do
    let authority ← .read (gateway.requireRetryAuthority command.decision.source.runId)
    .lift (requireCurrent command authority)
    return authority
  lookup _ := gateway.lookupStored command.identityScope
  replay _ := replay command
  lock _ := gateway.getMutationSnapshotForUpdate command.decision.source.runId
  prepare := prepare command
  publish := gateway.publishRetry
  finish result := ⟨result.value.projection, result.value.receipt, result.replayed⟩

def execute : Prog σ Raised QueuePolicyRetryResult := (handler gateway command).execute

end QueuePolicyRetry

structure QueueAdjudicatedRetryCommand.Fields where
  identityScope : RunRetryIdentityScope
  candidateIntent : RetryIntent
  expectedRunVersion : ℤ
  expectedAttemptVersion : ℤ
  acceptanceRequest : Option DuplicateRiskAcceptanceRequest := none
  deriving DecidableEq

def invalidAdjudicatedRetryIf (c : Prop) [Decidable c] (field : String) : Result Unit :=
  invalidIf c "queue_adjudicated_retry_command" field "invalid"

def QueueAdjudicatedRetryCommand.Fields.postInit (c : QueueAdjudicatedRetryCommand.Fields) :
    Result Unit := do
  let decision ← need c.candidateIntent.decision
    (.domainValidation "queue_adjudicated_retry_command" "candidate_intent" "invalid")
  invalidAdjudicatedRetryIf (decision.permitsRetry = false) "candidate_intent"
  invalidAdjudicatedRetryIf (decision.acceptsDuplicate ≠ c.acceptanceRequest.isSome)
    "acceptance_request"
  -- the version checks are shared with the policy command, its name included
  invalidPolicyRetryIf (c.expectedRunVersion < 0) "expected_run_version"
  invalidPolicyRetryIf (c.expectedAttemptVersion < 0) "expected_attempt_version"
  invalidAdjudicatedRetryIf (c.identityScope.1 = "" ∨ c.identityScope.2 = "") "identity_scope"

/-- An intent that an adjudication authorizes, with the acceptance it may need. -/
structure QueueAdjudicatedRetryCommand extends QueueAdjudicatedRetryCommand.Fields where
  accepted : toFields.postInit = .ok ()
  deriving DecidableEq

structure QueueAdjudicatedRetryResult where
  projection : RunRetryProjection
  receipt : Option RetryQueueReceipt
  replayed : Bool

namespace QueueAdjudicatedRetry

variable {σ : Type} (gateway : RunRetryGateway σ) (command : QueueAdjudicatedRetryCommand)

def requireCurrent (authority : UnknownRetryWriteAuthority) : Raises Unit :=
  Raises.conflictIf (¬ authority.Grants command.candidateIntent ∨
    authority.attemptVersion ≠ command.expectedAttemptVersion) "unknown_retry_authority_superseded"

/-- The stored result is of another adjudication or of another intent. -/
def replayMismatch (authority : UnknownRetryWriteAuthority) (stored : RetryQueuePublicationResult) :
    Result Bool :=
  anyOf [do
      let intentDigest ← command.candidateIntent.digest
      return decide (stored.projection.retryIntentDigest ≠ some intentDigest),
    .ok (decide (stored.projection.decisionDigest ≠ authority.adjudicationDigest)),
    match stored.receipt with
    | none => .ok true
    | some receipt => anyOf [do
        let storedDigest ← receipt.intent.digest
        differs storedDigest command.candidateIntent.digest,
      .ok (decide (receipt.queueDecisionDigest ≠ authority.adjudicationDigest))]]

def replay (authority : UnknownRetryWriteAuthority) (stored : RetryQueuePublicationResult) :
    Raises QueueAdjudicatedRetryResult := do
  let mismatch ← Raises.domain (replayMismatch command authority stored)
  Raises.refuseIf (mismatch = true) (scopeConflict command.identityScope
    stored.projection.decisionDigest authority.adjudicationDigest)
  return ⟨stored.projection, stored.receipt, true⟩

def prepare (authority : UnknownRetryWriteAuthority) (snapshot : UnknownRetryMutationSnapshot) :
    Raises RetryPublication := do
  let intent := command.candidateIntent
  requireSnapshotVersions intent.sourceAttemptId intent.runId snapshot.attemptVersion
    command.expectedAttemptVersion snapshot.run.version command.expectedRunVersion
  let queued ← Raises.domain
    (snapshot.run.queueAdjudicatedRetry intent command.expectedRunVersion)
  let intentDigest ← Raises.domain intent.digest
  let sideEffect ← Raises.port (RunRetrySideEffect.new
    ⟨intent.runId, authority.adjudicationDigest, some intentDigest⟩)
  let publication ← UnknownRetryPublication.new {
    identityScope := command.identityScope
    authority := authority
    expectedSnapshot := snapshot
    intent := intent
    projection := ⟨queued, authority.adjudicationDigest, some intentDigest⟩
    acceptanceRequest := command.acceptanceRequest
    sideEffect := sideEffect }
  return .unknown publication

def handler : Handler σ Raised UnknownRetryWriteAuthority RetryQueuePublicationResult
    RetryQueuePublicationResult UnknownRetryMutationSnapshot RetryPublication
    QueueAdjudicatedRetryResult where
  require := do
    let authority ← .read (gateway.requireUnknownRetryAuthority command.candidateIntent.runId)
    .lift (requireCurrent command authority)
    return authority
  lookup _ := gateway.lookupStored command.identityScope
  replay := replay command
  lock _ := gateway.getUnknownMutationSnapshotForUpdate command.candidateIntent.runId
  prepare := prepare command
  publish := gateway.publishRetry
  finish result := ⟨result.value.projection, result.value.receipt, result.replayed⟩

def execute : Prog σ Raised QueueAdjudicatedRetryResult := (handler gateway command).execute

end QueueAdjudicatedRetry

end QaRunner
