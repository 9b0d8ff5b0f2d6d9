import QaRunner.Domain.RunHistory

/-! The commands of a Run. Each one either returns the Run it was given, or checks the expected
version and builds the next Run. -/
namespace QaRunner
open Guarded

/-- Durable identity returned before a Worker creates an execution sandbox. -/
structure CommitStartResult where
  run : Run
  attempt : Attempt
  fence : ℤ
  replayed : Bool

/-- Run-owned result of evidence finalization, normal or cancelled. -/
structure FinalizeAttemptResult where
  run : Run
  attempt : Attempt
  evidence : EvidenceManifest
  replayed : Bool

/-- Bind replay identity to Assignment, Worker generation, and execution spec. -/
def startCommitDigest (assignmentId : Str) (worker : WorkerRef) (specDigest : Digest) :
    Result Digest :=
  canonicalDigest "qep.start-commit.v1"
    (.dict [("assignment_id", .str assignmentId), ("worker_id", .str worker.workerId),
      ("worker_generation", .int worker.generation), ("spec_digest", .str specDigest.value)])

def requireUtcCommandTime (field : String) (value : Datetime) : Result Unit :=
  invalidRunIf (¬ value.IsUtc) field "not_utc"

namespace Run

variable (r : Run)

def ensureVersion (expectedVersion : ℤ) : Result Unit :=
  ensureExpectedVersion "run" r.id r.version expectedVersion

def invalidTransition (target : RunState) (expectedVersion : ℤ) : DomainError :=
  .invalidTransition "run" r.id r.state.value target.value r.version expectedVersion

/-- Reject stale commands or state edges that skip scheduling phases. -/
def transition (target : RunState) (expectedVersion : ℤ) : Result Run := do
  r.ensureVersion expectedVersion
  raiseIf (target ∉ r.state.allowedTransitions) (r.invalidTransition target expectedVersion)
  Run.new { r.toFields with
    state := target
    version := r.version + 1 }

def replaceCurrentAssignment (updated : Assignment) : Result (List Assignment) := do
  let missing := DomainError.assignmentConflict r.id updated.id "current_assignment_missing"
  raiseIf (r.currentAssignmentId ≠ some updated.id) missing
  let replaced := r.assignments.map fun a => if a.id = updated.id then updated else a
  raiseIf (replaced = r.assignments) missing
  return replaced

/-- The same key with other content is a conflict; another key is refused. -/
def replayCancel (stored intent : CancellationIntent) : Result Run := do
  raiseIf (stored.idempotencyKey ≠ intent.idempotencyKey)
    (.cancellationConflict r.id stored.idempotencyKey intent.idempotencyKey)
  let storedDigest ← stored.requestDigest
  let receivedDigest ← intent.requestDigest
  raiseIf (storedDigest ≠ receivedDigest)
    (.idempotencyConflict ("run:" ++ r.id ++ ":cancel") intent.idempotencyKey storedDigest.value
      receivedDigest.value)
  return r

/-- The closure that ends the current reservation when its Run is cancelled. -/
def cancelClosure (current : Assignment) (intent : CancellationIntent) :
    Result AssignmentClosure := do
  let expired : Prop := current.expiresAt ≤ intent.recordedAt
  let digest ← if expired then pure none else some <$> intent.digest
  AssignmentClosure.new {
    assignmentId := current.id
    idempotencyKey := intent.idempotencyKey
    kind := if expired then .expiredPrestart else .cancelledPrestart
    effectiveAt := if expired then current.expiresAt else intent.recordedAt
    recordedAt := intent.recordedAt
    worker := none
    cancellationIntentDigest := digest }

def cancelAssigned (intent : CancellationIntent) : Result Run := do
  let current ← need r.assignment (.assignmentConflict r.id "" "current_assignment_missing")
  let closure ← cancelClosure current intent
  let closed ← current.closePrestart closure
  let assignments ← r.replaceCurrentAssignment closed
  Run.new { r.toFields with
    state := .cancelled
    version := r.version + 1
    assignments := assignments
    currentAssignmentId := none
    cancelIntent := some intent }

def recordCancel (intent : CancellationIntent) (expectedVersion : ℤ) : Result Run := do
  let observedAt := intent.recordedAt
  raiseIf (r.state ∉ [RunState.queued, .assigned, .running, .retryQueued])
    (r.invalidTransition .cancelled expectedVersion)
  invalidRunIf (r.state = .running ∧ ∃ current ∈ r.assignment, ∃ committed ∈ current.committedAt,
    observedAt < committed) "observed_at" "before_current_attempt_commit"
  invalidRunIf (∃ closure ∈ r.latestClosure, observedAt < closure.recordedAt) "observed_at"
    "before_latest_assignment_closure"
  invalidRunIf (∃ pending ∈ r.pendingRetryIntent, observedAt < pending.createdAt) "observed_at"
    "before_pending_retry_intent"
  r.ensureVersion expectedVersion
  if r.state = .assigned then
    r.cancelAssigned intent
  else
    Run.new { r.toFields with
      state := if r.state = .queued ∨ r.state = .retryQueued then .cancelled else .running
      version := r.version + 1
      cancelIntent := some intent }

/-- Record cancellation intent without inventing a post-commit outcome. -/
def requestCancel (cancelKey : Str) (source : CancellationSource) (actorId reason : Str)
    (observedAt : Datetime) (expectedVersion : ℤ) : Result Run := do
  let intent ← CancellationIntent.new {
    runId := r.id
    idempotencyKey := cancelKey
    source, actorId, reason
    recordedAt := observedAt }
  match r.cancelIntent with
  | some stored => r.replayCancel stored intent
  | none => r.recordCancel intent expectedVersion

/-- A reservation for a retry needs the pending intent and its spec; a first one has no intent. -/
def ensureOfferRetry (specDigest : Digest) : Result Unit := do
  let lastAttemptId : Str := (r.attempts.getLast?.map (·.id)).getD ""
  raiseIf (r.state = .retryQueued ∧ r.pendingRetryIntent.isNone)
    (.retryNotAllowed r.id lastAttemptId "" "retry_intent_not_pending")
  whenSome r.pendingRetryIntent fun intent => do
    let refused := fun reason =>
      DomainError.retryNotAllowed r.id intent.sourceAttemptId intent.adjudicationId reason
    raiseIf (r.state = .queued) (refused "retry_intent_not_pending")
    raiseIf (specDigest ≠ intent.executionSpecDigest) (refused "retry_spec_mismatch")

/-- Reserve a queued Run for one Worker generation. -/
def offerAssignment (assignmentId : Str) (worker : WorkerGeneration)
    (workerAuthority : WorkerAuthority) (specDigest : Digest) (offeredAt expiresAt : Datetime)
    (expectedVersion : ℤ) : Result Run := do
  r.ensureVersion expectedVersion
  raiseIf ((r.state ≠ .queued ∧ r.state ≠ .retryQueued) ∨ r.assignment.isSome)
    (.assignmentConflict r.id assignmentId "run_not_queued")
  raiseIf (∃ a ∈ r.assignments, a.id = assignmentId)
    (.assignmentConflict r.id assignmentId "assignment_id_reused")
  raiseIf (r.state = .queued ∧ ∃ first ∈ r.assignments.head?, specDigest ≠ first.specDigest)
    (.assignmentConflict r.id assignmentId "spec_digest_mismatch")
  r.ensureOfferRetry specDigest
  let workerRef ← worker.claimableRef workerAuthority
  let assignment ← Assignment.offer assignmentId workerRef specDigest offeredAt expiresAt
    (r.pendingRetryIntent.map (·.id))
  Run.new { r.toFields with
    state := .assigned
    assignments := r.assignments ++ [assignment]
    currentAssignmentId := some assignment.id
    version := r.version + 1 }

/-- Record that the bound Worker generation accepted its offer. -/
def claimAssignment (assignmentId : Str) (worker : WorkerRef) (observedAt : Datetime)
    (expectedVersion : ℤ) : Result Run := do
  r.ensureVersion expectedVersion
  requireUtcCommandTime "observed_at" observedAt
  let mismatch := DomainError.assignmentConflict r.id assignmentId "offer_mismatch"
  raiseIf (r.state ≠ .assigned) mismatch
  let current ← need r.assignment mismatch
  raiseIf (current.id ≠ assignmentId ∨ current.worker ≠ worker ∨ current.state ≠ .offered) mismatch
  raiseIf (¬ (current.offeredAt ≤ observedAt ∧ observedAt < current.expiresAt))
    (.assignmentConflict r.id assignmentId
      (if current.expiresAt ≤ observedAt then "assignment_expired"
        else "assignment_not_effective"))
  let claimed ← current.claim observedAt
  let assignments ← r.replaceCurrentAssignment claimed
  Run.new { r.toFields with
    assignments := assignments
    version := r.version + 1 }

/-- The latest Attempt, when it is the one named and holds the current fence. -/
def currentAttempt (attemptId : Str) : Result Attempt := do
  let notCurrent := DomainError.attemptUnknownReviewRequired r.id attemptId r.currentFence
    "source_attempt_not_current"
  let current ← need r.attempts.getLast? notCurrent
  raiseIf (current.id ≠ attemptId ∨ current.runId ≠ r.id) notCurrent
  raiseIf (current.fence ≠ r.currentFence) (.staleFence current.id r.currentFence current.fence)
  return current

/-- Whether the numbers of an intent name this Run, its source Attempt and the source's spec. -/
def intentMatchesSource (intent : RetryIntent) (source : Attempt) : Prop :=
  intent.runId = r.id ∧ intent.sourceAttemptNo = source.attemptNo ∧
    intent.sourceFence = source.fence ∧ intent.executionSpecDigest = source.specDigest

instance (intent : RetryIntent) (source : Attempt) :
    Decidable (r.intentMatchesSource intent source) := inferInstanceAs (Decidable (_ ∧ _))

def ensureAdjudicationAuthoritative (intent : RetryIntent)
    (authority : UnknownAdjudicationRetryAuthority) (source : Attempt) : Result Unit := do
  let refused := fun adjudicationId reason =>
    DomainError.retryNotAllowed r.id source.id adjudicationId reason
  raiseIf (source.state ≠ .attemptUnknown)
    (refused authority.adjudicationId "source_attempt_not_unknown")
  let current ← need source.adjudications.getLast?
    (refused authority.adjudicationId "adjudication_missing")
  raiseIf (current.id ≠ authority.adjudicationId)
    (refused authority.adjudicationId "adjudication_not_current")
  raiseIf (current.decision.permitsRetry = false)
    (refused current.id "decision_does_not_permit_retry")
  let mismatch := refused current.id "retry_intent_mismatch"
  raiseIf (intent.runId ≠ r.id ∨ intent.sourceAttemptNo ≠ source.attemptNo ∨
    intent.sourceFence ≠ source.fence) mismatch
  let digest ← current.digest
  raiseIf (authority.adjudicationDigest ≠ digest ∨ authority.decision ≠ current.decision ∨
    intent.executionSpecDigest ≠ source.specDigest ∨ intent.createdAt < current.occurredAt) mismatch

def ensureRetryIntentAuthoritative (intent : RetryIntent) (source : Attempt) : Result Unit :=
  match intent.authority with
  | .policy authority =>
    raiseIf (source.state ≠ authority.expectedState ∨ ¬ r.intentMatchesSource intent source)
      (.retryNotAllowed r.id source.id "" "retry_intent_mismatch")
  | .unknownAdjudication authority => r.ensureAdjudicationAuthoritative intent authority source

/-- The provenance of the Attempt about to be committed: none for the first, else the pending
intent, checked again against its source. -/
def commitProvenance (current : Assignment) (specDigest : Digest) :
    Result (Option RetryProvenance) := do
  let pendingId : Str := (r.pendingRetryIntent.map (·.adjudicationId)).getD ""
  match r.attempts.getLast? with
  | none => do
    raiseIf (r.pendingRetryIntent.isSome ∨ current.retryIntentId.isSome)
      (.retryNotAllowed r.id ((r.pendingRetryIntent.map (·.sourceAttemptId)).getD "") pendingId
        "retry_intent_not_pending")
    return none
  | some last => do
    let notPending := DomainError.retryNotAllowed r.id last.id pendingId "retry_intent_not_pending"
    let pending ← need r.pendingRetryIntent notPending
    raiseIf (current.retryIntentId ≠ some pending.id) notPending
    raiseIf (specDigest ≠ pending.executionSpecDigest ∨
      current.specDigest ≠ pending.executionSpecDigest)
      (.retryNotAllowed r.id pending.sourceAttemptId pending.adjudicationId "retry_spec_mismatch")
    let source ← r.currentAttempt pending.sourceAttemptId
    r.ensureRetryIntentAuthoritative pending source
    some <$> RetryProvenance.fromIntent pending

/-- The stored Attempt of a start-commit key is returned while it is live and current. -/
def replayCommit (existing : Attempt) (receivedDigest : Digest) : Result CommitStartResult := do
  let storedDigest ← startCommitDigest existing.assignmentId existing.worker existing.specDigest
  raiseIf (storedDigest ≠ receivedDigest)
    (.idempotencyConflict ("run:" ++ r.id ++ ":start-commit") existing.startCommitKey
      storedDigest.value receivedDigest.value)
  raiseIf (existing.fence ≠ r.currentFence)
    (.staleFence existing.id r.currentFence existing.fence)
  raiseIf (r.state ≠ .running ∨ (¬ ∃ current ∈ r.assignment, current.id = existing.assignmentId ∧
      current.state = .committed) ∨ r.attempts.getLast?.map (·.id) ≠ some existing.id ∨
    existing.state ∉ [AttemptState.startCommitted, .provisioning, .running, .uploading])
    (.assignmentConflict r.id existing.assignmentId "start_commit_superseded")
  return ⟨r, existing, existing.fence, true⟩

def commitClaimed (assignmentId : Str) (worker : WorkerRef) (startCommitKey : Str)
    (specDigest : Digest) (newAttemptId : Str) (observedAt : Datetime) (expectedVersion : ℤ) :
    Result CommitStartResult := do
  r.ensureVersion expectedVersion
  requireUtcCommandTime "observed_at" observedAt
  let notClaimed := DomainError.assignmentConflict r.id assignmentId "assignment_not_claimed"
  raiseIf (r.state ≠ .assigned) notClaimed
  let current ← need r.assignment notClaimed
  raiseIf (current.id ≠ assignmentId ∨ current.worker ≠ worker ∨
    current.specDigest ≠ specDigest ∨ current.state ≠ .claimed) notClaimed
  let claimedAt ← need current.claimedAt (.crash .typeError)
  raiseIf (¬ (claimedAt ≤ observedAt ∧ observedAt < current.expiresAt))
    (.assignmentConflict r.id assignmentId
      (if current.expiresAt ≤ observedAt then "assignment_expired" else "commit_before_claim"))
  raiseIf (∃ a ∈ r.attempts, a.id = newAttemptId)
    (.attemptConflict r.id newAttemptId "attempt_id_reused")
  let retryProvenance ← r.commitProvenance current specDigest
  let fence := r.currentFence + 1
  let attempt ← Attempt.create newAttemptId r.id (r.attempts.length + 1) fence assignmentId worker
    specDigest startCommitKey retryProvenance
  let committed ← current.commit observedAt
  let assignments ← r.replaceCurrentAssignment committed
  let run ← Run.new { r.toFields with
    state := .running
    version := r.version + 1
    currentFence := fence
    assignments := assignments
    attempts := r.attempts ++ [attempt]
    pendingRetryIntentId := none }
  return ⟨run, attempt, fence, false⟩

def attemptByKey (startCommitKey : Str) : Option Attempt :=
  r.attempts.find? fun a => a.startCommitKey = startCommitKey

/-- Create the next durable Attempt and fence for a claimed Assignment. -/
def commitStart (assignmentId : Str) (worker : WorkerRef) (startCommitKey : Str)
    (specDigest : Digest) (newAttemptId : Str) (observedAt : Datetime) (expectedVersion : ℤ) :
    Result CommitStartResult := do
  let receivedDigest ← startCommitDigest assignmentId worker specDigest
  match r.attemptByKey startCommitKey with
  | some existing => r.replayCommit existing receivedDigest
  | none =>
    r.commitClaimed assignmentId worker startCommitKey specDigest newAttemptId observedAt
      expectedVersion

/-- A closure with the same key must carry the same caller content; another key is refused. -/
def replayClosure (stored closure : AssignmentClosure) : Result Run := do
  raiseIf (stored.idempotencyKey ≠ closure.idempotencyKey)
    (.assignmentConflict r.id closure.assignmentId "assignment_already_closed")
  let storedDigest ← stored.requestDigest
  let receivedDigest ← closure.requestDigest
  raiseIf (storedDigest ≠ receivedDigest)
    (.idempotencyConflict
      ("run:" ++ r.id ++ ":assignment:" ++ closure.assignmentId ++ ":precommit-closure")
      closure.idempotencyKey storedDigest.value receivedDigest.value)
  return r

/-- When an open reservation may be closed for the given reason. -/
def ensureClosable (current : Assignment) (closure : AssignmentClosure) : Result Unit :=
  let conflict := fun reason => DomainError.assignmentConflict r.id closure.assignmentId reason
  if closure.kind = .expiredPrestart then
    raiseIf (closure.recordedAt < current.expiresAt) (conflict "assignment_not_expired")
  else do
    raiseIf (closure.worker ≠ some current.worker) (conflict "worker_mismatch")
    raiseIf (closure.recordedAt < current.claimedAt.getD current.offeredAt)
      (conflict (if current.claimedAt.isSome then "release_before_claim"
        else "assignment_not_effective"))
    raiseIf (current.expiresAt ≤ closure.recordedAt) (conflict "assignment_expired")

def closeOpen (closure : AssignmentClosure) (expectedVersion : ℤ) : Result Run := do
  r.ensureVersion expectedVersion
  let notPrecommit := DomainError.assignmentConflict r.id closure.assignmentId
    "assignment_not_precommit"
  raiseIf (r.state ≠ .assigned) notPrecommit
  let current ← need r.assignment notPrecommit
  raiseIf (current.id ≠ closure.assignmentId ∨
    (current.state ≠ .offered ∧ current.state ≠ .claimed)) notPrecommit
  r.ensureClosable current closure
  let closed ← current.closePrestart closure
  let assignments ← r.replaceCurrentAssignment closed
  Run.new { r.toFields with
    state := if current.retryIntentId.isSome then .retryQueued else .queued
    assignments := assignments
    currentAssignmentId := none
    version := r.version + 1 }

def closePrecommitAssignment (closure : AssignmentClosure) (expectedVersion : ℤ) : Result Run :=
  match (r.assignmentById closure.assignmentId).bind (·.closure) with
  | some stored => r.replayClosure stored closure
  | none => r.closeOpen closure expectedVersion

/-- The instant an expiry takes effect: no later than the end of the reservation. -/
def expiryEffectiveAt (assignmentId : Str) (observedAt : Datetime) : Datetime :=
  match r.assignmentById assignmentId with
  | some existing => observedAt.earlier existing.expiresAt
  | none => observedAt

/-- Close an uncommitted reservation after its frozen TTL boundary. -/
def expirePrecommitAssignment (assignmentId expiryKey : Str) (observedAt : Datetime)
    (expectedVersion : ℤ) : Result Run := do
  requireUtcCommandTime "observed_at" observedAt
  let closure ← AssignmentClosure.new {
    assignmentId := assignmentId
    idempotencyKey := expiryKey
    kind := .expiredPrestart
    effectiveAt := r.expiryEffectiveAt assignmentId observedAt
    recordedAt := observedAt
    worker := none }
  r.closePrecommitAssignment closure expectedVersion

/-- Let the bound Worker release an offer before its TTL boundary. -/
def releasePrecommitAssignment (assignmentId : Str) (worker : WorkerRef) (releaseKey : Str)
    (observedAt : Datetime) (expectedVersion : ℤ) : Result Run := do
  requireUtcCommandTime "observed_at" observedAt
  let closure ← AssignmentClosure.new {
    assignmentId := assignmentId
    idempotencyKey := releaseKey
    kind := .releasedPrestart
    effectiveAt := observedAt
    recordedAt := observedAt
    worker := some worker }
  r.closePrecommitAssignment closure expectedVersion

/-- The Run with its latest Attempt replaced. -/
def amendLatest (updated : Attempt) (expectedVersion : ℤ) : Result Run := do
  r.ensureVersion expectedVersion
  Run.new { r.toFields with
    attempts := r.attempts.dropLast ++ [updated]
    version := r.version + 1 }

/-- Record unknown on the Run-owned latest Attempt snapshot. -/
def markCurrentAttemptUnknown (attemptId : Str) (observation : UnknownObservation)
    (expectedVersion expectedAttemptVersion : ℤ) : Result Run := do
  let current ← r.currentAttempt attemptId
  let authority ← AttemptAuthority.new {
    currentFence := r.currentFence
    currentWorker := current.worker }
  let unknown ← current.markUnknown observation authority expectedAttemptVersion
  if unknown = current then
    return r
  r.amendLatest unknown expectedVersion

/-- Advance the Run-owned current Attempt through one execution phase. -/
def transitionCurrentAttempt (attemptId : Str) (target : AttemptState)
    (expectedVersion expectedAttemptVersion : ℤ) : Result Run := do
  let current ← r.currentAttempt attemptId
  let updated ← current.transition target expectedAttemptVersion
  r.amendLatest updated expectedVersion

/-- Append an event to the Run-owned current Attempt snapshot. -/
def recordCurrentAttemptEvent (attemptId : Str) (event : AttemptEvent)
    (authority : AttemptAuthority) (worker : WorkerRef) (fence : ℤ)
    (expectedVersion expectedAttemptVersion : ℤ) : Result Run := do
  let current ← r.currentAttempt attemptId
  let updated ← current.recordEvent event authority worker fence expectedAttemptVersion
  if updated = current then
    return r
  r.amendLatest updated expectedVersion

/-- Finalize normal evidence on the Run-owned current Attempt snapshot. -/
def finalizeCurrentAttemptEvidence (attemptId : Str) (report : EvidenceReport)
    (expectedVersion expectedAttemptVersion : ℤ) : Result FinalizeAttemptResult := do
  let current ← r.currentAttempt attemptId
  let finalized ← current.finalizeEvidence report expectedAttemptVersion
  if finalized.replayed = true then
    return ⟨r, current, finalized.evidence, true⟩
  let updated ← r.amendLatest finalized.attempt expectedVersion
  return ⟨updated, finalized.attempt, finalized.evidence, false⟩

/-- Converge an unproven postcommit cancellation to intent-bound unknown. -/
def markCancelStopUnproven (attemptId observationId : Str) (recordedAt : Datetime)
    (expectedVersion expectedAttemptVersion : ℤ) : Result Run := do
  let intent ← need r.cancelIntent
    (invalidRun "cancel_intent" "required_for_cancel_convergence")
  requireUtcCommandTime "recorded_at" recordedAt
  invalidRunIf (recordedAt < intent.recordedAt) "recorded_at" "before_cancel_intent"
  let reviewBasisDigest ← intent.digest
  let observation ← UnknownObservation.new {
    id := observationId
    reason := .cancelStopUnproven
    source := .cancelConvergence
    reviewBasisDigest, recordedAt }
  r.markCurrentAttemptUnknown attemptId observation expectedVersion expectedAttemptVersion

/-- Finalize a cancelled Attempt and its Run from one intent-bound stop proof. -/
def finalizeCancelledAttemptEvidence (attemptId : Str) (report : EvidenceReport)
    (cancellationStop : TrustedCancellationStop) (expectedVersion expectedAttemptVersion : ℤ) :
    Result FinalizeAttemptResult := do
  let intent ← need r.cancelIntent (.evidenceNotReady "cancellation intent is missing")
  let digest ← intent.digest
  notReadyIf (cancellationStop.cancellationIntentDigest ≠ digest)
    "cancellation stop proof does not match intent"
  notReadyIf (cancellationStop.firstStop < intent.recordedAt)
    "cancellation stop proof predates the intent"
  let current ← r.currentAttempt attemptId
  let finalized ← current.finalizeCancellationEvidence report cancellationStop
    expectedAttemptVersion
  if let some stored := r.cancellationStop then
    if r.state = .cancelled ∧ stored = cancellationStop ∧ finalized.replayed = true then
      return ⟨r, current, finalized.evidence, true⟩
    throw (.evidenceNotReady "run cancellation is already converged")
  r.ensureVersion expectedVersion
  raiseIf (r.state ≠ .running) (r.invalidTransition .cancelled expectedVersion)
  let converged ← Run.new { r.toFields with
    state := .cancelled
    version := r.version + 1
    currentAssignmentId := none
    attempts := r.attempts.dropLast ++ [finalized.attempt]
    cancellationStop := some cancellationStop }
  return ⟨converged, finalized.attempt, finalized.evidence, false⟩

/-- A stored intent with the same id must carry the same digest. -/
def replayRetry (existing intent : RetryIntent) : Result Run := do
  let storedDigest ← existing.digest
  let receivedDigest ← intent.digest
  raiseIf (storedDigest ≠ receivedDigest)
    (.idempotencyConflict ("run:" ++ r.id ++ ":retry-intent") intent.id storedDigest.value
      receivedDigest.value)
  return r

/-- The Run with a retry intent pending. -/
def queueIntent (intent : RetryIntent) (expectedVersion : ℤ) : Result Run := do
  r.ensureVersion expectedVersion
  Run.new { r.toFields with
    state := .retryQueued
    version := r.version + 1
    currentAssignmentId := none
    retryIntents := r.retryIntents ++ [intent]
    pendingRetryIntentId := some intent.id }

/-- Persist one chain-tail adjudication as a non-executing retry intent. -/
def queueAdjudicatedRetry (intent : RetryIntent) (expectedVersion : ℤ) : Result Run :=
  match r.retryIntentById intent.id with
  | some existing => r.replayRetry existing intent
  | none => do
    let source ← r.currentAttempt intent.sourceAttemptId
    r.ensureRetryIntentAuthoritative intent source
    let refused := fun reason =>
      DomainError.retryNotAllowed r.id source.id intent.adjudicationId reason
    raiseIf r.cancelIntent.isSome (refused "cancel_requested")
    raiseIf (r.state ≠ .running ∨ r.pendingRetryIntent.isSome) (refused "retry_already_queued")
    raiseIf (¬ ∃ current ∈ r.assignment, current.state = .committed)
      (refused "source_assignment_not_committed")
    r.queueIntent intent expectedVersion

/-- The decision is about the source fact of this very Run version, made under the authority the
intent carries. -/
def decisionMatches (intent : RetryIntent) (authority : PolicyRetryAuthority)
    (decision : RunRetryDecision) (source : Attempt) : Prop :=
  let fact := decision.source
  source.state = authority.expectedState ∧ fact.runId = r.id ∧ fact.runVersion = r.version ∧
    fact.attemptId = source.id ∧ fact.attemptNo = source.attemptNo ∧
    fact.attemptFence = source.fence ∧ fact.outcome = authority.sourceOutcome ∧
    fact.itemResolutionSetDigest = authority.itemResolutionSetDigest ∧
    fact.sourceItemSetDigest = authority.sourceItemSetDigest ∧
    fact.targetItemSetDigest = authority.targetItemSetDigest ∧
    decision.decisionSourceKind = authority.decisionSourceKind ∧
    decision.policyDigest = some authority.policyDigest ∧
    decision.authoritySchema = some authority.authoritySchema ∧
    decision.authorityId = some authority.authorityId ∧
    decision.authorityVersion = some authority.authorityVersion ∧
    decision.authorityDigest = some authority.authorityDigest ∧
    r.intentMatchesSource intent source

instance (intent : RetryIntent) (authority : PolicyRetryAuthority) (decision : RunRetryDecision)
    (source : Attempt) : Decidable (r.decisionMatches intent authority decision source) :=
  inferInstanceAs (Decidable (_ ∧ _))

def ensurePolicyRetryIntentAuthoritative (intent : RetryIntent) (decision : RunRetryDecision)
    (source : Attempt) : Result Unit :=
  match intent.authority with
  | .unknownAdjudication _ =>
    throw (.retryNotAllowed r.id source.id "" "policy_authority_required")
  | .policy authority => do
    let mismatch := DomainError.retryNotAllowed r.id source.id "" "retry_intent_mismatch"
    raiseIf (decision.decision ≠ .retry) mismatch
    let digest ← intent.digest
    raiseIf (decision.retryIntentDigest ≠ some digest ∨
      ¬ r.decisionMatches intent authority decision source) mismatch

/-- Persist a policy-authorized full-Run retry in the shared intent chain. -/
def queuePolicyRetry (intent : RetryIntent) (decision : RunRetryDecision) (expectedVersion : ℤ) :
    Result Run :=
  match r.retryIntentById intent.id with
  | some existing => r.replayRetry existing intent
  | none => do
    let source ← r.currentAttempt intent.sourceAttemptId
    let refused := fun reason => DomainError.retryNotAllowed r.id source.id "" reason
    raiseIf r.cancelIntent.isSome (refused "cancel_requested")
    raiseIf (r.state ≠ .running ∨ r.pendingRetryIntent.isSome) (refused "retry_already_queued")
    r.ensurePolicyRetryIntentAuthoritative intent decision source
    r.queueIntent intent expectedVersion

/-- Append adjudication to the Run-owned latest unknown snapshot. -/
def appendCurrentUnknownAdjudication (attemptId : Str) (adjudication : UnknownAdjudication)
    (expectedVersion expectedAttemptVersion : ℤ) : Result Run := do
  let current ← r.currentAttempt attemptId
  let adjudicated ← current.appendUnknownAdjudication adjudication expectedAttemptVersion
  if adjudicated = current then
    return r
  raiseIf (r.pendingRetryIntent.isSome ∨ r.state ≠ .running)
    (.retryNotAllowed r.id attemptId adjudication.id "retry_already_queued")
  r.amendLatest adjudicated expectedVersion

end Run
end QaRunner
