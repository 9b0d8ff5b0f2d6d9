import QaRunner.Domain.Run
import QaRunner.Lib.Conditions

/-! The checks of a Run with each access of theirs that nothing at its own place guards: indexing,
attributes of values that may be missing, lookups without default, and comparisons of instants. -/
namespace QaRunner
open Guarded

namespace Run.Rehydration

/-- `xs[i]`; a negative position counts from the end. -/
def item {α : Type} (xs : List α) (i : ℤ) : Result α :=
  let place := if i < 0 then i + xs.length else i
  need (if place < 0 then none else xs[place.toNat]?) (.crash .indexError)

/-- The value an attribute is read of. -/
def attributeOf {α : Type} (value : Option α) : Result α := need value (.crash .attributeError)

/-- The value a dictionary is subscripted for. -/
def entry {α : Type} (found : Option α) : Result α := need found (.crash .keyError)

/-- `next` without a default. -/
def nextOf {α : Type} (found : Option α) : Result α := need found (.crash .stopIteration)

/-- `a < b` of two instants: neither may be missing, and either both are naive or none of them. -/
def isBefore (a b : Option Datetime) : Result Bool := do
  let a ← need a (.crash .typeError)
  let b ← need b (.crash .typeError)
  match a.utcoffset, b.utcoffset with
  | none, none => test (a.micros < b.micros)
  | some offset, some offset' => test (a.micros - offset < b.micros - offset')
  | _, _ => throw (.crash .typeError)

/-- `min(a, b)` -/
def firstOf (a b : Datetime) : Result Datetime := do
  let later ← isBefore (some b) (some a)
  return if later then b else a

/-- What `except (AttributeError, TypeError, ValueError)` catches. -/
def caught : DomainError → Bool
  | .crash .attributeError => true
  | .crash .typeError => true
  | .crash _ => false
  | _ => true

def exceptCaught {α : Type} (x : Result α) (e : DomainError) : Result α :=
  match x with
  | .ok a => .ok a
  | .error e' => .error (if caught e' then e else e')

/-- A pointer names one of the elements, and the last one. -/
def validatePointer {α : Type} (field : String) (pointer : Option Str) (key : α → Str)
    (xs : List α) : Result Unit :=
  whenSome pointer fun current => do
    invalidRunIf (current ∉ xs.map key) field "not_found"
    raiseWhen (anyOf [test (xs = []), do test (key (← item xs (-1)) ≠ current)])
      (invalidRun field "not_latest")

variable (r : Run.Fields)

def validateRetryChain (index : ℕ) (attempt : Attempt) (assignment : Assignment) :
    Result Unit := do
  invalidRunIf attempt.retryProvenance.isNone "attempts" "retry_provenance_missing"
  let provenance ← attributeOf attempt.retryProvenance
  let intent := r.retryIntentById provenance.retryIntentId
  let source := r.attemptById provenance.sourceAttemptId
  let previous ← item r.attempts (index - 2)
  raiseWhen (anyOf [
    test intent.isNone,
    test source.isNone,
    do test ((← attributeOf source).id ≠ previous.id),
    do test (assignment.retryIntentId ≠ some (← attributeOf intent).id),
    do test (attempt.specDigest ≠ (← attributeOf intent).executionSpecDigest),
    do test ((← attributeOf intent).sourceAttemptNo ≠ (← attributeOf source).attemptNo),
    do test ((← attributeOf intent).sourceFence ≠ (← attributeOf source).fence),
    do test (provenance.retryIntentDigest ≠ (← (← attributeOf intent).digest)),
    do test (provenance.sourceAttemptNo ≠ (← attributeOf intent).sourceAttemptNo),
    do test (provenance.sourceFence ≠ (← attributeOf intent).sourceFence),
    do test (provenance.authority ≠ (← attributeOf intent).authority)])
    (invalidRun "attempts" "retry_provenance_mismatch")

def validateAttempt (index : ℕ) (attempt : Attempt) : Result Unit := do
  invalidRunIf (attempt.runId ≠ r.id) "attempts" "run_mismatch"
  invalidRunIf (attempt.attemptNo ≠ index) "attempts" "attempt_no_not_contiguous"
  invalidRunIf (attempt.fence ≠ index) "attempts" "attempt_fence_not_contiguous"
  let found := r.assignmentById attempt.assignmentId
  invalidRunIf found.isNone "attempts" "assignment_missing"
  let assignment ← attributeOf found
  invalidRunIf (assignment.state ≠ .committed ∨ assignment.worker ≠ attempt.worker ∨
    assignment.specDigest ≠ attempt.specDigest) "attempts" "assignment_mismatch"
  raiseWhen (allOf [test attempt.unknownObservation.isSome, test assignment.committedAt.isSome,
    do let observation ← attributeOf attempt.unknownObservation
       isBefore (some observation.recordedAt) assignment.committedAt])
    (invalidRun "attempts" "unknown_before_assignment_commit")
  if index = 1 then
    invalidRunIf assignment.retryIntentId.isSome "assignments" "retry_intent_mismatch"
  else
    validateRetryChain r index attempt assignment

def validateAttempts : Result Unit :=
  each (r.attempts.zipIdx 1) fun a => validateAttempt r a.2 a.1

def validateIntentAuthority (intent : RetryIntent) (source : Attempt) : Result Unit :=
  match intent.authority with
  | .unknownAdjudication authority => do
    let adjudication ← if source.adjudications ≠ [] then
      some <$> item source.adjudications (-1) else pure none
    raiseWhen (anyOf [
      test adjudication.isNone,
      do test (authority.adjudicationId ≠ (← attributeOf adjudication).id),
      do test (authority.adjudicationDigest ≠ (← (← attributeOf adjudication).digest)),
      do test (authority.decision ≠ (← attributeOf adjudication).decision),
      do test ((← attributeOf adjudication).decision.permitsRetry = false),
      do isBefore (some intent.createdAt) (some (← attributeOf adjudication).occurredAt)])
      (invalidRun "retry_intents" "adjudication_not_authoritative")
  | .policy authority =>
    invalidRunIf (source.state ≠ authority.expectedState) "retry_intents" "policy_not_authoritative"

def validateRetryIntent (intent : RetryIntent) : Result Unit := do
  let found := r.attemptById intent.sourceAttemptId
  invalidRunIf (found.isNone ∨ intent.runId ≠ r.id) "retry_intents" "source_mismatch"
  let source ← attributeOf found
  invalidRunIf (intent.sourceAttemptNo ≠ source.attemptNo ∨ intent.sourceFence ≠ source.fence ∨
    intent.executionSpecDigest ≠ source.specDigest) "retry_intents" "source_mismatch"
  validateIntentAuthority intent source

/-- The position an intent has among all of them, counted from one. -/
def retryIntentEpoch (intentId : Str) : Option ℕ :=
  (r.retryIntents.findIdx? fun i => i.id = intentId).map (· + 1)

def assignmentEpoch (assignment : Assignment) : Result ℕ :=
  match assignment.retryIntentId with
  | none => return 0
  | some intentId => do
    let intent := r.retryIntentById intentId
    raiseWhen (anyOf [test intent.isNone,
      do test (assignment.specDigest ≠ (← attributeOf intent).executionSpecDigest)])
      (invalidRun "assignments" "retry_intent_mismatch")
    raiseWhen (do isBefore (some assignment.offeredAt) (some (← attributeOf intent).createdAt))
      (invalidRun "assignments" "offered_before_retry_intent")
    entry (retryIntentEpoch r (← attributeOf intent).id)

def assignmentEpochs : Result (List ℕ) :=
  collect r.assignments fun assignment => do
    let epoch ← assignmentEpoch r assignment
    r.validateAssignmentState assignment
    return epoch

def validateTimeline (previousClosedAt : Option Datetime) : List Assignment → Result Unit
  | [] => .ok ()
  | assignment :: assignments => do
    raiseWhen (allOf [test previousClosedAt.isSome,
      isBefore (some assignment.offeredAt) previousClosedAt])
      (invalidRun "assignments" "timeline_not_monotonic")
    let closedAt ← if assignment.closure.isSome then do
      pure (some (← attributeOf assignment.closure).recordedAt) else pure assignment.committedAt
    validateTimeline closedAt assignments

def expectedFence : Result ℤ :=
  if r.attempts ≠ [] then (·.fence) <$> item r.attempts (-1) else return 0

def validateNormalizedHistory : Result Unit := do
  invalidRunIf (¬ (r.assignments.map (·.id)).Nodup) "assignments" "duplicate_id"
  validatePointer "current_assignment_id" r.currentAssignmentId (·.id) r.assignments
  invalidRunIf (¬ (r.retryIntents.map (·.id)).Nodup) "retry_intents" "duplicate_id"
  validatePointer "pending_retry_intent_id" r.pendingRetryIntentId (·.id) r.retryIntents
  invalidRunIf (¬ (r.attempts.map (·.id)).Nodup) "attempts" "duplicate_id"
  invalidRunIf (¬ (r.attempts.map (·.startCommitKey)).Nodup) "attempts" "duplicate_start_commit_key"
  validateAttempts r
  let expected ← expectedFence r
  invalidRunIf (r.currentFence ≠ expected) "current_fence" "attempt_fence_mismatch"
  raiseWhen (allOf [test r.pendingRetryIntent.isSome, anyOf [test (r.attempts = []),
    do test ((← attributeOf r.pendingRetryIntent).sourceAttemptId ≠ (← item r.attempts (-1)).id)]])
    (invalidRun "pending_retry_intent_id" "source_attempt_not_current")
  invalidRunIf (¬ (r.retryIntents.map fun i => (i.sourceAttemptId, i.authority)).Nodup)
    "retry_intents" "duplicate_authority"
  each r.retryIntents (validateRetryIntent r)
  let epochs ← assignmentEpochs r
  raiseWhen (allOf [test (r.assignments ≠ []), anyOf (r.assignments.tail.map fun assignment => do
    test (assignment.specDigest ≠ (← item r.assignments 0).specDigest))])
    (invalidRun "assignments" "spec_digest_mismatch")
  invalidRunIf (r.committedAssignmentIds ≠ r.attempts.map (·.assignmentId)) "assignments"
    "attempt_order_mismatch"
  invalidRunIf (epochs ≠ Sorting.sortOn (fun epoch => epoch) epochs) "assignments"
    "retry_intent_order_mismatch"
  validateTimeline none r.assignments

def validateCancelIntentCausality : Result Unit :=
  whenSome r.cancelIntent fun intent => do
    let latestCommitted := r.assignments.reverse.find? (·.committedAt.isSome)
    raiseWhen (allOf [test latestCommitted.isSome,
      do isBefore (some intent.recordedAt) (← attributeOf latestCommitted).committedAt])
      (invalidRun "cancel_intent" "before_current_attempt_commit")
    raiseWhen (allOf [test r.latestClosure.isSome,
      do isBefore (some intent.recordedAt) (some (← attributeOf r.latestClosure).recordedAt)])
      (invalidRun "cancel_intent" "before_latest_assignment_closure")
    raiseWhen (allOf [test r.pendingRetryIntent.isSome,
      do isBefore (some intent.recordedAt) (some (← attributeOf r.pendingRetryIntent).createdAt)])
      (invalidRun "cancel_intent" "before_pending_retry_intent")

def validateCancellationHistory : Result Unit := do
  let cancelled := positions (fun a : Assignment => a.state = .cancelledPrestart) r.assignments
  whenever (cancelled ≠ []) do
    raiseWhen (anyOf [test (cancelled.length ≠ 1),
      do test (((← item cancelled 0) : ℤ) ≠ r.assignments.length - 1),
      test (r.state ≠ .cancelled), test r.cancelIntent.isNone])
      (invalidRun "assignments" "cancelled_prestart_not_terminal")
    let closure := (← item r.assignments (-1)).closure
    invalidRunIf closure.isNone "assignments" "cancellation_closure_missing"
    raiseWhen (anyOf [
      do test ((← attributeOf closure).cancellationIntentDigest ≠
        some (← (← attributeOf r.cancelIntent).digest)),
      do test ((← attributeOf closure).idempotencyKey ≠
        (← attributeOf r.cancelIntent).idempotencyKey),
      do test ((← attributeOf closure).effectiveAt ≠ (← attributeOf r.cancelIntent).recordedAt),
      do test ((← attributeOf closure).recordedAt ≠ (← attributeOf r.cancelIntent).recordedAt)])
      (invalidRun "assignments" "cancellation_intent_mismatch")

def validateConvergence : Result Unit := do
  invalidRunIf r.cancellationStop.isNone "cancellation_stop" "required_for_postcommit_cancelled"
  let latest ← item r.attempts (-1)
  raiseWhen (anyOf [
    test (latest.state ≠ .cancelled),
    test latest.evidence.isNone,
    do test ((← attributeOf latest.evidence).outcome ≠ .cancelled),
    do test ((← attributeOf latest.evidence).cancellationStop ≠ r.cancellationStop)])
    (invalidRun "cancellation_stop" "attempt_evidence_mismatch")
  raiseWhen (anyOf [
    do test ((← attributeOf r.cancellationStop).runId ≠ r.id),
    do test ((← attributeOf r.cancellationStop).attemptId ≠ latest.id),
    do test ((← attributeOf r.cancellationStop).fence ≠ latest.fence),
    do test ((← attributeOf r.cancellationStop).fence ≠ r.currentFence),
    do test ((← attributeOf r.cancellationStop).worker ≠ latest.worker),
    do test ((← attributeOf r.cancellationStop).cancellationIntentDigest ≠
      (← (← attributeOf r.cancelIntent).digest)),
    do let stop ← attributeOf r.cancellationStop
       isBefore (some (← firstOf stop.processStoppedAt stop.sutAccessStoppedAt))
         (some (← attributeOf r.cancelIntent).recordedAt)])
    (invalidRun "cancellation_stop" "binding_mismatch")
  let rebuilt ← exceptCaught
    (do Run.Fields.rebuildEvidence latest (← attributeOf latest.evidence) r.cancellationStop)
    (invalidRun "cancellation_stop" "evidence_root_mismatch")
  invalidRunIf (some rebuilt ≠ latest.evidence) "cancellation_stop" "evidence_root_mismatch"

def validateCancelled : Result Unit := do
  invalidRunIf r.assignment.isSome "current_assignment_id" "must_be_clear_for_cancelled"
  invalidRunIf r.cancelIntent.isNone "cancel_intent" "required_for_cancelled"
  if r.attempts ≠ [] ∧ r.pendingRetryIntent.isNone then
    validateConvergence r
  else
    invalidRunIf r.cancellationStop.isSome "cancellation_stop" "forbidden_without_cancelled_attempt"

def validateAssigned : Result Unit := do
  raiseWhen (anyOf [test r.assignment.isNone,
    do let current ← attributeOf r.assignment
       test (current.state ≠ .offered ∧ current.state ≠ .claimed)])
    (invalidRun "current_assignment_id" "active_assignment_required")
  whenever (r.attempts ≠ []) do
    invalidRunIf r.pendingRetryIntent.isNone "pending_retry_intent_id"
      "required_for_retry_assignment"
    raiseWhen (do test ((← attributeOf r.assignment).retryIntentId ≠
      some (← attributeOf r.pendingRetryIntent).id))
      (invalidRun "current_assignment_id" "retry_intent_mismatch")

def validateRunning : Result Unit := do
  raiseWhen (anyOf [test r.assignment.isNone,
    do test ((← attributeOf r.assignment).state ≠ .committed)])
    (invalidRun "current_assignment_id" "committed_assignment_required")
  invalidRunIf r.pendingRetryIntent.isSome "pending_retry_intent_id" "must_be_consumed_for_running"

def validateState : Result Unit :=
  match r.state with
  | .planned | .queued | .retryQueued => r.validateState
  | .assigned => validateAssigned r
  | .cancelled => validateCancelled r
  | .running => validateRunning r

def validateEvidenceSnapshot (attempt : Attempt) : Result Unit :=
  whenSome attempt.evidence fun evidence => do
    let rebuilt ← exceptCaught
      (Run.Fields.rebuildEvidence attempt evidence evidence.cancellationStop)
      (invalidRun "attempts" "evidence_root_mismatch")
    invalidRunIf (rebuilt ≠ evidence) "attempts" "evidence_root_mismatch"
    invalidRunIf (attempt.state ≠ evidence.outcome.attemptState) "attempts"
      "evidence_state_mismatch"

def validateStatePointers : Result Unit := do
  validateState r
  each r.attempts validateEvidenceSnapshot
  whenever (r.attempts ≠ []) do
    let latest ← item r.attempts (-1)
    let hasCancelledOutcome ← anyOf [test (latest.state = .cancelled),
      allOf [test latest.evidence.isSome,
        do test ((← attributeOf latest.evidence).outcome = .cancelled)]]
    invalidRunIf (hasCancelledOutcome = true ∧ ¬ (r.state = .cancelled ∧
      r.pendingRetryIntent.isNone ∧ r.cancellationStop.isSome)) "attempts"
      "cancelled_attempt_requires_converged_run"
  invalidRunIf (r.state ≠ .cancelled ∧ r.cancellationStop.isSome) "cancellation_stop"
    "only_allowed_for_cancelled"
  invalidRunIf (r.cancelIntent.isSome ∧ r.state ≠ .running ∧ r.state ≠ .cancelled) "cancel_intent"
    "not_allowed_for_state"

def validateEpochTail (attemptIndex : ℕ) (attempt : Attempt) : Result Unit := do
  let retryIntentId ← if attemptIndex = 0 then pure none else do
    pure (some (← item r.retryIntents (attemptIndex - 1)).id)
  let group := positions (fun a : Assignment => a.retryIntentId = retryIntentId) r.assignments
  let committed ← nextOf (r.assignments.findIdx? fun a => a.id = attempt.assignmentId)
  raiseWhen (anyOf [test (group = []), do test (committed ≠ (← item group (-1)))])
    (invalidRun "assignments" "committed_assignment_not_epoch_tail")

def validateAssignmentEpochTails : Result Unit :=
  each r.attempts.zipIdx fun a => validateEpochTail r a.2 a.1

def postInit : Result Unit := do
  invalidRunIf (isBlank r.id) "id" "invalid"
  invalidRunIf (r.version < 0) "version" "invalid"
  invalidRunIf (r.currentFence < 0) "current_fence" "invalid"
  each [("current_assignment_id", r.currentAssignmentId),
    ("pending_retry_intent_id", r.pendingRetryIntentId)] fun f =>
    invalidRunIf (∃ value ∈ f.2, isBlank value) f.1 "invalid"
  invalidRunIf (∃ intent ∈ r.cancelIntent, intent.runId ≠ r.id) "cancel_intent" "run_mismatch"
  validateNormalizedHistory r
  validateCancelIntentCausality r
  validateCancellationHistory r
  validateStatePointers r
  validateAssignmentEpochTails r
  r.validateRetryIntentConsumption

end Run.Rehydration

end QaRunner
