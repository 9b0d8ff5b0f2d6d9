import QaRunner.Domain.Assignment
import QaRunner.Domain.Attempt

/-! The Run aggregate and the checks every Run value passes. -/
namespace QaRunner
open Guarded

inductive RunState where
  | planned
  | queued
  | assigned
  | running
  | retryQueued
  | cancelled
  deriving DecidableEq, Repr

def RunState.value : RunState → String
  | .planned => "planned"
  | .queued => "queued"
  | .assigned => "assigned"
  | .running => "running"
  | .retryQueued => "retry_queued"
  | .cancelled => "cancelled"

def RunState.allowedTransitions : RunState → List RunState
  | .planned => [.queued]
  | _ => []

structure Run.Fields where
  id : Str
  state : RunState
  version : ℤ
  currentFence : ℤ
  assignments : List Assignment
  currentAssignmentId : Option Str
  attempts : List Attempt
  retryIntents : List RetryIntent
  pendingRetryIntentId : Option Str
  cancelIntent : Option CancellationIntent := none
  cancellationStop : Option TrustedCancellationStop := none
  deriving DecidableEq

def invalidRun (field reason : String) : DomainError := .domainValidation "run" field reason

def invalidRunIf (c : Prop) [Decidable c] (field reason : String) : Result Unit :=
  raiseIf c (invalidRun field reason)

theorem invalidRunIf_eq_ok {c : Prop} [Decidable c] {field reason : String} {u : Unit} :
    invalidRunIf c field reason = .ok u ↔ ¬ c := raiseIf_eq_ok

/-- The attempt state a policy authority with this source outcome retries. -/
def PolicyRetryAuthority.expectedState (a : PolicyRetryAuthority) : AttemptState :=
  if a.sourceOutcome.value = "test_failed" then .testFailed else .infraFailed

/-- The positions of the elements that satisfy a predicate, in order. -/
def positions {α : Type} (p : α → Prop) [DecidablePred p] (xs : List α) : List ℕ :=
  (xs.zipIdx.filter fun x => p x.1).map (·.2)

namespace Run.Fields

variable (r : Run.Fields)

/-- The current reservation while historical Assignments are retained. -/
def assignment : Option Assignment :=
  match r.currentAssignmentId with
  | some current => r.assignments.reverse.find? fun a => a.id = current
  | none => none

/-- The unconsumed retry intent, if any. -/
def pendingRetryIntent : Option RetryIntent :=
  match r.pendingRetryIntentId with
  | some pending => r.retryIntents.reverse.find? fun i => i.id = pending
  | none => none

def assignmentById (assignmentId : Str) : Option Assignment :=
  r.assignments.find? fun a => a.id = assignmentId

def attemptById (attemptId : Str) : Option Attempt :=
  r.attempts.find? fun a => a.id = attemptId

def retryIntentById (intentId : Str) : Option RetryIntent :=
  r.retryIntents.find? fun i => i.id = intentId

/-- The closure of the latest closed reservation. -/
def latestClosure : Option AssignmentClosure := r.assignments.reverse.findSome? (·.closure)

/-- The commit instant of the latest committed reservation. -/
def latestCommittedAt : Option Datetime := r.assignments.reverse.findSome? (·.committedAt)

/-- A retry attempt consumed an intent whose source is the attempt before it. -/
def validateRetryChain (attempt : Attempt) (assignment : Assignment) (previous : Option Attempt) :
    Result Unit := do
  let mismatch := invalidRun "attempts" "retry_provenance_mismatch"
  let provenance ← need attempt.retryProvenance (invalidRun "attempts" "retry_provenance_missing")
  let intent ← need (r.retryIntentById provenance.retryIntentId) mismatch
  let source ← need (r.attemptById provenance.sourceAttemptId) mismatch
  raiseIf (previous.map (·.id) ≠ some source.id ∨ assignment.retryIntentId ≠ some intent.id ∨
    attempt.specDigest ≠ intent.executionSpecDigest ∨ intent.sourceAttemptNo ≠ source.attemptNo ∨
    intent.sourceFence ≠ source.fence) mismatch
  let digest ← intent.digest
  raiseIf (provenance.retryIntentDigest ≠ digest ∨
    provenance.sourceAttemptNo ≠ intent.sourceAttemptNo ∨
    provenance.sourceFence ≠ intent.sourceFence ∨ provenance.authority ≠ intent.authority) mismatch

def validateAttempt (index : ℕ) (previous : Option Attempt) (attempt : Attempt) :
    Result Unit := do
  invalidRunIf (attempt.runId ≠ r.id) "attempts" "run_mismatch"
  invalidRunIf (attempt.attemptNo ≠ index) "attempts" "attempt_no_not_contiguous"
  invalidRunIf (attempt.fence ≠ index) "attempts" "attempt_fence_not_contiguous"
  let assignment ← need (r.assignmentById attempt.assignmentId)
    (invalidRun "attempts" "assignment_missing")
  invalidRunIf (assignment.state ≠ .committed ∨ assignment.worker ≠ attempt.worker ∨
    assignment.specDigest ≠ attempt.specDigest) "attempts" "assignment_mismatch"
  invalidRunIf (∃ observation ∈ attempt.unknownObservation, ∃ committed ∈ assignment.committedAt,
    observation.recordedAt < committed) "attempts" "unknown_before_assignment_commit"
  if index = 1 then
    invalidRunIf assignment.retryIntentId.isSome "assignments" "retry_intent_mismatch"
  else
    r.validateRetryChain attempt assignment previous

/-- The attempts from a position on, with the attempt before it. -/
def validateAttempts (index : ℕ) (previous : Option Attempt) : List Attempt → Result Unit
  | [] => .ok ()
  | attempt :: attempts => do
    r.validateAttempt index previous attempt
    validateAttempts (index + 1) (some attempt) attempts

def validateIntentAuthority (intent : RetryIntent) (source : Attempt) : Result Unit :=
  match intent.authority with
  | .unknownAdjudication authority => do
    let refused := invalidRun "retry_intents" "adjudication_not_authoritative"
    let adjudication ← need source.adjudications.getLast? refused
    raiseIf (authority.adjudicationId ≠ adjudication.id) refused
    let digest ← adjudication.digest
    raiseIf (authority.adjudicationDigest ≠ digest ∨ authority.decision ≠ adjudication.decision ∨
      adjudication.decision.permitsRetry = false ∨ intent.createdAt < adjudication.occurredAt)
      refused
  | .policy authority =>
    invalidRunIf (source.state ≠ authority.expectedState) "retry_intents" "policy_not_authoritative"

def validateRetryIntent (intent : RetryIntent) : Result Unit := do
  let source ← need (r.attemptById intent.sourceAttemptId)
    (invalidRun "retry_intents" "source_mismatch")
  invalidRunIf (intent.runId ≠ r.id) "retry_intents" "source_mismatch"
  invalidRunIf (intent.sourceAttemptNo ≠ source.attemptNo ∨ intent.sourceFence ≠ source.fence ∨
    intent.executionSpecDigest ≠ source.specDigest) "retry_intents" "source_mismatch"
  validateIntentAuthority intent source

/-- The retry epoch of a reservation: zero before any retry, else the position of its intent. -/
def assignmentEpoch (assignment : Assignment) : Result ℕ :=
  match assignment.retryIntentId with
  | none => return 0
  | some intentId => do
    let intent ← need (r.retryIntentById intentId)
      (invalidRun "assignments" "retry_intent_mismatch")
    invalidRunIf (assignment.specDigest ≠ intent.executionSpecDigest) "assignments"
      "retry_intent_mismatch"
    invalidRunIf (assignment.offeredAt < intent.createdAt) "assignments"
      "offered_before_retry_intent"
    return r.retryIntents.findIdx (fun i => i.id = intentId) + 1

def validateAssignmentState (assignment : Assignment) : Result Unit :=
  let isCurrent := r.currentAssignmentId = some assignment.id
  match assignment.state with
  | .committed =>
    invalidRunIf (assignment.id ∉ r.attempts.map (·.assignmentId)) "assignments"
      "committed_without_attempt"
  | .expiredPrestart | .releasedPrestart | .cancelledPrestart =>
    invalidRunIf isCurrent "assignments" "closed_reservation_current"
  | .offered | .claimed =>
    invalidRunIf (¬ isCurrent) "assignments" "historical_reservation_not_committed"

def assignmentEpochs : Result (List ℕ) :=
  collect r.assignments fun assignment => do
    let epoch ← r.assignmentEpoch assignment
    r.validateAssignmentState assignment
    return epoch

/-- No reservation is offered before the one ahead of it was closed or committed. -/
def validateTimeline (previousClosedAt : Option Datetime) : List Assignment → Result Unit
  | [] => .ok ()
  | assignment :: assignments => do
    invalidRunIf (∃ closed ∈ previousClosedAt, assignment.offeredAt < closed) "assignments"
      "timeline_not_monotonic"
    validateTimeline (match assignment.closure with
      | some closure => some closure.recordedAt
      | none => assignment.committedAt) assignments

/-- A pointer names an element of the list, and the last one. -/
def validatePointer (field : String) (pointer : Option Str) (ids : List Str) :
    Result Unit :=
  whenSome pointer fun current => do
    invalidRunIf (current ∉ ids) field "not_found"
    invalidRunIf (ids.getLast? ≠ some current) field "not_latest"

def committedAssignmentIds : List Str :=
  (r.assignments.filter fun a => a.state = .committed).map (·.id)

def validateNormalizedHistory : Result Unit := do
  let assignmentIds : List Str := r.assignments.map (·.id)
  invalidRunIf (¬ assignmentIds.Nodup) "assignments" "duplicate_id"
  validatePointer "current_assignment_id" r.currentAssignmentId assignmentIds
  let retryIntentIds : List Str := r.retryIntents.map (·.id)
  invalidRunIf (¬ retryIntentIds.Nodup) "retry_intents" "duplicate_id"
  validatePointer "pending_retry_intent_id" r.pendingRetryIntentId retryIntentIds
  invalidRunIf (¬ (r.attempts.map (·.id)).Nodup) "attempts" "duplicate_id"
  invalidRunIf (¬ (r.attempts.map (·.startCommitKey)).Nodup) "attempts" "duplicate_start_commit_key"
  r.validateAttempts 1 none r.attempts
  invalidRunIf (r.currentFence ≠ ((r.attempts.getLast?.map (·.fence)).getD 0)) "current_fence"
    "attempt_fence_mismatch"
  invalidRunIf (∃ pending ∈ r.pendingRetryIntent,
    r.attempts.getLast?.map (·.id) ≠ some pending.sourceAttemptId) "pending_retry_intent_id"
    "source_attempt_not_current"
  invalidRunIf (¬ (r.retryIntents.map fun i => (i.sourceAttemptId, i.authority)).Nodup)
    "retry_intents" "duplicate_authority"
  each r.retryIntents r.validateRetryIntent
  let epochs ← r.assignmentEpochs
  invalidRunIf (∃ first ∈ r.assignments.head?, ∃ a ∈ r.assignments.tail,
    a.specDigest ≠ first.specDigest) "assignments" "spec_digest_mismatch"
  invalidRunIf (r.committedAssignmentIds ≠ r.attempts.map (·.assignmentId)) "assignments"
    "attempt_order_mismatch"
  invalidRunIf (epochs ≠ Sorting.sortOn (fun epoch => epoch) epochs) "assignments"
    "retry_intent_order_mismatch"
  validateTimeline none r.assignments

def validateCancelIntentCausality : Result Unit :=
  whenSome r.cancelIntent fun intent => do
    invalidRunIf (∃ committed ∈ r.latestCommittedAt, intent.recordedAt < committed) "cancel_intent"
      "before_current_attempt_commit"
    invalidRunIf (∃ closure ∈ r.latestClosure, intent.recordedAt < closure.recordedAt)
      "cancel_intent" "before_latest_assignment_closure"
    invalidRunIf (∃ pending ∈ r.pendingRetryIntent, intent.recordedAt < pending.createdAt)
      "cancel_intent" "before_pending_retry_intent"

def validateCancellationHistory : Result Unit := do
  let cancelled := positions (fun a : Assignment => a.state = .cancelledPrestart) r.assignments
  whenever (cancelled ≠ []) do
    let refused := invalidRun "assignments" "cancelled_prestart_not_terminal"
    raiseIf (cancelled.length ≠ 1 ∨ cancelled.head? ≠ some (r.assignments.length - 1) ∨
      r.state ≠ .cancelled) refused
    let intent ← need r.cancelIntent refused
    let closure ← need (r.assignments.getLast?.bind (·.closure))
      (invalidRun "assignments" "cancellation_closure_missing")
    let digest ← intent.digest
    invalidRunIf (closure.cancellationIntentDigest ≠ some digest ∨
      closure.idempotencyKey ≠ intent.idempotencyKey ∨ closure.effectiveAt ≠ intent.recordedAt ∨
      closure.recordedAt ≠ intent.recordedAt) "assignments" "cancellation_intent_mismatch"

/-- Rebuild the evidence of an attempt from what the stored manifest records. -/
def rebuildEvidence (attempt : Attempt) (evidence : EvidenceManifest)
    (cancellationStop : Option TrustedCancellationStop) : Result EvidenceManifest :=
  buildEvidenceManifest (attempt.evidenceInput (some evidence.platformExit) evidence.caseSummary
    evidence.artifacts cancellationStop)

/-- The stop proof is the latest attempt's own, bound to it and to the intent. -/
def validateConvergence (latest : Attempt) (intent : CancellationIntent)
    (stop : TrustedCancellationStop) : Result Unit := do
  let mismatch := invalidRun "cancellation_stop" "attempt_evidence_mismatch"
  raiseIf (latest.state ≠ .cancelled) mismatch
  let evidence ← need latest.evidence mismatch
  raiseIf (evidence.outcome ≠ .cancelled ∨ evidence.cancellationStop ≠ some stop) mismatch
  let unbound := invalidRun "cancellation_stop" "binding_mismatch"
  raiseIf (stop.runId ≠ r.id ∨ stop.attemptId ≠ latest.id ∨ stop.fence ≠ latest.fence ∨
    stop.fence ≠ r.currentFence ∨ stop.worker ≠ latest.worker) unbound
  let digest ← intent.digest
  raiseIf (stop.cancellationIntentDigest ≠ digest ∨ stop.firstStop < intent.recordedAt) unbound
  let rebuilt ← orFail (rebuildEvidence latest evidence (some stop))
    (invalidRun "cancellation_stop" "evidence_root_mismatch")
  invalidRunIf (rebuilt ≠ evidence) "cancellation_stop" "evidence_root_mismatch"

def validateCancelled : Result Unit := do
  invalidRunIf r.assignment.isSome "current_assignment_id" "must_be_clear_for_cancelled"
  let intent ← need r.cancelIntent (invalidRun "cancel_intent" "required_for_cancelled")
  match r.attempts.getLast?, r.pendingRetryIntent with
  | some latest, none => do
    let stop ← need r.cancellationStop
      (invalidRun "cancellation_stop" "required_for_postcommit_cancelled")
    r.validateConvergence latest intent stop
  | _, _ =>
    invalidRunIf r.cancellationStop.isSome "cancellation_stop" "forbidden_without_cancelled_attempt"

def validateAssigned : Result Unit := do
  let missing := invalidRun "current_assignment_id" "active_assignment_required"
  let current ← need r.assignment missing
  raiseIf (current.state ≠ .offered ∧ current.state ≠ .claimed) missing
  whenever (r.attempts ≠ []) do
    let pending ← need r.pendingRetryIntent
      (invalidRun "pending_retry_intent_id" "required_for_retry_assignment")
    invalidRunIf (current.retryIntentId ≠ some pending.id) "current_assignment_id"
      "retry_intent_mismatch"

/-- Which pointers and history each state requires. -/
def validateState : Result Unit :=
  match r.state with
  | .planned =>
    invalidRunIf (r.assignments ≠ [] ∨ r.attempts ≠ [] ∨ r.retryIntents ≠ []) "state"
      "planned_has_history"
  | .queued => do
    invalidRunIf r.assignment.isSome "current_assignment_id" "must_be_clear_for_queued"
    invalidRunIf r.pendingRetryIntent.isSome "pending_retry_intent_id" "must_be_clear_for_queued"
    invalidRunIf (r.attempts ≠ [] ∨ r.retryIntents ≠ []) "state" "queued_has_attempt_history"
  | .retryQueued => do
    invalidRunIf r.assignment.isSome "current_assignment_id" "must_be_clear_for_retry_queued"
    invalidRunIf r.pendingRetryIntent.isNone "pending_retry_intent_id" "required_for_retry_queued"
  | .assigned => r.validateAssigned
  | .cancelled => r.validateCancelled
  | .running => do
    invalidRunIf (¬ ∃ current ∈ r.assignment, current.state = .committed) "current_assignment_id"
      "committed_assignment_required"
    invalidRunIf r.pendingRetryIntent.isSome "pending_retry_intent_id"
      "must_be_consumed_for_running"

def validateEvidenceSnapshot (attempt : Attempt) : Result Unit :=
  whenSome attempt.evidence fun evidence => do
    let rebuilt ← orFail (rebuildEvidence attempt evidence evidence.cancellationStop)
      (invalidRun "attempts" "evidence_root_mismatch")
    invalidRunIf (rebuilt ≠ evidence) "attempts" "evidence_root_mismatch"
    invalidRunIf (attempt.state ≠ evidence.outcome.attemptState) "attempts"
      "evidence_state_mismatch"

/-- The attempt ended cancelled, by its state or by its evidence. -/
def hasCancelledOutcome (attempt : Attempt) : Prop :=
  attempt.state = .cancelled ∨ ∃ evidence ∈ attempt.evidence, evidence.outcome = .cancelled

instance (attempt : Attempt) : Decidable (hasCancelledOutcome attempt) :=
  inferInstanceAs (Decidable (_ ∨ _))

def validateStatePointers : Result Unit := do
  r.validateState
  each r.attempts validateEvidenceSnapshot
  invalidRunIf (∃ latest ∈ r.attempts.getLast?, hasCancelledOutcome latest ∧
    ¬ (r.state = .cancelled ∧ r.pendingRetryIntent.isNone ∧ r.cancellationStop.isSome)) "attempts"
    "cancelled_attempt_requires_converged_run"
  invalidRunIf (r.state ≠ .cancelled ∧ r.cancellationStop.isSome) "cancellation_stop"
    "only_allowed_for_cancelled"
  invalidRunIf (r.cancelIntent.isSome ∧ r.state ≠ .running ∧ r.state ≠ .cancelled) "cancel_intent"
    "not_allowed_for_state"

/-- The committed reservation of an attempt is the last one of its retry epoch. -/
def validateEpochTail (attemptIndex : ℕ) (attempt : Attempt) : Result Unit := do
  let retryIntentId ← match attemptIndex with
    | 0 => pure none
    | index + 1 => do
      let intent ← need r.retryIntents[index]? (.crash .indexError)
      pure (some intent.id)
  let group := positions (fun a : Assignment => a.retryIntentId = retryIntentId) r.assignments
  let committed ← need (r.assignments.findIdx? fun a => a.id = attempt.assignmentId)
    (.crash .stopIteration)
  invalidRunIf (group.getLast? ≠ some committed) "assignments" "committed_assignment_not_epoch_tail"

def validateAssignmentEpochTails : Result Unit :=
  each r.attempts.zipIdx fun a => r.validateEpochTail a.2 a.1

def consumedIntentIds : List Str :=
  r.attempts.filterMap fun a => a.retryProvenance.map (·.retryIntentId)

def validateRetryIntentConsumption : Result Unit :=
  invalidRunIf (r.retryIntents.map (·.id) ≠ r.consumedIntentIds ++ r.pendingRetryIntentId.toList)
    "retry_intents" "order_mismatch"

def postInit : Result Unit := do
  invalidRunIf (isBlank r.id) "id" "invalid"
  invalidRunIf (r.version < 0) "version" "invalid"
  invalidRunIf (r.currentFence < 0) "current_fence" "invalid"
  each [("current_assignment_id", r.currentAssignmentId),
    ("pending_retry_intent_id", r.pendingRetryIntentId)] fun f =>
    invalidRunIf (∃ value ∈ f.2, isBlank value) f.1 "invalid"
  invalidRunIf (∃ intent ∈ r.cancelIntent, intent.runId ≠ r.id) "cancel_intent" "run_mismatch"
  r.validateNormalizedHistory
  r.validateCancelIntentCausality
  r.validateCancellationHistory
  r.validateStatePointers
  r.validateAssignmentEpochTails
  r.validateRetryIntentConsumption

end Run.Fields

/-- Immutable Run: every value has passed the checks. -/
structure Run extends Run.Fields where
  accepted : toFields.postInit = .ok ()
  deriving DecidableEq

def Run.new : Run.Fields → Result Run := construct Run.Fields.postInit Run.mk

theorem Run.new_eq_ok {f : Run.Fields} {r : Run} : Run.new f = .ok r ↔ r.toFields = f := by
  rw [Run.new, construct_eq_ok]
  constructor
  · rintro ⟨_, rfl⟩
    rfl
  · rintro rfl
    exact ⟨r.accepted, rfl⟩

/-- Create a planned Run. -/
def Run.create (runId : Str) : Result Run :=
  Run.new {
    id := runId
    state := .planned
    version := 0
    currentFence := 0
    assignments := []
    currentAssignmentId := none
    attempts := []
    retryIntents := []
    pendingRetryIntentId := none }

end QaRunner
