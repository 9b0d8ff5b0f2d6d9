import QaRunner.Domain.RunCommands
import QaRunner.Lib.Aggregate
import QaRunner.Lib.FencedLog

/-! The commands of a Run as one step function, and the ways a successful step can change it. -/
namespace QaRunner
open Guarded

namespace Run

inductive Command where
  | transition (target : RunState) (expectedVersion : ℤ)
  | requestCancel (cancelKey : Str) (source : CancellationSource) (actorId reason : Str)
      (observedAt : Datetime) (expectedVersion : ℤ)
  | offerAssignment (assignmentId : Str) (worker : WorkerGeneration)
      (workerAuthority : WorkerAuthority) (specDigest : Digest) (offeredAt expiresAt : Datetime)
      (expectedVersion : ℤ)
  | claimAssignment (assignmentId : Str) (worker : WorkerRef) (observedAt : Datetime)
      (expectedVersion : ℤ)
  | commitStart (assignmentId : Str) (worker : WorkerRef) (startCommitKey : Str)
      (specDigest : Digest) (newAttemptId : Str) (observedAt : Datetime) (expectedVersion : ℤ)
  | expirePrecommitAssignment (assignmentId expiryKey : Str) (observedAt : Datetime)
      (expectedVersion : ℤ)
  | releasePrecommitAssignment (assignmentId : Str) (worker : WorkerRef) (releaseKey : Str)
      (observedAt : Datetime) (expectedVersion : ℤ)
  | markCurrentAttemptUnknown (attemptId : Str) (observation : UnknownObservation)
      (expectedVersion expectedAttemptVersion : ℤ)
  | transitionCurrentAttempt (attemptId : Str) (target : AttemptState)
      (expectedVersion expectedAttemptVersion : ℤ)
  | recordCurrentAttemptEvent (attemptId : Str) (event : AttemptEvent)
      (authority : AttemptAuthority) (worker : WorkerRef)
      (fence expectedVersion expectedAttemptVersion : ℤ)
  | finalizeCurrentAttemptEvidence (attemptId : Str) (report : EvidenceReport)
      (expectedVersion expectedAttemptVersion : ℤ)
  | markCancelStopUnproven (attemptId observationId : Str) (recordedAt : Datetime)
      (expectedVersion expectedAttemptVersion : ℤ)
  | finalizeCancelledAttemptEvidence (attemptId : Str) (report : EvidenceReport)
      (cancellationStop : TrustedCancellationStop) (expectedVersion expectedAttemptVersion : ℤ)
  | queueAdjudicatedRetry (intent : RetryIntent) (expectedVersion : ℤ)
  | queuePolicyRetry (intent : RetryIntent) (decision : RunRetryDecision) (expectedVersion : ℤ)
  | appendCurrentUnknownAdjudication (attemptId : Str) (adjudication : UnknownAdjudication)
      (expectedVersion expectedAttemptVersion : ℤ)

def Command.expectedVersion : Command → ℤ
  | .transition _ v => v
  | .requestCancel _ _ _ _ _ v => v
  | .offerAssignment _ _ _ _ _ _ v => v
  | .claimAssignment _ _ _ v => v
  | .commitStart _ _ _ _ _ _ v => v
  | .expirePrecommitAssignment _ _ _ v => v
  | .releasePrecommitAssignment _ _ _ _ v => v
  | .markCurrentAttemptUnknown _ _ v _ => v
  | .transitionCurrentAttempt _ _ v _ => v
  | .recordCurrentAttemptEvent _ _ _ _ _ v _ => v
  | .finalizeCurrentAttemptEvidence _ _ v _ => v
  | .markCancelStopUnproven _ _ _ v _ => v
  | .finalizeCancelledAttemptEvidence _ _ _ v _ => v
  | .queueAdjudicatedRetry _ v => v
  | .queuePolicyRetry _ _ v => v
  | .appendCurrentUnknownAdjudication _ _ v _ => v

/-- The command creates an attempt. -/
def Command.commits : Command → Bool
  | .commitStart .. => true
  | _ => false

/-- One command applied to a Run, keeping the Run of its result. -/
def exec (r : Run) : Command → Result Run
  | .transition target v => r.transition target v
  | .requestCancel key source actor reason at_ v => r.requestCancel key source actor reason at_ v
  | .offerAssignment id worker authority spec offered expires v =>
    r.offerAssignment id worker authority spec offered expires v
  | .claimAssignment id worker at_ v => r.claimAssignment id worker at_ v
  | .commitStart id worker key spec attemptId at_ v => do
    let result ← r.commitStart id worker key spec attemptId at_ v
    return result.run
  | .expirePrecommitAssignment id key at_ v => r.expirePrecommitAssignment id key at_ v
  | .releasePrecommitAssignment id worker key at_ v =>
    r.releasePrecommitAssignment id worker key at_ v
  | .markCurrentAttemptUnknown id observation v w => r.markCurrentAttemptUnknown id observation v w
  | .transitionCurrentAttempt id target v w => r.transitionCurrentAttempt id target v w
  | .recordCurrentAttemptEvent id event authority worker fence v w =>
    r.recordCurrentAttemptEvent id event authority worker fence v w
  | .finalizeCurrentAttemptEvidence id report v w => do
    let result ← r.finalizeCurrentAttemptEvidence id report v w
    return result.run
  | .markCancelStopUnproven id observationId at_ v w =>
    r.markCancelStopUnproven id observationId at_ v w
  | .finalizeCancelledAttemptEvidence id report stop v w => do
    let result ← r.finalizeCancelledAttemptEvidence id report stop v w
    return result.run
  | .queueAdjudicatedRetry intent v => r.queueAdjudicatedRetry intent v
  | .queuePolicyRetry intent decision v => r.queuePolicyRetry intent decision v
  | .appendCurrentUnknownAdjudication id adjudication v w =>
    r.appendCurrentUnknownAdjudication id adjudication v w

/-- The ways a command can change a Run, with the guards it passed. -/
inductive Change (r : Run) (c : Command) (r' : Run) : Prop
  | queue (hstate : r.state = .planned)
    (hnext : r'.toFields = { r.toFields with
      state := .queued
      version := r.version + 1 })
  | cancel (intent : CancellationIntent) (state : RunState) (assignments : List Assignment)
    (current : Option Str) (hnone : r.cancelIntent = none)
    (hnext : r'.toFields = { r.toFields with
      state := state
      version := r.version + 1
      assignments := assignments
      currentAssignmentId := current
      cancelIntent := some intent })
  | offer (assignment : Assignment) (hstate : r.state = .queued ∨ r.state = .retryQueued)
    (hnext : r'.toFields = { r.toFields with
      state := .assigned
      assignments := r.assignments ++ [assignment]
      currentAssignmentId := some assignment.id
      version := r.version + 1 })
  | reserve (state : RunState) (assignments : List Assignment) (current : Option Str)
    (hstate : r.state = .assigned)
    (hnext : r'.toFields = { r.toFields with
      state := state
      assignments := assignments
      currentAssignmentId := current
      version := r.version + 1 })
  | commit (attempt : Attempt) (assignments : List Assignment) (hstate : r.state = .assigned)
    (hcommit : c.commits = true)
    (hnext : r'.toFields = { r.toFields with
      state := .running
      version := r.version + 1
      currentFence := r.currentFence + 1
      assignments := assignments
      attempts := r.attempts ++ [attempt]
      pendingRetryIntentId := none })
  | amend (current updated : Attempt) (hlast : r.attempts.getLast? = some current)
    (hid : updated.id = current.id)
    (hlive : current.state.terminal = false ∨ r.state = .running)
    (hnext : r'.toFields = { r.toFields with
      attempts := r.attempts.dropLast ++ [updated]
      version := r.version + 1 })
  | converge (current updated : Attempt) (stop : TrustedCancellationStop)
    (hlast : r.attempts.getLast? = some current) (hid : updated.id = current.id)
    (hstate : r.state = .running)
    (hnext : r'.toFields = { r.toFields with
      state := .cancelled
      version := r.version + 1
      currentAssignmentId := none
      attempts := r.attempts.dropLast ++ [updated]
      cancellationStop := some stop })
  | retry (intent : RetryIntent) (hstate : r.state = .running) (hnone : r.cancelIntent = none)
    (hnext : r'.toFields = { r.toFields with
      state := .retryQueued
      version := r.version + 1
      currentAssignmentId := none
      retryIntents := r.retryIntents ++ [intent]
      pendingRetryIntentId := some intent.id })

variable {r r' : Run} {expectedVersion expectedAttemptVersion : ℤ}

theorem ensureVersion_eq_ok {u : Unit} : r.ensureVersion expectedVersion = .ok u ↔
    0 ≤ expectedVersion ∧ expectedVersion = r.version := ensureExpectedVersion_eq_ok

theorem currentAttempt_eq_ok {attemptId : Str} {a : Attempt} :
    r.currentAttempt attemptId = .ok a ↔ r.attempts.getLast? = some a ∧ a.id = attemptId ∧
      a.runId = r.id ∧ a.fence = r.currentFence := by
  simp only [currentAttempt, bind_eq_ok, exists_unit, need_eq_ok, raiseIf_eq_ok, not_or, ne_eq,
    not_not, pure_eq_ok]
  constructor
  · rintro ⟨current, hlast, ⟨hid, hrun⟩, hfence, rfl⟩
    exact ⟨hlast, hid, hrun, hfence⟩
  · rintro ⟨hlast, hid, hrun, hfence⟩
    exact ⟨a, hlast, ⟨hid, hrun⟩, hfence, rfl⟩

theorem amendLatest_eq_ok {updated : Attempt} : r.amendLatest updated expectedVersion = .ok r' ↔
    (0 ≤ expectedVersion ∧ expectedVersion = r.version) ∧
      r'.toFields = { r.toFields with
        attempts := r.attempts.dropLast ++ [updated]
        version := r.version + 1 } := by
  simp only [amendLatest, then_eq_ok, ensureVersion_eq_ok, new_eq_ok]

theorem queueIntent_eq_ok {intent : RetryIntent} :
    r.queueIntent intent expectedVersion = .ok r' ↔
      (0 ≤ expectedVersion ∧ expectedVersion = r.version) ∧
        r'.toFields = { r.toFields with
          state := .retryQueued
          version := r.version + 1
          currentAssignmentId := none
          retryIntents := r.retryIntents ++ [intent]
          pendingRetryIntentId := some intent.id } := by
  simp only [queueIntent, then_eq_ok, ensureVersion_eq_ok, new_eq_ok]

theorem replaceCurrentAssignment_eq_ok {updated : Assignment} {assignments : List Assignment} :
    r.replaceCurrentAssignment updated = .ok assignments ↔
      r.currentAssignmentId = some updated.id ∧ assignments ≠ r.assignments ∧
        assignments = r.assignments.map fun a => if a.id = updated.id then updated else a := by
  simp only [replaceCurrentAssignment, then_eq_ok, raiseIf_eq_ok, pure_eq_ok, ne_eq, not_not]
  constructor
  · rintro ⟨hcurrent, hne, rfl⟩
    exact ⟨hcurrent, hne, rfl⟩
  · rintro ⟨hcurrent, hne, rfl⟩
    exact ⟨hcurrent, hne, rfl⟩

theorem transition_ok {target : RunState} (h : r.transition target expectedVersion = .ok r') :
    (0 ≤ expectedVersion ∧ expectedVersion = r.version) ∧ r.state = .planned ∧
      r'.toFields = { r.toFields with
        state := .queued
        version := r.version + 1 } := by
  simp only [transition, then_eq_ok, ensureVersion_eq_ok, raiseIf_eq_ok, not_not, new_eq_ok] at h
  obtain ⟨hversion, htarget, hnext⟩ := h
  cases hstate : r.state <;> simp only [hstate, RunState.allowedTransitions] at htarget
  · rw [List.mem_singleton] at htarget
    exact ⟨hversion, rfl, htarget ▸ hnext⟩
  all_goals exact absurd htarget List.not_mem_nil

theorem replayCancel_eq_ok {stored intent : CancellationIntent} :
    r.replayCancel stored intent = .ok r' ↔
      stored.idempotencyKey = intent.idempotencyKey ∧
        (∃ digest, stored.requestDigest = .ok digest ∧ intent.requestDigest = .ok digest) ∧
        r' = r := by
  simp only [replayCancel, bind_eq_ok, exists_unit, raiseIf_eq_ok, ne_eq, not_not, pure_eq_ok]
  constructor
  · rintro ⟨hkey, digest, hstored, received, hreceived, rfl, rfl⟩
    exact ⟨hkey, ⟨digest, hstored, hreceived⟩, rfl⟩
  · rintro ⟨hkey, ⟨digest, hstored, hreceived⟩, rfl⟩
    exact ⟨hkey, digest, hstored, digest, hreceived, rfl, rfl⟩

theorem recordCancel_ok {intent : CancellationIntent}
    (h : r.recordCancel intent expectedVersion = .ok r') :
    (0 ≤ expectedVersion ∧ expectedVersion = r.version) ∧
      ∃ state assignments current, r'.toFields = { r.toFields with
        state := state
        version := r.version + 1
        assignments := assignments
        currentAssignmentId := current
        cancelIntent := some intent } := by
  simp only [recordCancel, then_eq_ok, ensureVersion_eq_ok] at h
  obtain ⟨-, -, -, -, hversion, h⟩ := h
  refine ⟨hversion, ?_⟩
  split at h
  · simp only [cancelAssigned, bind_eq_ok, new_eq_ok] at h
    obtain ⟨_, _, _, _, _, _, assignments, _, hnext⟩ := h
    exact ⟨_, assignments, none, hnext⟩
  · rw [new_eq_ok] at h
    exact ⟨_, r.assignments, r.currentAssignmentId, h⟩

theorem requestCancel_ok {cancelKey actorId reason : Str} {source : CancellationSource}
    {observedAt : Datetime}
    (h : r.requestCancel cancelKey source actorId reason observedAt expectedVersion = .ok r') :
    ∃ intent, CancellationIntent.new {
        runId := r.id
        idempotencyKey := cancelKey
        source, actorId, reason
        recordedAt := observedAt } = .ok intent ∧
      (r' = r ∨ r.cancelIntent = none ∧ r.recordCancel intent expectedVersion = .ok r') := by
  simp only [requestCancel, bind_eq_ok] at h
  obtain ⟨intent, hintent, h⟩ := h
  refine ⟨intent, hintent, ?_⟩
  cases hstored : r.cancelIntent with
  | some stored =>
    simp only [hstored, replayCancel_eq_ok] at h
    exact Or.inl h.2.2
  | none =>
    simp only [hstored] at h
    exact Or.inr ⟨rfl, h⟩

theorem offerAssignment_ok {assignmentId : Str} {worker : WorkerGeneration}
    {workerAuthority : WorkerAuthority} {specDigest : Digest} {offeredAt expiresAt : Datetime}
    (h : r.offerAssignment assignmentId worker workerAuthority specDigest offeredAt expiresAt
      expectedVersion = .ok r') :
    (0 ≤ expectedVersion ∧ expectedVersion = r.version) ∧
      (r.state = .queued ∨ r.state = .retryQueued) ∧
      ∃ assignment, r'.toFields = { r.toFields with
        state := .assigned
        assignments := r.assignments ++ [assignment]
        currentAssignmentId := some assignment.id
        version := r.version + 1 } := by
  simp only [offerAssignment, bind_eq_ok, exists_unit, ensureVersion_eq_ok, raiseIf_eq_ok, not_or,
    not_and, ne_eq, not_not, new_eq_ok] at h
  obtain ⟨hversion, ⟨hstate, -⟩, -, -, -, _, -, assignment, -, hnext⟩ := h
  refine ⟨hversion, ?_, assignment, hnext⟩
  by_cases hqueued : r.state = .queued
  · exact Or.inl hqueued
  · exact Or.inr (hstate hqueued)

theorem claimAssignment_ok {assignmentId : Str} {worker : WorkerRef} {observedAt : Datetime}
    (h : r.claimAssignment assignmentId worker observedAt expectedVersion = .ok r') :
    (0 ≤ expectedVersion ∧ expectedVersion = r.version) ∧ r.state = .assigned ∧
      ∃ assignments, r'.toFields = { r.toFields with
        assignments := assignments
        version := r.version + 1 } := by
  simp only [claimAssignment, bind_eq_ok, exists_unit, ensureVersion_eq_ok, raiseIf_eq_ok,
    ne_eq, not_not, new_eq_ok] at h
  obtain ⟨hversion, -, hstate, _, -, -, -, _, -, assignments, -, hnext⟩ := h
  exact ⟨hversion, hstate, assignments, hnext⟩

theorem replayCommit_eq_ok {existing : Attempt} {received : Digest} {result : CommitStartResult} :
    r.replayCommit existing received = .ok result ↔
      startCommitDigest existing.assignmentId existing.worker existing.specDigest = .ok received ∧
        existing.fence = r.currentFence ∧ r.state = .running ∧
        (∃ current ∈ r.assignment, current.id = existing.assignmentId ∧
          current.state = .committed) ∧
        r.attempts.getLast?.map (·.id) = some existing.id ∧
        existing.state ∈ [AttemptState.startCommitted, .provisioning, .running, .uploading] ∧
        result = ⟨r, existing, existing.fence, true⟩ := by
  simp only [replayCommit, bind_eq_ok, exists_unit, raiseIf_eq_ok, not_or, ne_eq, not_not,
    pure_eq_ok]
  constructor
  · rintro ⟨stored, hstored, rfl, hfence, ⟨hstate, hcurrent, hlast, hlive⟩, rfl⟩
    exact ⟨hstored, hfence, hstate, hcurrent, hlast, hlive, rfl⟩
  · rintro ⟨hstored, hfence, hstate, hcurrent, hlast, hlive, rfl⟩
    exact ⟨received, hstored, rfl, hfence, ⟨hstate, hcurrent, hlast, hlive⟩, rfl⟩

theorem commitClaimed_ok {assignmentId startCommitKey newAttemptId : Str} {worker : WorkerRef}
    {specDigest : Digest} {observedAt : Datetime} {result : CommitStartResult}
    (h : r.commitClaimed assignmentId worker startCommitKey specDigest newAttemptId observedAt
      expectedVersion = .ok result) :
    (0 ≤ expectedVersion ∧ expectedVersion = r.version) ∧ r.state = .assigned ∧
      ∃ provenance current committed assignments,
        Attempt.create newAttemptId r.id (r.attempts.length + 1) (r.currentFence + 1) assignmentId
          worker specDigest startCommitKey provenance = .ok result.attempt ∧
        (r.assignment = some current ∧ current.id = assignmentId) ∧
        current.commit observedAt = .ok committed ∧
        r.replaceCurrentAssignment committed = .ok assignments ∧
        result.run.toFields = { r.toFields with
          state := .running
          version := r.version + 1
          currentFence := r.currentFence + 1
          assignments := assignments
          attempts := r.attempts ++ [result.attempt]
          pendingRetryIntentId := none } := by
  simp only [commitClaimed, bind_eq_ok, exists_unit, ensureVersion_eq_ok, raiseIf_eq_ok, not_or,
    ne_eq, not_not, need_eq_ok, pure_eq_ok] at h
  obtain ⟨hversion, -, hstate, current, hcurrent, ⟨hid, -⟩, _, -, -, -, provenance, -, attempt,
    hattempt, committed, hcommit, assignments, hassignments, run, hrun, rfl⟩ := h
  exact ⟨hversion, hstate, provenance, current, committed, assignments, hattempt, ⟨hcurrent, hid⟩,
    hcommit, hassignments, new_eq_ok.mp hrun⟩

theorem commitStart_ok {assignmentId startCommitKey newAttemptId : Str} {worker : WorkerRef}
    {specDigest : Digest} {observedAt : Datetime} {result : CommitStartResult}
    (h : r.commitStart assignmentId worker startCommitKey specDigest newAttemptId observedAt
      expectedVersion = .ok result) :
    ∃ received, startCommitDigest assignmentId worker specDigest = .ok received ∧
      (result.run = r ∨ r.attemptByKey startCommitKey = none ∧
        r.commitClaimed assignmentId worker startCommitKey specDigest newAttemptId observedAt
          expectedVersion = .ok result) := by
  simp only [commitStart, bind_eq_ok] at h
  obtain ⟨received, hreceived, h⟩ := h
  refine ⟨received, hreceived, ?_⟩
  cases hkey : r.attemptByKey startCommitKey with
  | some existing =>
    simp only [hkey, replayCommit_eq_ok] at h
    obtain ⟨-, -, -, -, -, -, rfl⟩ := h
    exact Or.inl rfl
  | none =>
    simp only [hkey] at h
    exact Or.inr ⟨rfl, h⟩

theorem replayClosure_eq_ok {stored closure : AssignmentClosure} :
    r.replayClosure stored closure = .ok r' ↔
      stored.idempotencyKey = closure.idempotencyKey ∧
        (∃ digest, stored.requestDigest = .ok digest ∧ closure.requestDigest = .ok digest) ∧
        r' = r := by
  simp only [replayClosure, bind_eq_ok, exists_unit, raiseIf_eq_ok, ne_eq, not_not, pure_eq_ok]
  constructor
  · rintro ⟨hkey, digest, hstored, received, hreceived, rfl, rfl⟩
    exact ⟨hkey, ⟨digest, hstored, hreceived⟩, rfl⟩
  · rintro ⟨hkey, ⟨digest, hstored, hreceived⟩, rfl⟩
    exact ⟨hkey, digest, hstored, digest, hreceived, rfl, rfl⟩

theorem closeOpen_ok {closure : AssignmentClosure}
    (h : r.closeOpen closure expectedVersion = .ok r') :
    (0 ≤ expectedVersion ∧ expectedVersion = r.version) ∧ r.state = .assigned ∧
      ∃ current closed assignments state,
        (r.assignment = some current ∧ current.id = closure.assignmentId) ∧
        current.closePrestart closure = .ok closed ∧
        r.replaceCurrentAssignment closed = .ok assignments ∧
        r'.toFields = { r.toFields with
          state := state
          assignments := assignments
          currentAssignmentId := none
          version := r.version + 1 } := by
  simp only [closeOpen, bind_eq_ok, exists_unit, ensureVersion_eq_ok, raiseIf_eq_ok, not_or,
    ne_eq, not_not, need_eq_ok, new_eq_ok] at h
  obtain ⟨hversion, hstate, current, hcurrent, ⟨hid, -⟩, -, closed, hclosed, assignments,
    hassignments, hnext⟩ := h
  exact ⟨hversion, hstate, current, closed, assignments, _, ⟨hcurrent, hid⟩, hclosed, hassignments,
    hnext⟩

theorem closePrecommitAssignment_ok {closure : AssignmentClosure}
    (h : r.closePrecommitAssignment closure expectedVersion = .ok r') :
    r' = r ∨ (r.assignmentById closure.assignmentId).bind (·.closure) = none ∧
      r.closeOpen closure expectedVersion = .ok r' := by
  unfold closePrecommitAssignment at h
  cases hstored : (r.assignmentById closure.assignmentId).bind (·.closure) with
  | some stored =>
    simp only [hstored, replayClosure_eq_ok] at h
    exact Or.inl h.2.2
  | none =>
    simp only [hstored] at h
    exact Or.inr ⟨rfl, h⟩

theorem expirePrecommitAssignment_eq_ok {assignmentId expiryKey : Str} {observedAt : Datetime} :
    r.expirePrecommitAssignment assignmentId expiryKey observedAt expectedVersion = .ok r' ↔
      observedAt.IsUtc ∧ ∃ closure, AssignmentClosure.new {
          assignmentId := assignmentId
          idempotencyKey := expiryKey
          kind := .expiredPrestart
          effectiveAt := r.expiryEffectiveAt assignmentId observedAt
          recordedAt := observedAt
          worker := none } = .ok closure ∧
        r.closePrecommitAssignment closure expectedVersion = .ok r' := by
  simp only [expirePrecommitAssignment, requireUtcCommandTime, bind_eq_ok, exists_unit,
    invalidRunIf_eq_ok, not_not]

theorem releasePrecommitAssignment_eq_ok {assignmentId releaseKey : Str} {worker : WorkerRef}
    {observedAt : Datetime} :
    r.releasePrecommitAssignment assignmentId worker releaseKey observedAt expectedVersion =
        .ok r' ↔
      observedAt.IsUtc ∧ ∃ closure, AssignmentClosure.new {
          assignmentId := assignmentId
          idempotencyKey := releaseKey
          kind := .releasedPrestart
          effectiveAt := observedAt
          recordedAt := observedAt
          worker := some worker } = .ok closure ∧
        r.closePrecommitAssignment closure expectedVersion = .ok r' := by
  simp only [releasePrecommitAssignment, requireUtcCommandTime, bind_eq_ok, exists_unit,
    invalidRunIf_eq_ok, not_not]

theorem markCurrentAttemptUnknown_eq_ok {attemptId : Str} {observation : UnknownObservation} :
    r.markCurrentAttemptUnknown attemptId observation expectedVersion expectedAttemptVersion =
        .ok r' ↔
      ∃ current authority unknown, r.currentAttempt attemptId = .ok current ∧
        AttemptAuthority.new {
          currentFence := r.currentFence
          currentWorker := current.worker } = .ok authority ∧
        current.markUnknown observation authority expectedAttemptVersion = .ok unknown ∧
        (unknown = current ∧ r' = r ∨
          unknown ≠ current ∧ r.amendLatest unknown expectedVersion = .ok r') := by
  simp only [markCurrentAttemptUnknown, bind_eq_ok]
  constructor
  · rintro ⟨current, hcurrent, authority, hauthority, unknown, hunknown, h⟩
    refine ⟨current, authority, unknown, hcurrent, hauthority, hunknown, ?_⟩
    split at h
    · next heq => exact Or.inl ⟨heq, (pure_eq_ok.mp h).symm⟩
    · next hne => exact Or.inr ⟨hne, h⟩
  · rintro ⟨current, authority, unknown, hcurrent, hauthority, hunknown, h⟩
    refine ⟨current, hcurrent, authority, hauthority, unknown, hunknown, ?_⟩
    rcases h with ⟨heq, rfl⟩ | ⟨hne, h⟩
    · rw [if_pos heq, pure_eq_ok]
    · rw [if_neg hne]
      exact h

theorem transitionCurrentAttempt_eq_ok {attemptId : Str} {target : AttemptState} :
    r.transitionCurrentAttempt attemptId target expectedVersion expectedAttemptVersion = .ok r' ↔
      ∃ current updated, r.currentAttempt attemptId = .ok current ∧
        current.transition target expectedAttemptVersion = .ok updated ∧
        r.amendLatest updated expectedVersion = .ok r' := by
  simp only [transitionCurrentAttempt, bind_eq_ok]
  constructor
  · rintro ⟨current, hcurrent, updated, hupdated, h⟩
    exact ⟨current, updated, hcurrent, hupdated, h⟩
  · rintro ⟨current, updated, hcurrent, hupdated, h⟩
    exact ⟨current, hcurrent, updated, hupdated, h⟩

theorem recordCurrentAttemptEvent_eq_ok {attemptId : Str} {event : AttemptEvent}
    {authority : AttemptAuthority} {worker : WorkerRef} {fence : ℤ} :
    r.recordCurrentAttemptEvent attemptId event authority worker fence expectedVersion
        expectedAttemptVersion = .ok r' ↔
      ∃ current updated, r.currentAttempt attemptId = .ok current ∧
        current.recordEvent event authority worker fence expectedAttemptVersion = .ok updated ∧
        (updated = current ∧ r' = r ∨
          updated ≠ current ∧ r.amendLatest updated expectedVersion = .ok r') := by
  simp only [recordCurrentAttemptEvent, bind_eq_ok]
  constructor
  · rintro ⟨current, hcurrent, updated, hupdated, h⟩
    refine ⟨current, updated, hcurrent, hupdated, ?_⟩
    split at h
    · next heq => exact Or.inl ⟨heq, (pure_eq_ok.mp h).symm⟩
    · next hne => exact Or.inr ⟨hne, h⟩
  · rintro ⟨current, updated, hcurrent, hupdated, h⟩
    refine ⟨current, hcurrent, updated, hupdated, ?_⟩
    rcases h with ⟨heq, rfl⟩ | ⟨hne, h⟩
    · rw [if_pos heq, pure_eq_ok]
    · rw [if_neg hne]
      exact h

theorem finalizeCurrentAttemptEvidence_eq_ok {attemptId : Str} {report : EvidenceReport}
    {result : FinalizeAttemptResult} :
    r.finalizeCurrentAttemptEvidence attemptId report expectedVersion expectedAttemptVersion =
        .ok result ↔
      ∃ current finalized, r.currentAttempt attemptId = .ok current ∧
        current.finalizeWith report none expectedAttemptVersion = .ok finalized ∧
        (finalized.replayed = true ∧ result = ⟨r, current, finalized.evidence, true⟩ ∨
          finalized.replayed = false ∧ ∃ updated,
            r.amendLatest finalized.attempt expectedVersion = .ok updated ∧
            result = ⟨updated, finalized.attempt, finalized.evidence, false⟩) := by
  simp only [finalizeCurrentAttemptEvidence, Attempt.finalizeEvidence, bind_eq_ok, exists_unit,
    notReadyIf_eq_ok, Option.isSome_none, Bool.false_eq_true, not_false_eq_true, true_and]
  constructor
  · rintro ⟨current, hcurrent, finalized, hfinalized, h⟩
    refine ⟨current, finalized, hcurrent, hfinalized, ?_⟩
    split at h
    · next heq => exact Or.inl ⟨heq, (pure_eq_ok.mp h).symm⟩
    · next hne =>
      simp only [bind_eq_ok, pure_eq_ok] at h
      obtain ⟨updated, hupdated, rfl⟩ := h
      exact Or.inr ⟨by simpa using hne, updated, hupdated, rfl⟩
  · rintro ⟨current, finalized, hcurrent, hfinalized, h⟩
    refine ⟨current, hcurrent, finalized, hfinalized, ?_⟩
    rcases h with ⟨heq, rfl⟩ | ⟨hne, updated, hupdated, rfl⟩
    · rw [if_pos heq, pure_eq_ok]
    · rw [if_neg (by simp [hne]), bind_eq_ok]
      exact ⟨updated, hupdated, rfl⟩

theorem markCancelStopUnproven_eq_ok {attemptId observationId : Str} {recordedAt : Datetime} :
    r.markCancelStopUnproven attemptId observationId recordedAt expectedVersion
        expectedAttemptVersion = .ok r' ↔
      ∃ intent digest observation, r.cancelIntent = some intent ∧ recordedAt.IsUtc ∧
        ¬ recordedAt < intent.recordedAt ∧ intent.digest = .ok digest ∧
        UnknownObservation.new {
          id := observationId
          reason := .cancelStopUnproven
          source := .cancelConvergence
          reviewBasisDigest := digest
          recordedAt := recordedAt } = .ok observation ∧
        r.markCurrentAttemptUnknown attemptId observation expectedVersion expectedAttemptVersion =
          .ok r' := by
  simp only [markCancelStopUnproven, requireUtcCommandTime, bind_eq_ok, exists_unit, need_eq_ok,
    invalidRunIf_eq_ok, not_not]
  constructor
  · rintro ⟨intent, hintent, hutc, hafter, digest, hdigest, observation, hobservation, h⟩
    exact ⟨intent, digest, observation, hintent, hutc, hafter, hdigest, hobservation, h⟩
  · rintro ⟨intent, digest, observation, hintent, hutc, hafter, hdigest, hobservation, h⟩
    exact ⟨intent, hintent, hutc, hafter, digest, hdigest, observation, hobservation, h⟩

theorem finalizeCancelledAttemptEvidence_eq_ok {attemptId : Str} {report : EvidenceReport}
    {stop : TrustedCancellationStop} {result : FinalizeAttemptResult} :
    r.finalizeCancelledAttemptEvidence attemptId report stop expectedVersion
        expectedAttemptVersion = .ok result ↔
      ∃ intent digest current finalized, r.cancelIntent = some intent ∧
        intent.digest = .ok digest ∧ stop.cancellationIntentDigest = digest ∧
        ¬ stop.firstStop < intent.recordedAt ∧ r.currentAttempt attemptId = .ok current ∧
        current.finalizeWith report (some stop) expectedAttemptVersion = .ok finalized ∧
        (r.cancellationStop = some stop ∧ r.state = .cancelled ∧ finalized.replayed = true ∧
            result = ⟨r, current, finalized.evidence, true⟩ ∨
          r.cancellationStop = none ∧ (0 ≤ expectedVersion ∧ expectedVersion = r.version) ∧
            r.state = .running ∧
            result.run.toFields = { r.toFields with
              state := .cancelled
              version := r.version + 1
              currentAssignmentId := none
              attempts := r.attempts.dropLast ++ [finalized.attempt]
              cancellationStop := some stop } ∧
            result = ⟨result.run, finalized.attempt, finalized.evidence, false⟩) := by
  simp only [finalizeCancelledAttemptEvidence, Attempt.finalizeCancellationEvidence, bind_eq_ok,
    exists_unit, need_eq_ok, notReadyIf_eq_ok, ne_eq, not_not]
  constructor
  · rintro ⟨intent, hintent, digest, hdigest, hbound, hafter, current, hcurrent, finalized,
      hfinalized, h⟩
    refine ⟨intent, digest, current, finalized, hintent, hdigest, hbound, hafter, hcurrent,
      hfinalized, ?_⟩
    cases hstop : r.cancellationStop with
    | some stored =>
      simp only [hstop] at h
      split at h
      · next hsame =>
        obtain ⟨hstate, rfl, hreplayed⟩ := hsame
        exact Or.inl ⟨rfl, hstate, hreplayed, (pure_eq_ok.mp h).symm⟩
      · simp only [throw_bind, reduceCtorEq] at h
    | none =>
      simp only [hstop, bind_eq_ok, exists_unit, ensureVersion_eq_ok, raiseIf_eq_ok,
        not_not, new_eq_ok, pure_eq_ok] at h
      obtain ⟨hversion, hstate, converged, hnext, rfl⟩ := h
      exact Or.inr ⟨rfl, hversion, hstate, hnext, rfl⟩
  · rintro ⟨intent, digest, current, finalized, hintent, hdigest, hbound, hafter, hcurrent,
      hfinalized, h⟩
    refine ⟨intent, hintent, digest, hdigest, hbound, hafter, current, hcurrent, finalized,
      hfinalized, ?_⟩
    rcases h with ⟨hstop, hstate, hreplayed, rfl⟩ | ⟨hstop, hversion, hstate, hnext, hresult⟩
    · simp only [hstop, hstate, hreplayed, and_self, if_true, pure_eq_ok]
    · simp only [hstop, bind_eq_ok, exists_unit, ensureVersion_eq_ok, raiseIf_eq_ok,
        not_not, new_eq_ok, pure_eq_ok]
      exact ⟨hversion, hstate, result.run, hnext, hresult.symm⟩

theorem replayRetry_eq_ok {existing intent : RetryIntent} :
    r.replayRetry existing intent = .ok r' ↔
      (∃ digest, existing.digest = .ok digest ∧ intent.digest = .ok digest) ∧ r' = r := by
  simp only [replayRetry, bind_eq_ok, exists_unit, raiseIf_eq_ok, ne_eq, not_not, pure_eq_ok]
  constructor
  · rintro ⟨digest, hstored, received, hreceived, rfl, rfl⟩
    exact ⟨⟨digest, hstored, hreceived⟩, rfl⟩
  · rintro ⟨⟨digest, hstored, hreceived⟩, rfl⟩
    exact ⟨digest, hstored, digest, hreceived, rfl, rfl⟩

theorem queueAdjudicatedRetry_ok {intent : RetryIntent}
    (h : r.queueAdjudicatedRetry intent expectedVersion = .ok r') :
    r' = r ∨ r.retryIntentById intent.id = none ∧ r.cancelIntent = none ∧ r.state = .running ∧
      r.queueIntent intent expectedVersion = .ok r' := by
  unfold queueAdjudicatedRetry at h
  cases hstored : r.retryIntentById intent.id with
  | some existing =>
    simp only [hstored, replayRetry_eq_ok] at h
    exact Or.inl h.2
  | none =>
    simp only [hstored, bind_eq_ok, exists_unit, raiseIf_eq_ok, not_or, ne_eq, not_not,
      Bool.not_eq_true, Option.isSome_eq_false_iff, Option.isNone_iff_eq_none] at h
    obtain ⟨_, -, -, hcancel, ⟨hstate, -⟩, -, h⟩ := h
    exact Or.inr ⟨rfl, hcancel, hstate, h⟩

/-- A policy retry is authoritative under a decision to retry with this very intent. -/
theorem ensurePolicyRetryIntentAuthoritative_eq_ok {intent : RetryIntent}
    {decision : RunRetryDecision} {source : Attempt} {u : Unit} :
    r.ensurePolicyRetryIntentAuthoritative intent decision source = .ok u ↔
      ∃ authority, intent.authority = .policy authority ∧ decision.decision = .retry ∧
        ∃ digest, intent.digest = .ok digest ∧ decision.retryIntentDigest = some digest ∧
          r.decisionMatches intent authority decision source := by
  unfold ensurePolicyRetryIntentAuthoritative
  cases intent.authority with
  | unknownAdjudication _ => simp [throw_eq_ok]
  | policy authority =>
    simp only [bind_eq_ok, exists_unit, raiseIf_eq_ok, not_or, ne_eq, not_not,
      RetryAuthority.policy.injEq, exists_eq_left']

theorem queuePolicyRetry_ok {intent : RetryIntent} {decision : RunRetryDecision}
    (h : r.queuePolicyRetry intent decision expectedVersion = .ok r') :
    r' = r ∨ r.retryIntentById intent.id = none ∧ r.cancelIntent = none ∧ r.state = .running ∧
      (decision.decision = .retry ∧
        ∃ digest, intent.digest = .ok digest ∧ decision.retryIntentDigest = some digest) ∧
      r.queueIntent intent expectedVersion = .ok r' := by
  unfold queuePolicyRetry at h
  cases hstored : r.retryIntentById intent.id with
  | some existing =>
    simp only [hstored, replayRetry_eq_ok] at h
    exact Or.inl h.2
  | none =>
    simp only [hstored, bind_eq_ok, exists_unit, raiseIf_eq_ok, not_or, ne_eq, not_not,
      Bool.not_eq_true, Option.isSome_eq_false_iff, Option.isNone_iff_eq_none] at h
    obtain ⟨_, -, hcancel, ⟨hstate, -⟩, hauthority, h⟩ := h
    obtain ⟨_, -, hretry, digest, hdigest, hsame, -⟩ :=
      ensurePolicyRetryIntentAuthoritative_eq_ok.mp hauthority
    exact Or.inr ⟨rfl, hcancel, hstate, ⟨hretry, digest, hdigest, hsame⟩, h⟩

theorem appendCurrentUnknownAdjudication_eq_ok {attemptId : Str}
    {adjudication : UnknownAdjudication} :
    r.appendCurrentUnknownAdjudication attemptId adjudication expectedVersion
        expectedAttemptVersion = .ok r' ↔
      ∃ current adjudicated, r.currentAttempt attemptId = .ok current ∧
        current.appendUnknownAdjudication adjudication expectedAttemptVersion = .ok adjudicated ∧
        (adjudicated = current ∧ r' = r ∨
          adjudicated ≠ current ∧ r.pendingRetryIntent = none ∧ r.state = .running ∧
            r.amendLatest adjudicated expectedVersion = .ok r') := by
  simp only [appendCurrentUnknownAdjudication, bind_eq_ok]
  constructor
  · rintro ⟨current, hcurrent, adjudicated, hadjudicated, h⟩
    refine ⟨current, adjudicated, hcurrent, hadjudicated, ?_⟩
    split at h
    · next heq => exact Or.inl ⟨heq, (pure_eq_ok.mp h).symm⟩
    · next hne =>
      simp only [then_eq_ok, raiseIf_eq_ok, not_or, ne_eq, not_not, Bool.not_eq_true,
        Option.isSome_eq_false_iff, Option.isNone_iff_eq_none] at h
      obtain ⟨⟨hpending, hstate⟩, h⟩ := h
      exact Or.inr ⟨hne, hpending, hstate, h⟩
  · rintro ⟨current, adjudicated, hcurrent, hadjudicated, h⟩
    refine ⟨current, hcurrent, adjudicated, hadjudicated, ?_⟩
    rcases h with ⟨heq, rfl⟩ | ⟨hne, hpending, hstate, h⟩
    · rw [if_pos heq, pure_eq_ok]
    · rw [if_neg hne, then_eq_ok, raiseIf_eq_ok]
      exact ⟨by simp [hpending, hstate], h⟩

/-- The start-commit command in terms of the Run it leaves. -/
theorem exec_commitStart {assignmentId startCommitKey newAttemptId : Str} {worker : WorkerRef}
    {specDigest : Digest} {observedAt : Datetime} :
    r.exec (.commitStart assignmentId worker startCommitKey specDigest newAttemptId observedAt
      expectedVersion) = .ok r' ↔
      ∃ result, r.commitStart assignmentId worker startCommitKey specDigest newAttemptId observedAt
        expectedVersion = .ok result ∧ result.run = r' := by
  simp only [exec, bind_eq_ok, pure_eq_ok]

theorem exec_finalizeCurrent {attemptId : Str} {report : EvidenceReport} :
    r.exec (.finalizeCurrentAttemptEvidence attemptId report expectedVersion
      expectedAttemptVersion) = .ok r' ↔
      ∃ result, r.finalizeCurrentAttemptEvidence attemptId report expectedVersion
        expectedAttemptVersion = .ok result ∧ result.run = r' := by
  simp only [exec, bind_eq_ok, pure_eq_ok]

theorem exec_finalizeCancelled {attemptId : Str} {report : EvidenceReport}
    {stop : TrustedCancellationStop} :
    r.exec (.finalizeCancelledAttemptEvidence attemptId report stop expectedVersion
      expectedAttemptVersion) = .ok r' ↔
      ∃ result, r.finalizeCancelledAttemptEvidence attemptId report stop expectedVersion
        expectedAttemptVersion = .ok result ∧ result.run = r' := by
  simp only [exec, bind_eq_ok, pure_eq_ok]

/-- The latest attempt was replaced by one with the same identity. -/
theorem change_amend {c : Command} {current updated : Attempt} {attemptId : Str}
    (hcurrent : r.currentAttempt attemptId = .ok current) (hid : updated.id = current.id)
    (hlive : current.state.terminal = false ∨ r.state = .running)
    (h : r.amendLatest updated expectedVersion = .ok r') :
    expectedVersion = r.version ∧ r.Change c r' := by
  obtain ⟨⟨-, hversion⟩, hnext⟩ := amendLatest_eq_ok.mp h
  exact ⟨hversion, .amend current updated (currentAttempt_eq_ok.mp hcurrent).1 hid hlive hnext⟩

theorem markCurrentAttemptUnknown_change {c : Command} {attemptId : Str}
    {observation : UnknownObservation}
    (h : r.markCurrentAttemptUnknown attemptId observation expectedVersion
      expectedAttemptVersion = .ok r') :
    r' = r ∨ expectedVersion = r.version ∧ r.Change c r' := by
  obtain ⟨current, authority, unknown, hcurrent, -, hunknown, ⟨-, rfl⟩ | ⟨hne, h⟩⟩ :=
    markCurrentAttemptUnknown_eq_ok.mp h
  · exact Or.inl rfl
  · obtain ⟨-, ⟨-, heq⟩ | ⟨-, -, hstate, hnext⟩⟩ := Attempt.markUnknown_eq_ok.mp hunknown
    · exact absurd heq hne
    · refine Or.inr (change_amend hcurrent (by rw [hnext]) (Or.inl ?_) h)
      simp only [List.mem_cons, List.not_mem_nil, or_false] at hstate
      rcases hstate with hstate | hstate | hstate | hstate <;> rw [hstate] <;> rfl

theorem closePrecommitAssignment_change {c : Command} {closure : AssignmentClosure}
    (h : r.closePrecommitAssignment closure expectedVersion = .ok r') :
    r' = r ∨ expectedVersion = r.version ∧ r.Change c r' := by
  rcases closePrecommitAssignment_ok h with rfl | ⟨-, h⟩
  · exact Or.inl rfl
  · obtain ⟨⟨-, hversion⟩, hstate, -, -, assignments, state, -, -, -, hnext⟩ := closeOpen_ok h
    exact Or.inr ⟨hversion, .reserve state assignments none hstate hnext⟩

theorem queueIntent_change {c : Command} {intent : RetryIntent} (hcancel : r.cancelIntent = none)
    (hstate : r.state = .running) (h : r.queueIntent intent expectedVersion = .ok r') :
    expectedVersion = r.version ∧ r.Change c r' := by
  obtain ⟨⟨-, hversion⟩, hnext⟩ := queueIntent_eq_ok.mp h
  exact ⟨hversion, .retry intent hstate hcancel hnext⟩

/-- A successful command returns the Run it was given, or was prepared against its version and
changes it in one of the known ways. -/
theorem exec_cases {c : Command} (h : r.exec c = .ok r') :
    r' = r ∨ c.expectedVersion = r.version ∧ r.Change c r' := by
  cases c with
  | transition target v =>
    obtain ⟨⟨-, hversion⟩, hstate, hnext⟩ := transition_ok h
    exact Or.inr ⟨hversion, .queue hstate hnext⟩
  | requestCancel key source actor reason observedAt v =>
    obtain ⟨intent, -, rfl | ⟨hnone, h⟩⟩ := requestCancel_ok h
    · exact Or.inl rfl
    · obtain ⟨⟨-, hversion⟩, state, assignments, current, hnext⟩ := recordCancel_ok h
      exact Or.inr ⟨hversion, .cancel intent state assignments current hnone hnext⟩
  | offerAssignment id worker authority spec offered expires v =>
    obtain ⟨⟨-, hversion⟩, hstate, assignment, hnext⟩ := offerAssignment_ok h
    exact Or.inr ⟨hversion, .offer assignment hstate hnext⟩
  | claimAssignment id worker observedAt v =>
    obtain ⟨⟨-, hversion⟩, hstate, assignments, hnext⟩ := claimAssignment_ok h
    exact Or.inr ⟨hversion, .reserve r.state assignments r.currentAssignmentId hstate hnext⟩
  | commitStart id worker key spec attemptId observedAt v =>
    obtain ⟨result, hresult, rfl⟩ := exec_commitStart.mp h
    obtain ⟨-, -, hsame | ⟨-, hclaimed⟩⟩ := commitStart_ok hresult
    · exact Or.inl hsame
    · obtain ⟨⟨-, hversion⟩, hstate, -, -, -, assignments, -, -, -, -, hnext⟩ :=
        commitClaimed_ok hclaimed
      exact Or.inr ⟨hversion, .commit result.attempt assignments hstate rfl hnext⟩
  | expirePrecommitAssignment id key observedAt v =>
    obtain ⟨-, closure, -, h⟩ := expirePrecommitAssignment_eq_ok.mp h
    exact closePrecommitAssignment_change h
  | releasePrecommitAssignment id worker key observedAt v =>
    obtain ⟨-, closure, -, h⟩ := releasePrecommitAssignment_eq_ok.mp h
    exact closePrecommitAssignment_change h
  | markCurrentAttemptUnknown id observation v w => exact markCurrentAttemptUnknown_change h
  | transitionCurrentAttempt id target v w =>
    obtain ⟨current, updated, hcurrent, hupdated, h⟩ := transitionCurrentAttempt_eq_ok.mp h
    obtain ⟨-, htarget, hnext⟩ := Attempt.transition_eq_ok.mp hupdated
    refine Or.inr (change_amend hcurrent (by rw [hnext]) (Or.inl ?_) h)
    cases hstate : current.state <;> simp [hstate, AttemptState.allowedTransitions] at htarget <;>
      rfl
  | recordCurrentAttemptEvent id event authority worker fence v w =>
    obtain ⟨current, updated, hcurrent, hupdated, ⟨-, rfl⟩ | ⟨hne, h⟩⟩ :=
      recordCurrentAttemptEvent_eq_ok.mp h
    · exact Or.inl rfl
    · obtain ⟨-, ⟨-, heq⟩ | ⟨-, -, hlive, -, hnext⟩⟩ := Attempt.recordEvent_eq_ok.mp hupdated
      · exact absurd heq hne
      · exact Or.inr (change_amend hcurrent (by rw [hnext]) (Or.inl hlive) h)
  | finalizeCurrentAttemptEvidence id report v w =>
    obtain ⟨result, hresult, rfl⟩ := exec_finalizeCurrent.mp h
    obtain ⟨current, finalized, hcurrent, hfinalized, ⟨-, rfl⟩ | ⟨hnew, updated, hamend, rfl⟩⟩ :=
      finalizeCurrentAttemptEvidence_eq_ok.mp hresult
    · exact Or.inl rfl
    · obtain ⟨-, -, -, ⟨hreplay, -⟩ | ⟨-, -, -, hstate, -, hnext⟩⟩ :=
        Attempt.finalizeWith_eq_ok.mp hfinalized
      · exact absurd (hreplay.symm.trans hnew) (by decide)
      · exact Or.inr (change_amend hcurrent (by rw [hnext]) (Or.inl (by rw [hstate]; rfl)) hamend)
  | markCancelStopUnproven id observationId recordedAt v w =>
    obtain ⟨_, _, _, _, _, _, _, _, h⟩ := markCancelStopUnproven_eq_ok.mp h
    exact markCurrentAttemptUnknown_change h
  | finalizeCancelledAttemptEvidence id report stop v w =>
    obtain ⟨result, hresult, rfl⟩ := exec_finalizeCancelled.mp h
    obtain ⟨_, _, current, finalized, -, -, -, -, hcurrent, hfinalized, ⟨-, -, -, heq⟩ |
      ⟨-, ⟨-, hversion⟩, hstate, hnext, -⟩⟩ := finalizeCancelledAttemptEvidence_eq_ok.mp hresult
    · rw [heq]
      exact Or.inl rfl
    · have hlast := (currentAttempt_eq_ok.mp hcurrent).1
      have hid : finalized.attempt.id = current.id := by
        obtain ⟨-, -, -, ⟨-, hsame, -⟩ | ⟨-, -, -, -, -, hnext⟩⟩ :=
          Attempt.finalizeWith_eq_ok.mp hfinalized
        · rw [hsame]
        · rw [hnext]
      exact Or.inr ⟨hversion, .converge current finalized.attempt stop hlast hid hstate hnext⟩
  | queueAdjudicatedRetry intent v =>
    rcases queueAdjudicatedRetry_ok h with rfl | ⟨-, hcancel, hstate, h⟩
    · exact Or.inl rfl
    · exact Or.inr (queueIntent_change hcancel hstate h)
  | queuePolicyRetry intent decision v =>
    rcases queuePolicyRetry_ok h with rfl | ⟨-, hcancel, hstate, -, h⟩
    · exact Or.inl rfl
    · exact Or.inr (queueIntent_change hcancel hstate h)
  | appendCurrentUnknownAdjudication id adjudication v w =>
    obtain ⟨current, adjudicated, hcurrent, hadjudicated, ⟨-, rfl⟩ | ⟨hne, -, hstate, h⟩⟩ :=
      appendCurrentUnknownAdjudication_eq_ok.mp h
    · exact Or.inl rfl
    · rcases Attempt.appendUnknownAdjudication_eq_ok.mp hadjudicated with ⟨-, heq⟩ | ⟨-, -, hnext⟩
      · exact absurd heq hne
      · exact Or.inr (change_amend hcurrent (by rw [hnext]) (Or.inr hstate) h)

end Run
end QaRunner
