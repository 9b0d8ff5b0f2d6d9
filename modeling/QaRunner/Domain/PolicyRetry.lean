import QaRunner.Domain.RunSteps
import QaRunner.Lib.Aggregate

/-! Which commands can put a retry that a policy authorized into a Run. -/
namespace QaRunner
open Guarded Aggregate

namespace Run
variable {r r' : Run} {c : Command} {v : ℤ} {intent : RetryIntent}

/-- The command can queue a retry. -/
def Command.queues : Command → Bool
  | .queueAdjudicatedRetry .. => true
  | .queuePolicyRetry .. => true
  | _ => false

theorem amendLatest_intents {updated : Attempt} (h : r.amendLatest updated v = .ok r') :
    r'.retryIntents = r.retryIntents := by
  rw [(amendLatest_eq_ok.mp h).2]

theorem closePrecommitAssignment_intents {closure : AssignmentClosure}
    (h : r.closePrecommitAssignment closure v = .ok r') : r'.retryIntents = r.retryIntents := by
  rcases closePrecommitAssignment_ok h with rfl | ⟨-, h⟩
  · rfl
  · obtain ⟨-, -, _, _, _, _, -, -, -, hnext⟩ := closeOpen_ok h
    rw [hnext]

theorem markCurrentAttemptUnknown_intents {attemptId : Str} {observation : UnknownObservation}
    {w : ℤ} (h : r.markCurrentAttemptUnknown attemptId observation v w = .ok r') :
    r'.retryIntents = r.retryIntents := by
  obtain ⟨_, _, _, -, -, -, ⟨-, rfl⟩ | ⟨-, h⟩⟩ := markCurrentAttemptUnknown_eq_ok.mp h
  · rfl
  · exact amendLatest_intents h

/-- Every other command leaves the queued retries as they are. -/
theorem exec_intents (h : r.exec c = .ok r') (hc : c.queues = false) :
    r'.retryIntents = r.retryIntents := by
  cases c with
  | transition target v => rw [(transition_ok h).2.2]
  | requestCancel key source actor reason observedAt v =>
    obtain ⟨_, -, rfl | ⟨-, h⟩⟩ := requestCancel_ok h
    · rfl
    · obtain ⟨-, _, _, _, hnext⟩ := recordCancel_ok h
      rw [hnext]
  | offerAssignment id worker authority spec offered expires v =>
    obtain ⟨-, -, _, hnext⟩ := offerAssignment_ok h
    rw [hnext]
  | claimAssignment id worker observedAt v =>
    obtain ⟨-, -, _, hnext⟩ := claimAssignment_ok h
    rw [hnext]
  | commitStart id worker key spec attemptId observedAt v =>
    obtain ⟨_, hresult, rfl⟩ := exec_commitStart.mp h
    obtain ⟨_, -, hsame | ⟨-, hclaimed⟩⟩ := commitStart_ok hresult
    · rw [hsame]
    · obtain ⟨-, -, _, _, _, _, -, -, -, -, hnext⟩ := commitClaimed_ok hclaimed
      rw [hnext]
  | expirePrecommitAssignment id key observedAt v =>
    obtain ⟨-, _, -, h⟩ := expirePrecommitAssignment_eq_ok.mp h
    exact closePrecommitAssignment_intents h
  | releasePrecommitAssignment id worker key observedAt v =>
    obtain ⟨-, _, -, h⟩ := releasePrecommitAssignment_eq_ok.mp h
    exact closePrecommitAssignment_intents h
  | markCurrentAttemptUnknown id observation v w => exact markCurrentAttemptUnknown_intents h
  | transitionCurrentAttempt id target v w =>
    obtain ⟨_, _, -, -, h⟩ := transitionCurrentAttempt_eq_ok.mp h
    exact amendLatest_intents h
  | recordCurrentAttemptEvent id event authority worker fence v w =>
    obtain ⟨_, _, -, -, ⟨-, rfl⟩ | ⟨-, h⟩⟩ := recordCurrentAttemptEvent_eq_ok.mp h
    · rfl
    · exact amendLatest_intents h
  | finalizeCurrentAttemptEvidence id report v w =>
    obtain ⟨_, hresult, rfl⟩ := exec_finalizeCurrent.mp h
    obtain ⟨_, _, -, -, ⟨-, rfl⟩ | ⟨-, _, hamend, rfl⟩⟩ :=
      finalizeCurrentAttemptEvidence_eq_ok.mp hresult
    · rfl
    · exact amendLatest_intents hamend
  | markCancelStopUnproven id observationId recordedAt v w =>
    obtain ⟨_, _, _, _, _, _, _, _, h⟩ := markCancelStopUnproven_eq_ok.mp h
    exact markCurrentAttemptUnknown_intents h
  | finalizeCancelledAttemptEvidence id report stop v w =>
    obtain ⟨_, hresult, rfl⟩ := exec_finalizeCancelled.mp h
    obtain ⟨_, _, _, _, -, -, -, -, -, -, ⟨-, -, -, heq⟩ | ⟨-, -, -, hnext, -⟩⟩ :=
      finalizeCancelledAttemptEvidence_eq_ok.mp hresult
    · rw [heq]
    · rw [hnext]
  | queueAdjudicatedRetry intent v => cases hc
  | queuePolicyRetry intent decision v => cases hc
  | appendCurrentUnknownAdjudication id adjudication v w =>
    obtain ⟨_, _, -, -, ⟨-, rfl⟩ | ⟨-, -, -, h⟩⟩ := appendCurrentUnknownAdjudication_eq_ok.mp h
    · rfl
    · exact amendLatest_intents h

/-- The command appended the intent under a decision to retry with this very intent. -/
def Decides (r : Run) (c : Command) (intent : RetryIntent) : Prop :=
  ∃ decision v, c = .queuePolicyRetry intent decision v ∧ decision.decision = .retry ∧
    (∃ digest, intent.digest = .ok digest ∧ decision.retryIntentDigest = some digest) ∧
    ∃ r', r.exec c = .ok r' ∧ r'.retryIntents = r.retryIntents ++ [intent]

/-- A retry that a policy authorized is not handed to the adjudicated queue, unless the Run holds
an intent of its identity already. -/
def Gated (r : Run) (c : Command) : Prop :=
  ∀ intent v authority, c = .queueAdjudicatedRetry intent v → intent.authority = .policy authority →
    (r.retryIntentById intent.id).isSome

/-- A policy retry enters the Run with its decision, or past the gate. -/
theorem policy_intent_added {authority : PolicyRetryAuthority} (h : r.exec c = .ok r')
    (hpolicy : intent.authority = .policy authority) (hgated : r.Gated c)
    (hold : intent ∉ r.retryIntents) (hnew : intent ∈ r'.retryIntents) : r.Decides c intent := by
  have happended : ∀ {intent'} {v : ℤ}, r.queueIntent intent' v = .ok r' →
      intent = intent' ∧ r'.retryIntents = r.retryIntents ++ [intent'] := by
    intro intent' v hqueue
    have hnext := (queueIntent_eq_ok.mp hqueue).2
    rw [hnext, List.mem_append, List.mem_singleton] at hnew
    exact ⟨hnew.resolve_left hold, by rw [hnext]⟩
  by_cases hc : c.queues = true
  · cases c with
    | queueAdjudicatedRetry intent' v =>
      rcases queueAdjudicatedRetry_ok h with rfl | ⟨hnone, -, -, hqueue⟩
      · exact absurd hnew hold
      · obtain ⟨rfl, -⟩ := happended hqueue
        have hsome := hgated intent v authority rfl hpolicy
        rw [hnone] at hsome
        cases hsome
    | queuePolicyRetry intent' decision v =>
      rcases queuePolicyRetry_ok h with rfl | ⟨-, -, -, ⟨hretry, hdigest⟩, hqueue⟩
      · exact absurd hnew hold
      · obtain ⟨rfl, hlist⟩ := happended hqueue
        exact ⟨decision, v, rfl, hretry, hdigest, r', h, hlist⟩
    | _ => cases hc
  · rw [exec_intents h (by simpa using hc)] at hnew
    exact absurd hnew hold

/-- While the gate holds, every retry that a policy authorized was decided. -/
theorem policy_retries_decided {runId : Str} {start : Run}
    (hstart : Run.create runId = .ok start) (cs : List Command)
    (hgated : ∀ t c, Issued exec start cs t c → t.Gated c) :
    ∀ intent ∈ (after exec start cs).retryIntents, ∀ authority,
      intent.authority = .policy authority →
        ∃ t c, Issued exec start cs t c ∧ t.Decides c intent := by
  intro intent hmem authority hpolicy
  have hnone : intent ∉ start.retryIntents := by
    rw [Run.new_eq_ok.mp hstart]
    exact List.not_mem_nil
  obtain ⟨t, c, t', hissued, hok, hold, hnew⟩ :=
    exists_issued (P := fun r : Run => intent ∈ r.retryIntents) hnone hmem
  exact ⟨t, c, hissued, policy_intent_added hok hpolicy (hgated t c hissued) hold hnew⟩

/-- A Run that executes its committed reservation queues what its authority check passes. -/
theorem queueAdjudicatedRetry_of {source : Attempt} (hnone : r.retryIntentById intent.id = none)
    (hsource : r.currentAttempt intent.sourceAttemptId = .ok source)
    (hauthority : r.ensureRetryIntentAuthoritative intent source = .ok ())
    (hidle : r.cancelIntent.isSome = false ∧ r.state = .running ∧
      r.pendingRetryIntent.isSome = false)
    (hcommitted : ∃ current ∈ r.assignment, current.state = .committed) :
    r.queueAdjudicatedRetry intent v = r.queueIntent intent v := by
  obtain ⟨hcancel, hstate, hpending⟩ := hidle
  simp only [queueAdjudicatedRetry, hnone, hsource, hauthority, ok_bind]
  rw [raiseIf_of_not (by simp [hcancel]), raiseIf_of_not (by simp [hstate, hpending]),
    raiseIf_of_not (not_not.mpr hcommitted)]
  rfl

theorem queuePolicyRetry_of {decision : RunRetryDecision} {source : Attempt}
    (hnone : r.retryIntentById intent.id = none)
    (hsource : r.currentAttempt intent.sourceAttemptId = .ok source)
    (hidle : r.cancelIntent.isSome = false ∧ r.state = .running ∧
      r.pendingRetryIntent.isSome = false)
    (hauthority : r.ensurePolicyRetryIntentAuthoritative intent decision source = .ok ()) :
    r.queuePolicyRetry intent decision v = r.queueIntent intent v := by
  obtain ⟨hcancel, hstate, hpending⟩ := hidle
  simp only [queuePolicyRetry, hnone, hsource, ok_bind]
  rw [raiseIf_of_not (by simp [hcancel]), raiseIf_of_not (by simp [hstate, hpending]), hauthority]
  rfl

def sampleWorker : WorkerRef := ⟨⟨"worker-1", 1⟩, WorkerRef.first_accepted⟩

def readyWorker : WorkerGeneration where
  ref := sampleWorker
  hostId := "host-1"
  poolId := "pool-1"
  certSerial := "cert-1"
  agentVersion := "agent-1"
  capabilitiesDigest := Digest.zero
  state := .ready
  registeredAt := ⟨1000000, some 0⟩
  stateChangedAt := ⟨1000000, some 0⟩
  lastSeenAt := none
  retiredAt := none
  version := 0
  accepted := by decide

/-- One attempt is executed up to its upload. -/
def upToUpload : List Command :=
  [.transition .queued 0,
    .offerAssignment "assignment-1" readyWorker ⟨sampleWorker⟩ Digest.zero ⟨1000000, some 0⟩
      ⟨9000000, some 0⟩ 1,
    .claimAssignment "assignment-1" sampleWorker ⟨2000000, some 0⟩ 2,
    .commitStart "assignment-1" sampleWorker "commit-1" Digest.zero "attempt-1" ⟨3000000, some 0⟩ 3,
    .transitionCurrentAttempt "attempt-1" .provisioning 4 0,
    .transitionCurrentAttempt "attempt-1" .uploading 5 1]

def uploadingAttempt : Attempt where
  id := "attempt-1"
  runId := "run-1"
  attemptNo := 1
  fence := 1
  assignmentId := "assignment-1"
  worker := sampleWorker
  specDigest := Digest.zero
  startCommitKey := "commit-1"
  events := []
  evidence := none
  unknownObservation := none
  adjudications := []
  state := .uploading
  version := 2
  accepted := by decide

def committedOffer : Assignment where
  id := "assignment-1"
  worker := sampleWorker
  specDigest := Digest.zero
  state := .committed
  offeredAt := ⟨1000000, some 0⟩
  expiresAt := ⟨9000000, some 0⟩
  claimedAt := some ⟨2000000, some 0⟩
  committedAt := some ⟨3000000, some 0⟩
  accepted := by decide

def uploadingRun : Run where
  id := "run-1"
  state := .running
  version := 6
  currentFence := 1
  assignments := [committedOffer]
  currentAssignmentId := some "assignment-1"
  attempts := [uploadingAttempt]
  retryIntents := []
  pendingRetryIntentId := none
  accepted := by decide

def created : Run where
  id := "run-1"
  state := .planned
  version := 0
  currentFence := 0
  assignments := []
  currentAssignmentId := none
  attempts := []
  retryIntents := []
  pendingRetryIntentId := none
  accepted := by decide

theorem uploading_ok : after exec created upToUpload = uploadingRun := by decide +kernel

/-- The platform lost the process. -/
def lostExit : TrustedExitFacts where
  sourceEventId := "event-1"
  pid := none
  exitClass := .infraFailed
  exitCode := none
  signal := none
  oom := true
  timeout := false

def lostInput : EvidenceInput where
  attemptId := "attempt-1"
  runId := "run-1"
  attemptNo := 1
  assignmentId := "assignment-1"
  fence := 1
  worker := sampleWorker
  executionSpecDigest := Digest.zero
  trustedExit := some lostExit
  caseSummary := none
  artifacts := []
  cancellationStop := none

/-- The evidence the control plane rebuilds for it. -/
def lostManifest : EvidenceManifest where
  schemaVersion := "qep.m0-attempt-evidence.v1"
  attemptId := "attempt-1"
  runId := "run-1"
  attemptNo := 1
  assignmentId := "assignment-1"
  fence := 1
  worker := sampleWorker
  executionSpecDigest := Digest.zero
  platformExit := lostExit
  caseSummary := none
  artifacts := []
  classificationVersion := "qep.attempt-classification.v1"
  outcome := .infraFailed
  rootDigest := contentDigest "qep.m0-attempt-evidence.v1"
    (.dict (lostInput.payload lostExit [] .infraFailed))
  cancellationStop := none

def lostReport : EvidenceReport where
  proposal := ⟨lostManifest.rootDigest⟩
  trustedExit := some lostExit
  caseSummary := none
  artifacts := []
  requirements := ⟨[]⟩
  authority := ⟨⟨1, sampleWorker⟩, by decide⟩
  worker := sampleWorker
  fence := 1

def lostAttempt : Attempt where
  toFields := { uploadingAttempt.toFields with
    evidence := some lostManifest
    state := .infraFailed
    version := 3 }
  accepted := by decide

theorem lostManifest_ok : buildEvidenceManifest lostInput = .ok lostManifest := rfl

theorem lostAttempt_ok : Fields.validateEvidenceSnapshot lostAttempt = .ok () := by
  refine whenSome_eq_ok.mpr fun evidence hevidence => ?_
  obtain rfl : lostManifest = evidence := Option.some.inj hevidence
  refine bind_eq_ok.mpr ⟨lostManifest, orFail_eq_ok.mpr lostManifest_ok, then_eq_ok.mpr ⟨?_, ?_⟩⟩
  · exact invalidRunIf_eq_ok.mpr (not_not.mpr rfl)
  · exact invalidRunIf_eq_ok.mpr (not_not.mpr rfl)

/-- The Run that lost its attempt, or that queued the retry of it. -/
def lostFields (state : RunState) (version : ℤ) (current : Option Str)
    (intents : List RetryIntent) : Fields :=
  { uploadingRun.toFields with
    state := state
    version := version
    currentAssignmentId := current
    attempts := [lostAttempt]
    retryIntents := intents
    pendingRetryIntentId := intents.head?.map (·.id) }

theorem lostFields_snapshots : each [lostAttempt] Fields.validateEvidenceSnapshot = .ok () := by
  rw [each, lostAttempt_ok]
  rfl

/-- The Run that lost its attempt. -/
def lostRun : Run where
  toFields := lostFields .running 7 (some "assignment-1") []
  accepted := by
    simp only [Fields.postInit, Fields.validateStatePointers, then_eq_ok]
    exact ⟨rfl, rfl, rfl, rfl, rfl, rfl, rfl, rfl, ⟨rfl, lostFields_snapshots, rfl, rfl, rfl⟩, rfl,
      rfl⟩

theorem lost_ok : uploadingRun.exec (.finalizeCurrentAttemptEvidence "attempt-1" lostReport 6 2) =
    .ok lostRun := by
  refine exec_finalizeCurrent.mpr ⟨⟨lostRun, lostAttempt, lostManifest, false⟩, ?_, rfl⟩
  refine finalizeCurrentAttemptEvidence_eq_ok.mpr ⟨uploadingAttempt,
    ⟨lostAttempt, lostManifest, false⟩, by decide, ?_, Or.inr ⟨rfl, lostRun, ?_, rfl⟩⟩
  · exact Attempt.finalizeWith_eq_ok.mpr ⟨by decide, lostManifest_ok, rfl,
      Or.inr ⟨rfl, rfl, by decide, rfl, rfl, rfl⟩⟩
  · exact amendLatest_eq_ok.mpr ⟨by decide, rfl⟩

def platformAuthority : PolicyRetryAuthority where
  family := .platform
  decisionSourceKind := .platformPolicy
  policyDigest := Digest.zero
  authoritySchema := "qep.platform-retry-authority.v1"
  authorityId := "authority-1"
  authorityVersion := 1
  authorityDigest := Digest.zero
  sourceOutcome := .infraFailed
  itemResolutionSetDigest := Digest.zero
  sourceItemSetDigest := Digest.zero
  targetItemSetDigest := Digest.zero
  accepted := by decide

def platformIntent : RetryIntent where
  id := "intent-1"
  runId := "run-1"
  sourceAttemptId := "attempt-1"
  sourceAttemptNo := 1
  sourceFence := 1
  authority := .policy platformAuthority
  executionSpecDigest := Digest.zero
  createdAt := ⟨4000000, some 0⟩
  accepted := by decide

/-- The platform's decision to retry the lost attempt. -/
def platformDecision : RunRetryDecision where
  source := {
    runId := "run-1"
    runVersion := 7
    attemptId := "attempt-1"
    attemptNo := 1
    attemptFence := 1
    outcome := .infraFailed
    reasonClass := "platform"
    reasonCode := "process_lost"
    itemResolutionSetDigest := Digest.zero
    sourceItemSetDigest := Digest.zero
    targetItemSetDigest := Digest.zero
    priorExecutionStopDigest := none
    accepted := by decide }
  decision := .retry
  decisionSourceKind := .platformPolicy
  retryIntentDigest := platformIntent.digest.toOption
  authoritySchema := some "qep.platform-retry-authority.v1"
  authorityId := some "authority-1"
  authorityVersion := some 1
  authorityDigest := some Digest.zero
  policyDigest := some Digest.zero
  accepted := by decide

/-- The Run that queued a retry of the lost attempt. -/
def retriedRun : Run where
  toFields := lostFields .retryQueued 8 none [platformIntent]
  accepted := by
    simp only [Fields.postInit, Fields.validateStatePointers, then_eq_ok]
    exact ⟨rfl, rfl, rfl, rfl, rfl, rfl, rfl, rfl, ⟨rfl, lostFields_snapshots, rfl, rfl, rfl⟩, rfl,
      rfl⟩

theorem queue_ok : lostRun.queueIntent platformIntent 7 = .ok retriedRun :=
  queueIntent_eq_ok.mpr ⟨by decide, rfl⟩

theorem adjudicated_ok : lostRun.exec (.queueAdjudicatedRetry platformIntent 7) =
    .ok retriedRun :=
  (queueAdjudicatedRetry_of rfl rfl rfl ⟨rfl, rfl, rfl⟩ ⟨committedOffer, rfl, rfl⟩).trans queue_ok

theorem decided_ok : lostRun.exec (.queuePolicyRetry platformIntent platformDecision 7) =
    .ok retriedRun := by
  refine (queuePolicyRetry_of rfl rfl ⟨rfl, rfl, rfl⟩ ?_).trans queue_ok
  have hdigest : ∃ digest, platformIntent.digest = .ok digest := canonicalDigest_of_valid rfl
  obtain ⟨digest, hdigest⟩ := hdigest
  refine ensurePolicyRetryIntentAuthoritative_eq_ok.mpr
    ⟨platformAuthority, rfl, rfl, digest, hdigest, ?_, by decide⟩
  exact congrArg Except.toOption hdigest

/-- Everything up to the loss of the attempt. -/
def upToLoss : List Command :=
  upToUpload ++ [.finalizeCurrentAttemptEvidence "attempt-1" lostReport 6 2]

theorem loss_ok : after exec created upToLoss = lostRun := after_concat uploading_ok lost_ok

theorem policy_retries_decided_platform :
    platformIntent ∈ (after exec created (upToLoss ++
        [.queuePolicyRetry platformIntent platformDecision 7])).retryIntents ∧
      ∃ t c, Issued exec created (upToLoss ++
        [.queuePolicyRetry platformIntent platformDecision 7]) t c ∧
        t.Decides c platformIntent := by
  have hmem : platformIntent ∈ (after exec created (upToLoss ++
      [.queuePolicyRetry platformIntent platformDecision 7])).retryIntents := by
    rw [after_concat loss_ok decided_ok]
    exact List.mem_singleton.mpr rfl
  have hcreated : Run.create "run-1" = .ok created := rfl
  refine ⟨hmem, policy_retries_decided hcreated _ ?_ _ hmem platformAuthority rfl⟩
  rintro t c ⟨earlier, later, hcs, -⟩ intent v authority rfl -
  have hc : Command.queueAdjudicatedRetry intent v ∈ upToLoss ++
      [.queuePolicyRetry platformIntent platformDecision 7] := by simp [hcs]
  simp [upToLoss, upToUpload] at hc

/-- The adjudicated queue takes a retry that no decision stands behind. -/
theorem policy_retry_undecided : Run.create "run-1" = .ok created ∧ ∃ cs intent authority,
    intent ∈ (after exec created cs).retryIntents ∧ intent.authority = .policy authority ∧
      ¬ ∃ t c, Issued exec created cs t c ∧ t.Decides c intent := by
  refine ⟨rfl, upToLoss ++ [.queueAdjudicatedRetry platformIntent 7], platformIntent,
    platformAuthority, ?_, rfl, ?_⟩
  · rw [after_concat loss_ok adjudicated_ok]
    exact List.mem_singleton.mpr rfl
  · rintro ⟨t, c, ⟨earlier, later, hcs, -⟩, decision, v, rfl, -⟩
    have hc : Command.queuePolicyRetry platformIntent decision v ∈ upToLoss ++
        [.queueAdjudicatedRetry platformIntent 7] := by simp [hcs]
    simp [upToLoss, upToUpload] at hc

end Run
end QaRunner
